/-
This file says where the values of a grammar stand in a text, and that the search of a lawful reader
finds each of them once, from left to right. So a search that skips what it has read loses nothing.
-/

import Outline.Proofs.Search

namespace Outline

/-- A grammar says which values the front of a text spells. -/
abbrev Grammar (α : Type) := Text → α → Prop

namespace Text

theorem mem_lineTails_iff {text tail : Text} :
    tail ∈ lineTails true text ↔ tail ≠ [] ∧ ∃ before, text = before ++ tail ∧ Flush before := by
  constructor
  · intro member
    obtain ⟨nonempty, before, split, flush, _⟩ := exists_flush_of_mem_lineTails member
    exact ⟨nonempty, before, split, flush⟩
  · intro shape
    obtain ⟨nonempty, before, split, flush⟩ := shape
    cases tail with
    | nil => exact absurd rfl nonempty
    | cons first rest =>
        rw [split, lineTails_append, startsLine_of_flush flush]
        simp [lineTails]

end Text

namespace Grammar

open Text

variable {α β : Type}

/-- A value stands at a position if a line starts there and the text behind it spells the value. -/
def At (grammar : Grammar α) (text : Text) (position : Nat) (value : α) : Prop :=
  ∃ before tail, text = before ++ tail ∧ before.length = position ∧
    (before = [] ∨ before.getLast? = some '\n') ∧ grammar tail value

/-- All the values of a text with their positions, in increasing order and no position twice. -/
structure Lists (grammar : Grammar α) (text : Text) (places : List (Nat × α)) : Prop where
  increasing : (places.map Prod.fst).Pairwise (· < ·)
  complete : ∀ position value, (position, value) ∈ places ↔ grammar.At text position value

/-- The value at the least position, if there is any. -/
inductive First (grammar : Grammar α) (text : Text) : Option α → Prop where
  | found {position : Nat} {value : α} (here : grammar.At text position value)
      (least : ∀ other value, other < position → ¬grammar.At text other value) :
      First grammar text (some value)
  | absent (nowhere : ∀ position value, ¬grammar.At text position value) : First grammar text none

/-- A grammar is definite if no text spells two values. -/
def Definite (grammar : Grammar α) : Prop :=
  ∀ tail value other, grammar tail value → grammar tail other → value = other

variable {grammar : Grammar α} {text : Text}

theorem At.unique (definite : grammar.Definite) {position : Nat} {value other : α}
    (here : grammar.At text position value) (here' : grammar.At text position other) : value = other := by
  obtain ⟨before, tail, split, length, _, spelled⟩ := here
  obtain ⟨before', tail', split', length', _, spelled'⟩ := here'
  obtain ⟨_, rfl⟩ := List.append_inj (split.symm.trans split') (by omega)
  exact definite _ _ _ spelled spelled'

theorem First.unique (definite : grammar.Definite) {value other : Option α}
    (first : grammar.First text value) (first' : grammar.First text other) : value = other := by
  cases first with
  | absent nowhere =>
      cases first' with
      | absent _ => rfl
      | found here _ => exact absurd here (nowhere _ _)
  | @found position value here least =>
      cases first' with
      | absent nowhere => exact absurd here (nowhere _ _)
      | @found position' other here' least' =>
          have same : position = position' := by
            apply Nat.le_antisymm
            · exact Nat.le_of_not_lt fun below => least _ _ below here'
            · exact Nat.le_of_not_lt fun below => least' _ _ below here
          subst same
          rw [here.unique definite here']

/-- The first of the listed values is the one at the least position. -/
theorem Lists.first {places : List (Nat × α)} (lists : grammar.Lists text places) :
    grammar.First text (places.map Prod.snd).head? := by
  cases places with
  | nil => exact .absent fun position value here => by simpa using (lists.complete position value).mpr here
  | cons place places =>
      refine .found ((lists.complete place.1 place.2).mp List.mem_cons_self) ?_
      intro position value below here
      have increasing := lists.increasing
      rw [List.map_cons, List.pairwise_cons] at increasing
      rcases List.mem_cons.mp ((lists.complete position value).mpr here) with same | later
      · rw [← same] at below
        exact Nat.lt_irrefl _ below
      · have above := increasing.1 position (List.mem_map_of_mem later)
        omega

/-- Values that are made from listed values are listed at the same positions. -/
theorem Lists.map {places : List (Nat × α)} (lists : grammar.Lists text places) {make : α → β}
    {other : Grammar β}
    (made : ∀ tail value, other tail value ↔ ∃ origin, grammar tail origin ∧ make origin = value) :
    other.Lists text (places.map fun place => (place.1, make place.2)) where
  increasing := by
    rw [List.map_map]
    exact lists.increasing
  complete := by
    intro position value
    have atMade : other.At text position value ↔
        ∃ origin, grammar.At text position origin ∧ make origin = value := by
      simp only [At, made]
      constructor
      · intro shape
        obtain ⟨before, tail, split, length, starts, origin, spelled, same⟩ := shape
        exact ⟨origin, ⟨before, tail, split, length, starts, spelled⟩, same⟩
      · intro shape
        obtain ⟨origin, ⟨before, tail, split, length, starts, spelled⟩, same⟩ := shape
        exact ⟨before, tail, split, length, starts, origin, spelled, same⟩
    simp only [atMade, ← lists.complete, List.mem_map, Prod.mk.injEq, Prod.exists]
    constructor
    · intro shape
      obtain ⟨_, origin, member, rfl, same⟩ := shape
      exact ⟨origin, member, same⟩
    · intro shape
      obtain ⟨origin, member, same⟩ := shape
      exact ⟨position, origin, member, rfl, same⟩

end Grammar

namespace Reader

open Text

variable {α : Type} {read : Reader α} {grammar : Grammar α}

/-- A reader accepts a grammar if it finds in front of a text exactly what the grammar says. -/
def Accepts (read : Reader α) (grammar : Grammar α) : Prop :=
  ∀ tail value, read.answer tail = some value ↔ grammar tail value

theorem Accepts.definite (accepts : read.Accepts grammar) : grammar.Definite := by
  intro tail value other spelled spelled'
  have answers := ((accepts tail value).mpr spelled).symm.trans ((accepts tail other).mpr spelled')
  exact Option.some.inj answers

theorem answer_eq_some_iff {tail : Text} {value : α} :
    read.answer tail = some value ↔ ∃ rest, read tail = some (value, rest) := by
  simp [answer]

/-- The hits start at increasing positions. -/
theorem hits_increasing (lawful : read.Lawful) (text : Text) :
    (read.hits text).Pairwise fun first second => first.start < second.start := by
  rw [hits_eq lawful, List.pairwise_filterMap]
  refine (lineTails_pairwise true text).imp_of_mem ?_
  intro earlier later member _ precedes first firstFound second secondFound
  obtain ⟨_, _, rfl⟩ := Option.map_eq_some_iff.mp firstFound
  obtain ⟨_, _, rfl⟩ := Option.map_eq_some_iff.mp secondFound
  have inside := length_le_of_mem_lineTails member
  obtain ⟨between, nonempty, _, rfl⟩ := precedes
  have positive := List.length_pos_of_ne_nil nonempty
  rw [List.length_append] at inside ⊢
  show text.length - (between.length + later.length) < text.length - later.length
  omega

/-- The search starts a hit at a position exactly if the grammar puts the value there. -/
theorem exists_hit_iff (lawful : read.Lawful) (accepts : read.Accepts grammar) {text : Text}
    {position : Nat} {value : α} :
    (∃ hit ∈ read.hits text, hit.start = position ∧ hit.value = value) ↔
      grammar.At text position value := by
  rw [hits_eq lawful]
  constructor
  · intro shape
    obtain ⟨hit, member, rfl, rfl⟩ := shape
    obtain ⟨tail, inside, found⟩ := List.mem_filterMap.mp member
    obtain ⟨⟨value, rest⟩, reads, rfl⟩ := Option.map_eq_some_iff.mp found
    obtain ⟨_, before, split, flush⟩ := mem_lineTails_iff.mp inside
    refine ⟨before, tail, split, ?_, flush, (accepts tail value).mp (answer_eq_some_iff.mpr ⟨rest, reads⟩)⟩
    rw [split, List.length_append]
    show before.length = before.length + tail.length - tail.length
    omega
  · intro shape
    obtain ⟨before, tail, split, rfl, flush, spelled⟩ := shape
    obtain ⟨rest, reads⟩ := answer_eq_some_iff.mp ((accepts tail value).mpr spelled)
    have nonempty : tail ≠ [] := by
      obtain ⟨matched, nonempty, whole⟩ := lawful.progress reads
      simp [whole, nonempty]
    refine ⟨_, List.mem_filterMap.mpr ⟨tail, mem_lineTails_iff.mpr ⟨nonempty, before, split, flush⟩,
      by rw [hitAt, reads, Option.map_some]⟩, ?_, rfl⟩
    rw [split, List.length_append]
    show before.length + tail.length - tail.length = before.length
    omega

/-- The places of a search: where each hit starts, with the value that is read there. -/
def places (read : Reader α) (text : Text) : List (Nat × α) :=
  (read.hits text).map fun hit => (hit.start, hit.value)

theorem map_snd_places (read : Reader α) (text : Text) :
    (read.places text).map Prod.snd = read.values text := by
  rw [places, List.map_map]
  rfl

/-- The places of a search are the places of the values of the grammar. -/
theorem lists_places (lawful : read.Lawful) (accepts : read.Accepts grammar) (text : Text) :
    grammar.Lists text (read.places text) where
  increasing := by
    rw [places, List.map_map, List.pairwise_map]
    exact hits_increasing lawful text
  complete := by
    intro position value
    rw [← exists_hit_iff lawful accepts]
    simp only [places, List.mem_map, Prod.mk.injEq]

/-- The values that a search finds are the values of the grammar, in the order of their positions. -/
theorem exists_lists (lawful : read.Lawful) (accepts : read.Accepts grammar) (text : Text) :
    ∃ places, grammar.Lists text places ∧ read.values text = places.map Prod.snd :=
  ⟨read.places text, lists_places lawful accepts text, (map_snd_places read text).symm⟩

/-- The first value that a search finds stands at the least position of the grammar. -/
theorem first?_spec (lawful : read.Lawful) (accepts : read.Accepts grammar) (text : Text) :
    grammar.First text (read.first? text) := by
  obtain ⟨places, lists, values⟩ := exists_lists lawful accepts text
  rw [first?, values]
  exact lists.first

end Reader

end Outline
