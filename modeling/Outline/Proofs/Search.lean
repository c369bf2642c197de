/-
This file states what the search finds. A lawful reader never runs over a line start at which it
succeeds itself, so the search finds what it reads at every line start, covered or not.
-/

import Outline.Search
import Outline.Proofs.Text
import Mathlib.Data.List.Pairwise

namespace Outline

namespace Text

/-- The tails of a text at its line starts, from left to right. -/
def lineTails : Bool → Text → List Text
  | _, [] => []
  | lineStart, character :: rest =>
      (if lineStart then [character :: rest] else []) ++ lineTails (character == '\n') rest

/-- Whether a line starts behind a text. -/
def startsLine (lineStart : Bool) (text : Text) : Bool :=
  match text.getLast? with
  | none => lineStart
  | some last => last == '\n'

theorem startsLine_of_flush {text : Text} (flush : Flush text) : startsLine true text := by
  rcases flush with rfl | ends
  · rfl
  · simp [startsLine, ends]

theorem startsLine_cons (lineStart : Bool) (character : Char) (rest : Text) :
    startsLine lineStart (character :: rest) = startsLine (character == '\n') rest := by
  cases rest with
  | nil => rfl
  | cons next rest =>
      obtain ⟨last, isLast⟩ := Option.ne_none_iff_exists'.mp
        (by simp : (next :: rest).getLast? ≠ none)
      simp [startsLine, List.getLast?_cons_cons, isLast]

theorem lineTails_append (lineStart : Bool) (before after : Text) :
    lineTails lineStart (before ++ after) = (lineTails lineStart before).map (· ++ after)
      ++ lineTails (startsLine lineStart before) after := by
  induction before generalizing lineStart with
  | nil => rfl
  | cons character before inductionHypothesis =>
      rw [startsLine_cons, List.cons_append, lineTails, lineTails, inductionHypothesis]
      cases lineStart <;> simp

/-- The texts that line tails are found in are flush up to the tail. -/
theorem exists_flush_of_mem_lineTails {lineStart : Bool} {text tail : Text}
    (member : tail ∈ lineTails lineStart text) :
    tail ≠ [] ∧ ∃ before, text = before ++ tail ∧ Flush before ∧ (before = [] → lineStart) := by
  induction text generalizing lineStart with
  | nil => simp [lineTails] at member
  | cons character rest inductionHypothesis =>
      rw [lineTails, List.mem_append] at member
      rcases member with here | later
      · cases lineStart with
        | false => simp at here
        | true =>
            rw [if_pos rfl, List.mem_singleton] at here
            exact ⟨by simp [here], [], by simp [here], flush_nil, fun _ => rfl⟩
      · obtain ⟨nonempty, before, split, flush, started⟩ := inductionHypothesis later
        exact ⟨nonempty, character :: before, by simp [split],
          flush_cons flush fun empty => beq_iff_eq.mp (started empty), by simp⟩

/-- No line starts inside a line. -/
theorem lineTails_false_of_single {line : Text} (single : '\n' ∉ line) : lineTails false line = [] := by
  induction line with
  | nil => rfl
  | cons first line inductionHypothesis =>
      obtain ⟨different, later⟩ := List.ne_and_not_mem_of_not_mem_cons single
      have other : (first == '\n') = false := by simpa using Ne.symm different
      rw [lineTails, other]
      exact inductionHypothesis later

theorem lineTails_of_single {line : Text} (single : '\n' ∉ line) (nonempty : line ≠ []) :
    lineTails true line = [line] := by
  cases line with
  | nil => exact absurd rfl nonempty
  | cons first line =>
      obtain ⟨different, later⟩ := List.ne_and_not_mem_of_not_mem_cons single
      have other : (first == '\n') = false := by simpa using Ne.symm different
      rw [lineTails, other, lineTails_false_of_single later]
      rfl

/-- In front of other text, a line gives one tail, and no line starts right behind it. -/
theorem lineTails_line {line : Text} (single : '\n' ∉ line) (nonempty : line ≠ []) (rest : Text) :
    lineTails true (line ++ rest) = (line ++ rest) :: lineTails false rest := by
  have ended : startsLine true line = false := by
    obtain ⟨front, last, rfl⟩ := (List.eq_nil_or_concat line).resolve_left nonempty
    have different : last ≠ '\n' := by
      intro same
      simp [same] at single
    simp [startsLine, different]
  rw [lineTails_append, lineTails_of_single single nonempty, ended]
  rfl

theorem length_le_of_mem_lineTails {lineStart : Bool} {text tail : Text}
    (member : tail ∈ lineTails lineStart text) : tail.length ≤ text.length := by
  obtain ⟨_, before, rfl, _⟩ := exists_flush_of_mem_lineTails member
  simp

/-- One tail precedes another if whole lines stand between their starts. -/
def Precedes (earlier later : Text) : Prop :=
  ∃ between, between ≠ [] ∧ Flush between ∧ earlier = between ++ later

theorem lineTails_pairwise (lineStart : Bool) (text : Text) :
    (lineTails lineStart text).Pairwise Precedes := by
  induction text generalizing lineStart with
  | nil => exact List.Pairwise.nil
  | cons character rest inductionHypothesis =>
      cases lineStart with
      | false => exact inductionHypothesis (character == '\n')
      | true =>
          refine List.pairwise_cons.mpr ⟨?_, inductionHypothesis (character == '\n')⟩
          intro tail member
          obtain ⟨_, before, split, flush, started⟩ := exists_flush_of_mem_lineTails member
          exact ⟨character :: before, by simp,
            flush_cons flush fun empty => beq_iff_eq.mp (started empty), by simp [split]⟩

theorem precedes_or_eq {text first second : Text} (firstTail : first ∈ lineTails true text)
    (secondTail : second ∈ lineTails true text) :
    first = second ∨ Precedes first second ∨ Precedes second first := by
  by_cases same : first = second
  · exact Or.inl same
  · right
    have ordered : (lineTails true text).Pairwise fun one other =>
        Precedes one other ∨ Precedes other one := (lineTails_pairwise true text).imp Or.inl
    have symmetric : Std.Symm fun one other => Precedes one other ∨ Precedes other one :=
      ⟨fun _ _ => Or.symm⟩
    exact ordered.forall firstTail secondTail same

end Text

/-- Two spans are apart if one ends before the other starts. -/
def Hit.Apart {α β : Type} (first : Hit α) (second : Hit β) : Prop :=
  first.stop ≤ second.start ∨ second.stop ≤ first.start

theorem Hit.Apart.symm {α β : Type} {first : Hit α} {second : Hit β} (apart : first.Apart second) :
    second.Apart first := Or.symm apart

namespace Reader

open Text

variable {α β : Type}

/-- In front of the second text, a reader finds what it finds in the first text alone. -/
def CutsAt (read : Reader α) (before after : Text) : Prop :=
  read (before ++ after) = (read before).map (Prod.map id (· ++ after))

/-- A reader yields to another one if it never runs over a line start where the other succeeds. -/
def YieldsTo (read : Reader α) (other : Reader β) : Prop :=
  ∀ {before after : Text}, before ≠ [] → Flush before → (other after).isSome →
    read.CutsAt before after

/-- A lawful reader consumes the front of its text and yields to itself. -/
structure Lawful (read : Reader α) : Prop where
  progress : ∀ {text rest : Text} {value : α}, read text = some (value, rest) →
    ∃ matched, matched ≠ [] ∧ text = matched ++ rest
  yields : read.YieldsTo read

/-- What is read before a text at which the reader is cut ends before that text. -/
theorem CutsAt.length_le {read : Reader α} {before after rest : Text} {value : α}
    (cuts : read.CutsAt before after) (found : read (before ++ after) = some (value, rest)) :
    after.length ≤ rest.length := by
  rw [CutsAt, found] at cuts
  obtain ⟨⟨_, unread⟩, _, same⟩ := Option.map_eq_some_iff.mp cuts.symm
  simp only [Prod.map, id, Prod.mk.injEq] at same
  simp [← same.2]

theorem CutsAt.bind {read : Reader α} {before after : Text} (cuts : read.CutsAt before after)
    (next : α → Reader β)
    (nextCuts : ∀ {value rest}, read before = some (value, rest) → (next value).CutsAt rest after) :
    CutsAt (fun text => (read text).bind fun found => next found.1 found.2) before after := by
  simp only [CutsAt] at cuts ⊢
  rw [cuts]
  cases found : read before with
  | none => rfl
  | some pair =>
      obtain ⟨value, rest⟩ := pair
      exact nextCuts found

theorem CutsAt.map {read : Reader α} {before after : Text} (cuts : read.CutsAt before after)
    (make : α → β) : CutsAt (fun text => (read text).map (Prod.map make id)) before after := by
  simp only [CutsAt] at cuts ⊢
  rw [cuts, Option.map_map, Option.map_map]
  rfl

/-- White space in front of a construct may run on into the second text. -/
theorem CutsAt.trimLeft {read : Reader α} {before after : Text} (flush : Flush before)
    (cuts : ∀ {text : Text}, text ≠ [] → Flush text → read.CutsAt text after)
    (empty : read [] = none) (fails : read (trimLeft after) = none) :
    CutsAt (fun text => read (trimLeft text)) before after := by
  by_cases blank : Text.trimLeft before = []
  · simp only [CutsAt, trimLeft_append_of_eq_nil blank, blank, empty, fails]
    rfl
  · simp only [CutsAt, trimLeft_append_of_ne_nil blank]
    exact cuts blank (flush_dropWhile isSpace flush)

/-- The hit at a tail of a text with the given length. -/
def hitAt (read : Reader α) (length : Nat) (tail : Text) : Option (Hit α) :=
  (read tail).map fun found => ⟨length - tail.length, length - found.2.length, found.1⟩

theorem filterMap_lineTails_cons {read : Reader α} {lineStart : Bool} {character : Char}
    {rest : Text} (fails : lineStart → read (character :: rest) = none) (length : Nat) :
    (lineTails lineStart (character :: rest)).filterMap (hitAt read length) =
      (lineTails (character == '\n') rest).filterMap (hitAt read length) := by
  cases lineStart with
  | false => rfl
  | true => simp [lineTails, hitAt, fails rfl]

/-- A lawful reader fails at every line start inside a text that it consumes. -/
theorem Lawful.read_inside {read : Reader α} (lawful : read.Lawful) {character : Char}
    {rest unread tail : Text} {value : α} (found : read (character :: rest) = some (value, unread))
    (member : tail ∈ lineTails (character == '\n') rest) (inside : unread.length < tail.length) :
    read tail = none := by
  by_contra succeeds
  obtain ⟨_, before, split, flush, started⟩ := exists_flush_of_mem_lineTails member
  have cuts : read.CutsAt (character :: before) tail :=
    lawful.yields (by simp) (flush_cons flush fun empty => beq_iff_eq.mp (started empty))
      (Option.isSome_iff_ne_none.mpr succeeds)
  rw [split] at found
  have reached := cuts.length_le found
  omega

/-- The search skips only tails at which the reader fails. -/
theorem hitsFrom_eq {read : Reader α} (lawful : read.Lawful) {total : Nat} (position covered : Nat)
    (lineStart : Bool) (text : Text) (whole : position + text.length = total)
    (skipped : ∀ tail ∈ lineTails lineStart text, text.length - tail.length < covered →
      read tail = none) :
    read.hitsFrom position covered lineStart text =
      (lineTails lineStart text).filterMap (hitAt read total) := by
  fun_induction hitsFrom read position covered lineStart text with
  | case1 => rfl
  | case2 position covered lineStart character rest ih =>
      have fails : lineStart → read (character :: rest) = none := by
        rintro rfl
        exact skipped _ (by simp [lineTails]) (by simp)
      rw [filterMap_lineTails_cons fails]
      rw [List.length_cons] at whole skipped
      apply ih (by omega)
      intro tail member close
      have shorter := length_le_of_mem_lineTails member
      exact skipped tail (List.mem_append_right _ member) (by omega)
  | case3 position character rest ih =>
      rw [List.length_cons] at whole
      exact ih (by omega) (by simp)
  | case4 position character rest fails ih =>
      rw [List.length_cons] at whole
      rw [filterMap_lineTails_cons fun _ => fails]
      exact ih (by omega) (by simp)
  | case5 position character rest value unread found length ih =>
      obtain ⟨matched, nonempty, split⟩ := lawful.progress found
      have lengths := congrArg List.length split
      rw [List.length_append, List.length_cons] at lengths
      have consumed : length = rest.length + 1 - unread.length := by simp [length]
      have here : hitAt read total (character :: rest) = some ⟨position, position + length, value⟩ := by
        simp only [hitAt, found, Option.map_some, Option.some.injEq, Hit.mk.injEq, and_true]
        rw [List.length_cons] at whole ⊢
        omega
      rw [lineTails, if_pos rfl, List.singleton_append, List.filterMap_cons_some here]
      congr 1
      apply ih (by rw [List.length_cons] at whole; omega)
      -- The tails that the hit covers are longer than what it leaves unread.
      intro tail member close
      have shorter := length_le_of_mem_lineTails member
      exact lawful.read_inside found member (by omega)

/-- The hits of a lawful reader are what it reads at each line start. -/
theorem hits_eq {read : Reader α} (lawful : read.Lawful) (text : Text) :
    read.hits text = (lineTails true text).filterMap (hitAt read text.length) :=
  hitsFrom_eq lawful 0 0 true text (Nat.zero_add _) (by simp)

/-- The answer at a tail is the value without its span. -/
def answer (read : Reader α) (tail : Text) : Option α := (read tail).map Prod.fst

theorem values_eq {read : Reader α} (lawful : read.Lawful) (text : Text) :
    read.values text = (lineTails true text).filterMap read.answer := by
  rw [values, hits_eq lawful, List.map_filterMap]
  congr 1
  funext tail
  simp [hitAt, answer, Function.comp_def]

theorem CutsAt.answer_eq {read : Reader α} {before after : Text} (cuts : read.CutsAt before after) :
    read.answer (before ++ after) = read.answer before := by
  rw [answer, cuts, Option.map_map]
  rfl

/-- If the reader is cut by the second text wherever it starts in the first, the search finds what
it finds in each of them. -/
theorem values_append {read : Reader α} (lawful : read.Lawful) {before after : Text}
    (flush : Flush before)
    (cuts : ∀ {tail : Text}, tail ≠ [] → Flush tail → read.CutsAt tail after) :
    read.values (before ++ after) = read.values before ++ read.values after := by
  have same : ∀ tail ∈ lineTails true before, read.answer (tail ++ after) = read.answer tail := by
    intro tail member
    obtain ⟨nonempty, front, split, _⟩ := exists_flush_of_mem_lineTails member
    exact (cuts nonempty (flush_of_append (split ▸ flush))).answer_eq
  simp only [values_eq lawful, lineTails_append, startsLine_of_flush flush, List.filterMap_append,
    List.filterMap_map]
  congr 1
  exact List.filterMap_congr same

/-- A search that goes on behind its text keeps its findings, up to what the last one becomes. -/
def Grown (kin : α → α → Prop) (found grown : List α) : Prop :=
  found = [] ∨ ∃ front last next later,
    found = front ++ [last] ∧ grown = front ++ next :: later ∧ kin last next

theorem Grown.append {kin : α → α → Prop} {found grown : List α} (growth : Grown kin found grown)
    (more : List α) : Grown kin found (grown ++ more) := by
  rcases growth with none | ⟨front, last, next, later, rfl, rfl, related⟩
  · exact Or.inl none
  · exact Or.inr ⟨front, last, next, later ++ more, rfl, by simp, related⟩

theorem Grown.map {kin : α → α → Prop} {kin' : β → β → Prop} {found grown : List α} {make : α → β}
    (growth : Grown kin found grown) (keeps : ∀ value next, kin value next → kin' (make value) (make next)) :
    Grown kin' (found.map make) (grown.map make) := by
  rcases growth with none | ⟨front, last, next, later, rfl, rfl, related⟩
  · exact Or.inl (by rw [none, List.map_nil])
  · exact Or.inr ⟨front.map make, make last, make next, later.map make, by simp, by simp,
      keeps last next related⟩

/-- Each finding stays in its place, and only the last one may change. -/
theorem Grown.getElem? {kin : α → α → Prop} {found grown : List α} (growth : Grown kin found grown) :
    found.length ≤ grown.length ∧ ∀ index value, found[index]? = some value →
      ∃ next, grown[index]? = some next ∧ (next = value ∨ index + 1 = found.length ∧ kin value next) := by
  rcases growth with none | ⟨front, last, next, later, rfl, rfl, related⟩
  · simp [none]
  · refine ⟨by simp, ?_⟩
    intro index value found
    rcases Nat.lt_trichotomy index front.length with inside | atLast | beyond
    · rw [List.getElem?_append_left inside] at found ⊢
      exact ⟨value, found, Or.inl rfl⟩
    · rw [atLast, List.getElem?_concat_length, Option.some.injEq] at found
      refine ⟨next, by simp [atLast], Or.inr ⟨by simp [atLast], found ▸ related⟩⟩
    · rw [List.getElem?_eq_none (by simp; omega)] at found
      contradiction

theorem grown_filterMap {τ : Type} {kin : α → α → Prop} {find regrown : τ → Option α}
    {places : List τ}
    (grows : ∀ place value, find place = some value →
      ∃ next, regrown place = some next ∧ kin value next)
    (settled : places.Pairwise fun place later =>
      (find later).isSome → regrown place = find place) :
    Grown kin (places.filterMap find) (places.filterMap regrown) := by
  induction places with
  | nil => exact Or.inl rfl
  | cons place places inductionHypothesis =>
      obtain ⟨first, others⟩ := List.pairwise_cons.mp settled
      rcases inductionHypothesis others with none | ⟨front, last, next, later, found, grown, related⟩
      · cases value : find place with
        | none => exact Or.inl (by rw [List.filterMap_cons_none value, none])
        | some value' =>
            obtain ⟨next, regrows, related⟩ := grows place value' value
            refine Or.inr ⟨[], value', next, places.filterMap regrown, ?_, ?_, related⟩
            · rw [List.filterMap_cons_some value, none, List.nil_append]
            · rw [List.filterMap_cons_some regrows, List.nil_append]
      · have member : last ∈ places.filterMap find := by simp [found]
        obtain ⟨place', inside, value⟩ := List.mem_filterMap.mp member
        have same := first place' inside (by simp [value])
        refine Or.inr ⟨(find place).toList ++ front, last, next, later, ?_, ?_, related⟩
        · cases value : find place <;> simp [value, found]
        · cases value : find place <;> simp [same, value, grown]

/-- More text behind a text changes no finding but the last one. -/
theorem values_grown {read : Reader α} (lawful : read.Lawful) (kin : α → α → Prop) {more : Text}
    (grows : ∀ {text rest : Text} {value : α}, read text = some (value, rest) →
      ∃ next unread, read (text ++ more) = some (next, unread) ∧ kin value next) (text : Text) :
    Grown kin (read.values text) (read.values (text ++ more)) := by
  have regrown : Grown kin ((lineTails true text).filterMap read.answer)
      ((lineTails true text).filterMap fun tail => read.answer (tail ++ more)) := by
    apply grown_filterMap
    · intro tail value found
      obtain ⟨⟨_, rest⟩, reads, rfl⟩ := Option.map_eq_some_iff.mp found
      obtain ⟨next, unread, regrows, related⟩ := grows reads
      exact ⟨next, by simp [answer, regrows], related⟩
    · refine (lineTails_pairwise true text).imp ?_
      rintro earlier later ⟨between, nonempty, flush, rfl⟩ succeeds
      rw [answer, Option.isSome_map] at succeeds
      obtain ⟨⟨value, rest⟩, reads⟩ := Option.isSome_iff_exists.mp succeeds
      obtain ⟨next, unread, regrows, _⟩ := grows reads
      have cutsMore : read.CutsAt between (later ++ more) :=
        lawful.yields nonempty flush (by simp [regrows])
      have cuts : read.CutsAt between later := lawful.yields nonempty flush succeeds
      rw [List.append_assoc, cutsMore.answer_eq, cuts.answer_eq]
  simp only [values_eq lawful, lineTails_append, List.filterMap_append, List.filterMap_map]
  exact regrown.append _

/-- A reader that reads on past more text finds everything again. -/
theorem values_isPrefix {read : Reader α} (lawful : read.Lawful) {more : Text}
    (persists : ∀ {text rest : Text} {value : α}, read text = some (value, rest) →
      read (text ++ more) = some (value, rest ++ more)) (text : Text) :
    read.values text <+: read.values (text ++ more) := by
  have grown := values_grown lawful Eq (fun found => ⟨_, _, persists found, rfl⟩) text
  rcases grown with none | ⟨front, last, next, later, found, grown, rfl⟩
  · rw [none]
    exact List.nil_prefix
  · exact ⟨later, by rw [found, grown, List.append_assoc, List.singleton_append]⟩

section Spans

variable {read : Reader α} {other : Reader β} {text : Text}

theorem exists_tail_of_mem_hits (lawful : read.Lawful) {hit : Hit α} (member : hit ∈ read.hits text) :
    ∃ tail rest, tail ∈ lineTails true text ∧ read tail = some (hit.value, rest) ∧
      hit.start = text.length - tail.length ∧ hit.stop = text.length - rest.length := by
  rw [hits_eq lawful] at member
  obtain ⟨tail, inside, found⟩ := List.mem_filterMap.mp member
  obtain ⟨⟨value, rest⟩, reads, rfl⟩ := Option.map_eq_some_iff.mp found
  exact ⟨tail, rest, inside, reads, rfl, rfl⟩

/-- What the reader consumes at a line start is the span of a hit. -/
theorem mem_hits (lawful : read.Lawful) {before matched rest : Text} {value : α} (flush : Flush before)
    (found : read (matched ++ rest) = some (value, rest)) :
    ⟨before.length, before.length + matched.length, value⟩ ∈ read.hits (before ++ (matched ++ rest)) := by
  obtain ⟨front, nonempty, split⟩ := lawful.progress found
  rw [List.append_cancel_right split] at found ⊢
  cases front with
  | nil => exact absurd rfl nonempty
  | cons first front =>
      rw [hits_eq lawful, List.mem_filterMap]
      refine ⟨first :: front ++ rest, ?_, ?_⟩
      · rw [lineTails_append, startsLine_of_flush flush]
        simp [lineTails]
      · simp only [hitAt, found, Option.map_some, List.length_append, Option.some.injEq, Hit.mk.injEq,
          and_true]
        omega

theorem stop_le_start_of_precedes {tail later rest : Text} {value : α} (precedes : Precedes tail later)
    (yields : read.YieldsTo other) (reads : read tail = some (value, rest))
    (succeeds : (other later).isSome) : text.length - rest.length ≤ text.length - later.length := by
  obtain ⟨between, nonempty, flush, rfl⟩ := precedes
  have reached := (yields nonempty flush succeeds).length_le reads
  omega

/-- The hits of one reader stand one behind the other. -/
theorem hits_pairwise (lawful : read.Lawful) (text : Text) :
    (read.hits text).Pairwise fun first second => first.stop ≤ second.start := by
  rw [hits_eq lawful, List.pairwise_filterMap]
  refine (lineTails_pairwise true text).imp ?_
  intro earlier later precedes first firstFound second secondFound
  obtain ⟨⟨_, rest⟩, reads, rfl⟩ := Option.map_eq_some_iff.mp firstFound
  obtain ⟨⟨_, _⟩, readsLater, rfl⟩ := Option.map_eq_some_iff.mp secondFound
  exact stop_le_start_of_precedes precedes lawful.yields reads (by simp [readsLater])

/-- The hits of two readers that yield to each other are apart. -/
theorem hits_apart (lawful : read.Lawful) (otherLawful : other.Lawful) (yields : read.YieldsTo other)
    (otherYields : other.YieldsTo read) (never : ∀ tail, (read tail).isSome → other tail = none)
    {first : Hit α} {second : Hit β} (firstHit : first ∈ read.hits text)
    (secondHit : second ∈ other.hits text) : first.Apart second := by
  obtain ⟨tail, rest, inside, reads, starts, stops⟩ := exists_tail_of_mem_hits lawful firstHit
  obtain ⟨tail', rest', inside', reads', starts', stops'⟩ :=
    exists_tail_of_mem_hits otherLawful secondHit
  rw [Hit.Apart, starts, stops, starts', stops']
  rcases precedes_or_eq inside inside' with rfl | precedes | precedes
  · rw [never tail (by simp [reads])] at reads'
    contradiction
  · exact Or.inl (stop_le_start_of_precedes precedes yields reads (by simp [reads']))
  · exact Or.inr (stop_le_start_of_precedes precedes otherYields reads' (by simp [reads]))

end Spans

end Reader

end Outline
