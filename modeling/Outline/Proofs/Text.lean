/-
This file states what the small readers of a text accept, and how they behave on a text that is
cut in two at the end of a line.
-/

import Outline.Text.Basic
import Mathlib.Data.List.DropRight
import Mathlib.Data.List.TakeWhile

namespace Outline.Text

theorem isIdentifierPart_of_start {character : Char} (start : isIdentifierStart character) :
    isIdentifierPart character := by
  simp only [isIdentifierStart, isIdentifierPart, Char.isAlphanum, Bool.or_eq_true] at start ⊢
  tauto

/-- The characters of an identifier lie between the digits and the small letters. -/
theorem isIdentifierPart_bounds {character : Char} (part : isIdentifierPart character) :
    48 ≤ character.toNat ∧ character.toNat ≤ 122 := by
  simp only [isIdentifierPart, Bool.or_eq_true, beq_iff_eq] at part
  rcases part with letter | rfl
  · change ((decide (65 ≤ character.val ∧ character.val ≤ 90) ||
      (decide (97 ≤ character.val) && decide (character.val ≤ 122))) ||
      (decide (48 ≤ character.val) && decide (character.val ≤ 57))) = true at letter
    simp only [Bool.or_eq_true, Bool.and_eq_true, decide_eq_true_eq,
      UInt32.le_iff_toNat_le] at letter
    change ((65 ≤ character.toNat ∧ character.toNat ≤ 90) ∨
      (97 ≤ character.toNat ∧ character.toNat ≤ 122)) ∨
      (48 ≤ character.toNat ∧ character.toNat ≤ 57) at letter
    omega
  · decide

/-- No range of white space meets the bounds of the identifier characters. -/
theorem isSpace_of_isIdentifierPart {character : Char} (part : isIdentifierPart character) :
    isSpace character = false := by
  have bounds := isIdentifierPart_bounds part
  simp only [isSpace, inRanges, List.any_eq_false, Bool.and_eq_true, decide_eq_true_eq]
  intro range member
  simp only [spaceRanges, List.mem_cons, List.not_mem_nil, or_false] at member
  rcases member with rfl | rfl | rfl | rfl | rfl | rfl | rfl | rfl | rfl | rfl <;>
    simp only <;> omega

theorem isIdentifierPart_of_isSpace {character : Char} (space : isSpace character) :
    isIdentifierPart character = false := by
  by_contra part
  rw [isSpace_of_isIdentifierPart (by simpa using part)] at space
  contradiction

theorem isSpace_of_isBlank {character : Char} (blank : isBlank character) : isSpace character := by
  simp only [isBlank, Bool.or_eq_true, beq_iff_eq] at blank
  rcases blank with rfl | rfl <;> decide

/-- A text stops a run if it is empty or its first character fails the test. -/
def Stops (test : Char → Bool) (text : Text) : Prop := ∀ first ∈ text.head?, test first = false

@[simp] theorem stops_nil (test : Char → Bool) : Stops test [] := by simp [Stops]

@[simp] theorem stops_cons (test : Char → Bool) (first : Char) (rest : Text) :
    Stops test (first :: rest) ↔ test first = false := by simp [Stops]

instance (test : Char → Bool) : (text : Text) → Decidable (Stops test text)
  | [] => isTrue (stops_nil test)
  | first :: rest => decidable_of_iff (test first = false) (stops_cons test first rest).symm

theorem stops_append {test : Char → Bool} {front rest : Text} (nonempty : front ≠ []) :
    Stops test (front ++ rest) ↔ Stops test front := by
  cases front with
  | nil => exact absurd rfl nonempty
  | cons first front => simp

theorem stops_dropWhile (test : Char → Bool) (text : Text) : Stops test (text.dropWhile test) := by
  intro first isFirst
  have stopped := List.head?_dropWhile_not test text
  rw [Option.mem_def.mp isFirst] at stopped
  exact stopped

theorem takeWhile_run {test : Char → Bool} {front rest : Text} (run : ∀ c ∈ front, test c)
    (stops : Stops test rest) : (front ++ rest).takeWhile test = front := by
  rw [List.takeWhile_append_of_pos run]
  cases rest with
  | nil => simp
  | cons first rest => simp [(stops_cons test first rest).mp stops]

theorem dropWhile_run {test : Char → Bool} {front rest : Text} (run : ∀ c ∈ front, test c)
    (stops : Stops test rest) : (front ++ rest).dropWhile test = rest := by
  rw [List.dropWhile_append_of_pos run]
  cases rest with
  | nil => simp
  | cons first rest => simp [(stops_cons test first rest).mp stops]

theorem dropWhile_of_stops {test : Char → Bool} {text : Text} (stops : Stops test text) :
    text.dropWhile test = text := by
  rw [← List.nil_append text]
  exact dropWhile_run (by simp) stops

/-- A run that goes as far as it can is cut off in one way only. -/
theorem run_append_inj {test : Char → Bool} {front rest front' rest' : Text} (run : ∀ c ∈ front, test c)
    (stops : Stops test rest) (run' : ∀ c ∈ front', test c) (stops' : Stops test rest')
    (same : front ++ rest = front' ++ rest') : front = front' ∧ rest = rest' := by
  have fronts := takeWhile_run run stops
  have rests := dropWhile_run run stops
  rw [same, takeWhile_run run' stops'] at fronts
  rw [same, dropWhile_run run' stops'] at rests
  exact ⟨fronts.symm, rests.symm⟩

/-- A text is a run of the characters that differ from one that it lacks. -/
theorem run_of_not_mem {text : Text} {character : Char} (absent : character ∉ text) :
    ∀ c ∈ text, (c != character) = true := by
  intro c member
  have different : c ≠ character := fun equal => absent (equal ▸ member)
  simpa using different

/-- What stands in front of the first occurrence of a character, and what starts there. -/
theorem takeWhile_ne {front : Text} {character : Char} (absent : character ∉ front) (rest : Text) :
    (front ++ character :: rest).takeWhile (· != character) = front :=
  takeWhile_run (run_of_not_mem absent) (by simp)

theorem dropWhile_ne {front : Text} {character : Char} (absent : character ∉ front) (rest : Text) :
    (front ++ character :: rest).dropWhile (· != character) = character :: rest :=
  dropWhile_run (run_of_not_mem absent) (by simp)

theorem dropWhile_ne_eq_nil {text : Text} {character : Char} (absent : character ∉ text) :
    text.dropWhile (· != character) = [] :=
  List.dropWhile_eq_nil_iff.mpr (run_of_not_mem absent)

theorem trimLeft_run {gap rest : Text} (spaces : ∀ c ∈ gap, isSpace c)
    (stops : Stops isSpace rest) : trimLeft (gap ++ rest) = rest := dropWhile_run spaces stops

theorem trimLeft_of_stops {text : Text} (stops : Stops isSpace text) : trimLeft text = text :=
  dropWhile_of_stops stops

theorem trimLeft_cons {first : Char} {rest : Text} (other : isSpace first = false) :
    trimLeft (first :: rest) = first :: rest := trimLeft_of_stops ((stops_cons _ _ _).mpr other)

theorem trimLeft_append_of_eq_nil {before : Text} (blank : trimLeft before = []) (after : Text) :
    trimLeft (before ++ after) = trimLeft after := by
  rw [trimLeft, List.dropWhile_append]
  exact if_pos (List.isEmpty_iff.mpr blank)

theorem trimLeft_append_of_ne_nil {before : Text} (nonempty : trimLeft before ≠ []) (after : Text) :
    trimLeft (before ++ after) = trimLeft before ++ after := by
  rw [trimLeft, List.dropWhile_append]
  exact if_neg fun empty => nonempty (List.isEmpty_iff.mp empty)

/-- What the left trim removes is a run of white space. -/
theorem exists_gap (text : Text) :
    ∃ gap, (∀ c ∈ gap, isSpace c) ∧ text = gap ++ trimLeft text ∧ Stops isSpace (trimLeft text) :=
  ⟨text.takeWhile isSpace, fun _ => List.mem_takeWhile_imp,
    List.takeWhile_append_dropWhile.symm, stops_dropWhile isSpace text⟩

/-- White space ends a name, as does what stands behind the white space. -/
theorem stops_isIdentifierPart_gap {gap rest : Text} (spaces : ∀ c ∈ gap, isSpace c)
    (stops : Stops isIdentifierPart rest) : Stops isIdentifierPart (gap ++ rest) := by
  cases gap with
  | nil => exact stops
  | cons first gap =>
      exact (stops_cons _ _ _).mpr (isIdentifierPart_of_isSpace (spaces first List.mem_cons_self))

theorem after?_eq_some_iff {word text rest : Text} :
    after? word text = some rest ↔ text = word ++ rest := by
  rw [after?, List.isPrefixOf?_eq_some_iff_append_eq]
  exact eq_comm

theorem after?_append (word rest : Text) : after? word (word ++ rest) = some rest :=
  after?_eq_some_iff.mpr rfl

theorem after?_singleton_of_stops {first : Char} {text : Text} (stops : Stops (· == first) text) :
    after? [first] text = none := by
  rw [Option.eq_none_iff_forall_ne_some]
  intro rest found
  rw [after?_eq_some_iff.mp found] at stops
  simp at stops

theorem afterSpace?_eq_some_iff {text rest : Text} :
    afterSpace? text = some rest ↔
      ∃ gap, gap ≠ [] ∧ (∀ c ∈ gap, isSpace c) ∧ text = gap ++ rest ∧ Stops isSpace rest := by
  constructor
  · intro found
    cases text with
    | nil => simp [afterSpace?] at found
    | cons first text =>
        by_cases space : isSpace first
        · obtain ⟨gap, spaces, split, stops⟩ := exists_gap text
          simp only [afterSpace?, space, if_true, Option.some.injEq] at found
          subst found
          exact ⟨first :: gap, by simp, by simpa [space] using spaces, by simpa using split, stops⟩
        · simp [afterSpace?, space] at found
  · rintro ⟨gap, nonempty, spaces, rfl, stops⟩
    cases gap with
    | nil => exact absurd rfl nonempty
    | cons first gap =>
        simp only [List.mem_cons, forall_eq_or_imp] at spaces
        simp [afterSpace?, spaces.1, trimLeft_run spaces.2 stops]

theorem isIdentifierPart_of_mem {name : Text} (identifier : isIdentifier name) {character : Char}
    (member : character ∈ name) : isIdentifierPart character := by
  cases name with
  | nil => simp at member
  | cons first rest =>
      simp only [isIdentifier, Bool.and_eq_true, List.all_eq_true] at identifier
      rcases List.mem_cons.mp member with rfl | later
      · exact isIdentifierPart_of_start identifier.1
      · exact identifier.2 character later

/-- A character that belongs to no identifier does not occur in one. -/
theorem not_mem_identifier {name : Text} (identifier : isIdentifier name) {character : Char}
    (other : isIdentifierPart character = false) : character ∉ name := by
  intro member
  rw [isIdentifierPart_of_mem identifier member] at other
  contradiction

/-- A run test that no identifier character passes is stopped by an identifier. -/
theorem stops_identifier {test : Char → Bool} {name : Text} (rest : Text)
    (identifier : isIdentifier name) (fails : ∀ c, isIdentifierPart c → test c = false) :
    Stops test (name ++ rest) := by
  cases name with
  | nil => simp [isIdentifier] at identifier
  | cons first name =>
      exact (stops_cons _ _ _).mpr (fails first (isIdentifierPart_of_mem identifier (by simp)))

theorem stops_space_identifier {name : Text} (rest : Text) (identifier : isIdentifier name) :
    Stops isSpace (name ++ rest) :=
  stops_identifier rest identifier fun _ => isSpace_of_isIdentifierPart

theorem identifier?_eq_some_iff {text name rest : Text} :
    identifier? text = some (name, rest) ↔
      text = name ++ rest ∧ isIdentifier name ∧ Stops isIdentifierPart rest := by
  constructor
  · intro found
    cases text with
    | nil => simp [identifier?] at found
    | cons first text =>
        by_cases start : isIdentifierStart first
        · simp only [identifier?, start, if_true, Option.some.injEq, Prod.mk.injEq] at found
          obtain ⟨rfl, rfl⟩ := found
          refine ⟨by simp, ?_, stops_dropWhile isIdentifierPart text⟩
          simp [isIdentifier, start]
        · simp [identifier?, start] at found
  · rintro ⟨rfl, identifier, stops⟩
    cases name with
    | nil => simp [isIdentifier] at identifier
    | cons first name =>
        simp only [isIdentifier, Bool.and_eq_true, List.all_eq_true] at identifier
        simp [identifier?, identifier.1, takeWhile_run identifier.2 stops,
          dropWhile_run identifier.2 stops]

/-- The characters that may stand inside parentheses. -/
def isInside (character : Char) : Bool := character != ')' && character != '\n'

theorem inside_iff {text : Text} : (∀ c ∈ text, isInside c) ↔ ')' ∉ text ∧ '\n' ∉ text := by
  simp only [isInside, Bool.and_eq_true, bne_iff_ne]
  constructor
  · intro inside
    exact ⟨fun closes => (inside _ closes).1 rfl, fun feeds => (inside _ feeds).2 rfl⟩
  · intro lacks c member
    exact ⟨fun closes => lacks.1 (closes ▸ member), fun feeds => lacks.2 (feeds ▸ member)⟩

theorem parenthesised?_eq_some_iff {text inside rest : Text} :
    parenthesised? text = some (inside, rest) ↔
      text = '(' :: (inside ++ ')' :: rest) ∧ ∀ c ∈ inside, isInside c := by
  simp only [parenthesised?, Option.bind_eq_bind, Option.bind_eq_some_iff, after?_eq_some_iff,
    Option.pure_def, Option.some.injEq, Prod.mk.injEq]
  change (∃ opened, text = ['('] ++ opened ∧ ∃ closed,
    opened.dropWhile isInside = [')'] ++ closed ∧ opened.takeWhile isInside = inside ∧ closed = rest) ↔ _
  constructor
  · rintro ⟨opened, rfl, closed, dropped, rfl, rfl⟩
    refine ⟨?_, fun _ => List.mem_takeWhile_imp⟩
    have split := List.takeWhile_append_dropWhile (p := isInside) (l := opened)
    rw [dropped] at split
    simpa using split.symm
  · rintro ⟨rfl, allInside⟩
    have stops : Stops isInside (')' :: rest) := (stops_cons _ _ _).mpr (by decide)
    exact ⟨_, rfl, rest, dropWhile_run allInside stops, takeWhile_run allInside stops, rfl⟩

/-- The first piece of a text that is cut at a character ends at its first occurrence. -/
theorem exists_splitOn (separator : Char) (text : Text) :
    ∃ pieces, text.splitOn separator = text.takeWhile (· != separator) :: pieces := by
  induction text with
  | nil => exact ⟨[], by simp⟩
  | cons character rest inductionHypothesis =>
      obtain ⟨pieces, split⟩ := inductionHypothesis
      by_cases same : character = separator
      · exact ⟨rest.splitOn separator, by simp [List.splitOn_cons_eq_if_modifyHead, same]⟩
      · exact ⟨pieces, by simp [List.splitOn_cons_eq_if_modifyHead, same, split]⟩

/-- A piece lacks the character that was cut at and takes its characters from the text. -/
theorem splitOn_piece {separator : Char} {text piece : Text}
    (member : piece ∈ text.splitOn separator) : separator ∉ piece ∧ piece ⊆ text := by
  induction text generalizing piece with
  | nil =>
      rw [List.splitOn_nil, List.mem_singleton] at member
      simp [member]
  | cons character rest inductionHypothesis =>
      rw [List.splitOn_cons_eq_if_modifyHead] at member
      obtain ⟨pieces, split⟩ := exists_splitOn separator rest
      rw [split] at member inductionHypothesis
      by_cases same : character = separator
      · simp only [same, beq_self_eq_true, if_true, List.mem_cons] at member
        rcases member with rfl | inside
        · simp
        · obtain ⟨lacks, taken⟩ := inductionHypothesis (List.mem_cons.mpr inside)
          exact ⟨lacks, List.subset_cons_of_subset character taken⟩
      · simp only [beq_iff_eq, same, if_false, List.modifyHead_cons, List.mem_cons] at member
        rcases member with rfl | inside
        · obtain ⟨lacks, taken⟩ := inductionHypothesis List.mem_cons_self
          exact ⟨by simp [lacks, Ne.symm same], List.cons_subset_cons character taken⟩
        · obtain ⟨lacks, taken⟩ := inductionHypothesis (List.mem_cons_of_mem _ inside)
          exact ⟨lacks, List.subset_cons_of_subset character taken⟩

/-- A text is flush if it is empty or ends with a line feed. -/
def Flush (text : Text) : Prop := text = [] ∨ text.getLast? = some '\n'

instance (text : Text) : Decidable (Flush text) := inferInstanceAs (Decidable (_ ∨ _))

@[simp] theorem flush_nil : Flush [] := Or.inl rfl

theorem flush_line (text : Text) : Flush (text ++ ['\n']) := Or.inr List.getLast?_concat

theorem flush_of_append {front rest : Text} (flush : Flush (front ++ rest)) : Flush rest := by
  by_cases nonempty : rest = []
  · exact Or.inl nonempty
  · rcases flush with empty | ends
    · exact Or.inl (List.append_eq_nil_iff.mp empty).2
    · rw [List.getLast?_append_of_ne_nil _ nonempty] at ends
      exact Or.inr ends

theorem flush_dropWhile {text : Text} (test : Char → Bool) (flush : Flush text) :
    Flush (text.dropWhile test) := by
  rw [← List.takeWhile_append_dropWhile (p := test) (l := text)] at flush
  exact flush_of_append flush

theorem flush_append {rest : Text} (front : Text) (flush : Flush rest) (nonempty : rest ≠ []) :
    Flush (front ++ rest) := by
  rcases flush with empty | ends
  · exact absurd empty nonempty
  · right
    rw [List.getLast?_append_of_ne_nil _ nonempty, ends]

theorem flush_cons {character : Char} {rest : Text} (flush : Flush rest)
    (feed : rest = [] → character = '\n') : Flush (character :: rest) := by
  by_cases empty : rest = []
  · exact Or.inr (by simp [empty, feed empty])
  · exact flush_append [character] flush empty

theorem newline_mem_of_flush {text : Text} (flush : Flush text) (nonempty : text ≠ []) :
    '\n' ∈ text := by
  rcases flush with empty | ends
  · exact absurd empty nonempty
  · exact List.mem_of_getLast? ends

/-- The rest behind a word without line feeds is not empty if the whole is flush. -/
theorem ne_nil_of_flush_append {word rest : Text} (single : '\n' ∉ word) (nonempty : word ≠ [])
    (flush : Flush (word ++ rest)) : rest ≠ [] := by
  rintro rfl
  rw [List.append_nil] at flush
  exact single (newline_mem_of_flush flush nonempty)

section Cut

variable {before : Text} (after : Text)

/-- A run that cannot pass a line feed ends inside a flush text. -/
theorem dropWhile_ne_nil_of_flush {test : Char → Bool} (flush : Flush before)
    (nonempty : before ≠ []) (fails : test '\n' = false) : before.dropWhile test ≠ [] := by
  intro empty
  have passes := List.dropWhile_eq_nil_iff.mp empty _ (newline_mem_of_flush flush nonempty)
  rw [fails] at passes
  contradiction

theorem dropWhile_append_of_flush {test : Char → Bool} (flush : Flush before)
    (nonempty : before ≠ []) (fails : test '\n' = false) :
    (before ++ after).dropWhile test = before.dropWhile test ++ after := by
  rw [List.dropWhile_append, if_neg]
  simpa using dropWhile_ne_nil_of_flush flush nonempty fails

theorem takeWhile_append_of_flush {test : Char → Bool} (flush : Flush before)
    (nonempty : before ≠ []) (fails : test '\n' = false) :
    (before ++ after).takeWhile test = before.takeWhile test := by
  rw [List.takeWhile_append, if_neg]
  intro full
  have split := List.takeWhile_append_dropWhile (p := test) (l := before)
  have lengths := congrArg List.length split
  rw [List.length_append, full] at lengths
  have empty := List.length_eq_zero_iff.mp (by omega : (before.dropWhile test).length = 0)
  exact dropWhile_ne_nil_of_flush flush nonempty fails empty

theorem after?_append_of_flush {word : Text} (single : '\n' ∉ word) (flush : Flush before)
    (nonempty : before ≠ []) : after? word (before ++ after) = (after? word before).map (· ++ after) := by
  cases found : after? word before with
  | some rest => rw [after?_eq_some_iff.mp found, List.append_assoc, after?_append, Option.map_some]
  | none =>
      rw [Option.map_none, Option.eq_none_iff_forall_ne_some]
      intro rest reached
      rcases List.append_eq_append_iff.mp (after?_eq_some_iff.mp reached) with
        ⟨tail, split, _⟩ | ⟨tail, split, _⟩
      · rw [split] at single
        exact single (List.mem_append_left _ (newline_mem_of_flush flush nonempty))
      · rw [split, after?_append] at found
        contradiction

theorem afterSpace?_append (nonempty : before ≠ []) :
    afterSpace? (before ++ after) = (afterSpace? before).map fun rest =>
      if rest.isEmpty then trimLeft after else rest ++ after := by
  cases before with
  | nil => exact absurd rfl nonempty
  | cons first before =>
      by_cases space : isSpace first
      · simp only [List.cons_append, afterSpace?, space, if_true, Option.map_some, trimLeft,
          List.dropWhile_append]
      · simp [afterSpace?, space]

theorem identifier?_append_of_flush (flush : Flush before) (nonempty : before ≠ []) :
    identifier? (before ++ after) = (identifier? before).map (Prod.map id (· ++ after)) := by
  cases before with
  | nil => exact absurd rfl nonempty
  | cons first before =>
      by_cases start : isIdentifierStart first
      · have single : '\n' ∉ [first] := by
          intro member
          rw [← List.mem_singleton.mp member] at start
          exact absurd start (by decide)
        have whole : Flush ([first] ++ before) := flush
        have rest : before ≠ [] := ne_nil_of_flush_append single (by simp) whole
        have fails : isIdentifierPart '\n' = false := by decide
        simp [identifier?, start, fails,
          takeWhile_append_of_flush after (flush_of_append whole) rest,
          dropWhile_append_of_flush after (flush_of_append whole) rest]
      · simp [identifier?, start]

end Cut

end Outline.Text
