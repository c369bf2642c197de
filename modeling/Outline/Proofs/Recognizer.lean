/-
This file states that the readers of function headers, constructors, global variables and arguments agree with
their patterns: in front of every text, a reader finds what the search for its pattern selects.
-/

import Outline.Proofs.Assignment
import Outline.Proofs.Fragment
import Outline.Proofs.Pattern

namespace Outline.Pattern

open Text

section

variable {passed read rest : Text} {groups : List (Nat × Text)}

theorem startsLine_iff : startsLine passed ↔ Flush passed := by
  rw [startsLine, Flush]
  rcases List.eq_nil_or_concat passed with rfl | ⟨front, last, rfl⟩ <;> simp

theorem spells_spaces : (many space).Spells fun read => ∀ c ∈ read, isSpace c := spells_many _

theorem spells_blanks : (many blank).Spells fun read => ∀ c ∈ read, isBlank c := spells_many _

theorem spells_enclosed : enclosed.Spells fun read => ∀ c ∈ read, isInside c := spells_many _

theorem isBlank_ne_newline {c : Char} (blank : isBlank c) : c ≠ '\n' := by
  rintro rfl
  exact absurd blank (by decide)

theorem matches_parameters {index : Nat} :
    (sequence (parameters index)).Matches passed read rest groups ↔
      ∃ text, Signature.parameters? (read ++ rest) = some (text, rest) ∧ groups = [(index, text)] := by
  simp only [parameters, spells_spaces.matches_cons, matches_sign, spells_enclosed.matches_group,
    matches_nil, Signature.parameters?_eq_some_iff]
  constructor
  · intro shape
    obtain ⟨gap, _, rfl, spaces, _, rfl, text, _, _, rfl, rfl, inside, _, rfl, closing, _, rfl, closingSpaces, _,
      rfl, rfl, rfl⟩ := shape
    exact ⟨text, ⟨inside, gap, closing, spaces, closingSpaces, by simp⟩, rfl⟩
  · intro shape
    obtain ⟨text, ⟨inside, gap, closing, spaces, closingSpaces, split⟩, rfl⟩ := shape
    have whole : read = gap ++ '(' :: (text ++ ')' :: (closing ++ [':'])) :=
      List.append_cancel_right (split.trans (by simp))
    exact ⟨gap, _, whole, spaces, _, rfl, text, _, [], rfl, rfl, inside, _, rfl, closing, _, rfl, closingSpaces,
      [], rfl, rfl, rfl⟩

theorem matches_heading {keyword : Text} {patterns : List Pattern} :
    (sequence (heading keyword ++ patterns)).Matches passed read rest groups ↔
      startsLine passed ∧ ∃ gap name back later, (gap ≠ [] ∧ ∀ c ∈ gap, isSpace c) ∧ isIdentifier name ∧
        read = keyword ++ (gap ++ (name ++ back)) ∧ groups = later ++ [(1, name)] ∧
        (sequence patterns).Matches (passed ++ keyword ++ gap ++ name) back rest later := by
  simp only [heading, space, List.cons_append, List.nil_append, anchors_lineStart.matches_cons,
    matches_word, (spells_repeated _).matches_cons, spells_identifier.matches_group]
  apply and_congr_right'
  constructor
  · intro shape
    obtain ⟨_, rfl, gap, _, rfl, spaced, name, back, later, rfl, rfl, identifier, there⟩ := shape
    exact ⟨gap, name, back, later, spaced, identifier, rfl, rfl, there⟩
  · intro shape
    obtain ⟨gap, name, back, later, spaced, identifier, rfl, rfl, there⟩ := shape
    exact ⟨_, rfl, gap, _, rfl, spaced, name, back, later, rfl, rfl, identifier, there⟩

end

/-- A pattern agrees with a reader if its matches are what the reader finds, captured in groups. -/
theorem match?_agrees {α : Type} {pattern : Pattern} {reader : Reader α} {groupsOf : α → List (Nat × Text)}
    {value : State → α} {passed : Text}
    (matches_iff : ∀ read rest groups, pattern.Matches passed read rest groups ↔
      ∃ found, reader (read ++ rest) = some (found, rest) ∧ groups = groupsOf found)
    (suffix : ∀ {text rest found}, reader text = some (found, rest) → ∃ read, text = read ++ rest)
    (value_eq : ∀ passed rest found, value ⟨passed, rest, groupsOf found⟩ = found) (text : Text) :
    (pattern.match? passed text).map (fun state => (value state, state.rest)) = reader text := by
  apply map_run_eq
  · rintro read rest groups rfl here
    obtain ⟨found, reads, rfl⟩ := (matches_iff _ _ _).mp here
    simp only [Option.map_some, List.append_nil, value_eq, reads]
  · intro succeeds
    obtain ⟨⟨found, rest⟩, reads⟩ := Option.isSome_iff_exists.mp succeeds
    obtain ⟨read, rfl⟩ := suffix reads
    exact ⟨read, rest, groupsOf found, rfl, (matches_iff _ _ _).mpr ⟨found, reads, rfl⟩⟩

theorem functionHeader_matches {passed read rest : Text} {groups : List (Nat × Text)} (flush : Flush passed) :
    functionHeader.Matches passed read rest groups ↔ ∃ signature,
      Signature.read? (read ++ rest) = some (signature, rest) ∧
        groups = [(2, signature.parameters), (1, signature.name)] := by
  simp only [functionHeader, matches_heading, matches_parameters, startsLine_iff, flush, true_and,
    Signature.read?_eq_some_iff, heading?_eq_some_iff]
  constructor
  · intro shape
    obtain ⟨gap, name, back, _, ⟨nonempty, spaces⟩, identifier, rfl, rfl, parameters, found, rfl⟩ := shape
    have stops : Stops isIdentifierPart (back ++ rest) := by
      obtain ⟨_, space, closing, spaces, _, split⟩ := Signature.parameters?_eq_some_iff.mp found
      rw [split]
      exact stops_isIdentifierPart_gap spaces ((stops_cons _ _ _).mpr (by decide))
    exact ⟨⟨name, parameters⟩, ⟨back ++ rest, ⟨⟨gap, nonempty, spaces, by simp⟩, identifier, stops⟩, found⟩, rfl⟩
  · intro shape
    obtain ⟨signature, ⟨unread, ⟨⟨gap, nonempty, spaces, split⟩, identifier, _⟩, found⟩, rfl⟩ := shape
    obtain ⟨back, _, rfl⟩ := Signature.parameters?_suffix found
    have whole : read = Signature.keyword ++ (gap ++ (signature.name ++ back)) :=
      List.append_cancel_right (split.trans (by simp))
    exact ⟨gap, signature.name, back, _, ⟨nonempty, spaces⟩, identifier, whole, rfl, _, found, rfl⟩

/-- The reader of signatures finds what the pattern of function headers matches at the start of a line. -/
theorem functionHeader_agrees {passed : Text} (flush : Flush passed) (text : Text) :
    (functionHeader.match? passed text).map (fun found => (⟨found.captured 1, found.captured 2⟩, found.rest)) =
      Signature.read? text :=
  match?_agrees (fun _ _ _ => functionHeader_matches flush)
    (fun found => (Signature.read?_progress found).imp fun _ shape => shape.2) (fun _ _ _ => rfl) text

theorem constructorHeader_matches {passed read rest : Text} {groups : List (Nat × Text)}
    (flush : Flush passed) :
    constructorHeader.Matches passed read rest groups ↔ ∃ parameters,
      ClassText.constructor? (read ++ rest) = some (parameters, rest) ∧ groups = [(1, parameters)] := by
  simp only [constructorHeader, blank, space, List.cons_append, List.nil_append, anchors_lineStart.matches_cons,
    matches_word, (spells_repeated _).matches_cons, matches_parameters,
    ClassText.constructor?_eq_some_iff, startsLine_iff, flush, true_and]
  constructor
  · intro shape
    obtain ⟨indent, _, rfl, indented, _, rfl, gap, _, rfl, spaced, back, rfl, parameters, found, rfl⟩ := shape
    exact ⟨parameters, ⟨indent, gap, back ++ rest, indented, spaced, by simp, found⟩, rfl⟩
  · intro shape
    obtain ⟨parameters, ⟨indent, gap, unread, indented, spaced, split, found⟩, rfl⟩ := shape
    obtain ⟨back, _, rfl⟩ := Signature.parameters?_suffix found
    have whole : read = indent ++ (Signature.keyword ++ (gap ++ (ClassText.constructorName ++ back))) :=
      List.append_cancel_right (split.trans (by simp))
    exact ⟨indent, _, whole, indented, _, rfl, gap, _, rfl, spaced, back, rfl, parameters, found, rfl⟩

/-- The reader of constructors finds what the pattern of constructor headers matches at the start of a line. -/
theorem constructorHeader_agrees {passed : Text} (flush : Flush passed) (text : Text) :
    (constructorHeader.match? passed text).map (fun found => (found.captured 1, found.rest)) =
      ClassText.constructor? text :=
  match?_agrees (fun _ _ _ => constructorHeader_matches flush)
    (fun found => (ClassText.constructor?_progress found).imp fun _ shape => shape.2) (fun _ _ _ => rfl) text

section GlobalAssignment

open GlobalEntry

variable {passed read rest : Text} {groups : List (Nat × Text)}

theorem spells_globalHint : globalHint.Spells HintSpelled := by
  intro passed read rest groups
  rw [globalHint, (spells_one _).seq ((spells_many _).seq (spells_one _)).optional]
  apply and_congr_left'
  constructor
  · intro shape
    obtain ⟨_, _, rfl, ⟨first, start, rfl⟩, ⟨inner, _, rfl, parts, last, ending, rfl⟩ | rfl⟩ := shape
    · exact .longer start parts ending
    · exact .single start
  · intro shape
    rcases shape with @⟨first, start⟩ | @⟨first, last, inner, start, parts, ending⟩
    · exact ⟨[first], [], rfl, ⟨first, start, rfl⟩, Or.inr rfl⟩
    · exact ⟨[first], inner ++ [last], rfl, ⟨first, start, rfl⟩,
        Or.inl ⟨inner, [last], rfl, parts, last, ending, rfl⟩⟩

theorem matches_spacedHint {patterns : List Pattern} :
    (sequence (optional (sequence [sign ':', many blank, group 2 globalHint, many blank]) :: patterns)).Matches
      passed read rest groups ↔
    ∃ spaced back later, read = SpacedHint.optionalText spaced ++ back ∧
      groups = later ++ (spaced.map fun spaced => (2, spaced.hint)).toList ∧
      (sequence patterns).Matches (passed ++ SpacedHint.optionalText spaced) back rest later := by
  simp only [matches_optional, List.cons_append, List.nil_append, matches_sign,
    spells_blanks.matches_cons, spells_globalHint.matches_group]
  constructor
  · intro shape
    rcases shape with ⟨_, rfl, left, _, rfl, leftBlanks, hint, _, later, rfl, rfl, spelled, right, back, rfl,
      rightBlanks, there⟩ | there
    · exact ⟨some ⟨left, hint, right, leftBlanks, spelled, rightBlanks⟩, back, later,
        by simp [SpacedHint.optionalText, SpacedHint.text], rfl,
        by simpa [SpacedHint.optionalText, SpacedHint.text] using there⟩
    · exact ⟨none, read, groups, rfl, by simp, by simpa [SpacedHint.optionalText] using there⟩
  · intro shape
    obtain ⟨spaced, back, later, rfl, rfl, there⟩ := shape
    cases spaced with
    | none => exact Or.inr (by simpa [SpacedHint.optionalText] using there)
    | some spaced =>
        refine Or.inl ⟨spaced.left ++ (spaced.hint ++ (spaced.right ++ back)), ?_, spaced.left, _, rfl,
          spaced.leftBlanks, spaced.hint, _, later, rfl, rfl, spaced.spelled, spaced.right, back, rfl,
          spaced.rightBlanks, ?_⟩
        · simp [SpacedHint.optionalText, SpacedHint.text]
        · simpa [SpacedHint.optionalText, SpacedHint.text] using there

/-- A value is written after an equals sign and blanks, and fills its line. -/
theorem matches_value :
    (sequence [sign '=', many blank, group 3 (repeated inLine), lineEnd]).Matches passed read rest groups ↔
      ∃ more value, (∀ c ∈ more, isBlank c) ∧ (value ≠ [] ∧ ∀ c ∈ value, (c != '\n') = true) ∧ endsLine rest ∧
        read = '=' :: (more ++ value) ∧ groups = [(3, value)] := by
  simp only [inLine, matches_sign, spells_blanks.matches_cons, (spells_repeated _).matches_group,
    anchors_lineEnd.matches_cons, matches_nil]
  constructor
  · intro shape
    obtain ⟨_, rfl, more, _, rfl, blanks, value, _, _, rfl, rfl, filled, ends, rfl, rfl⟩ := shape
    exact ⟨more, value, blanks, filled, ends, by simp, rfl⟩
  · intro shape
    obtain ⟨more, value, blanks, filled, ends, rfl, rfl⟩ := shape
    exact ⟨_, rfl, more, _, rfl, blanks, value, [], [], by simp, rfl, filled, ends, rfl, rfl⟩

theorem globalAssignment_matches (flush : Flush passed) :
    globalAssignment.Matches passed read rest groups ↔ ∃ name blanks spaced more value,
      (isIdentifier name ∧ ∀ c ∈ blanks, isBlank c) ∧ (∀ c ∈ more, isBlank c) ∧
        (value ≠ [] ∧ ∀ c ∈ value, (c != '\n') = true) ∧ endsLine rest ∧
        read = name ++ (blanks ++ (SpacedHint.optionalText spaced ++ '=' :: (more ++ value))) ∧
        groups = (3, value) :: (spaced.map fun spaced => (2, spaced.hint)).toList ++ [(1, name)] := by
  simp only [globalAssignment, anchors_lineStart.matches_cons, startsLine_iff, flush, true_and,
    spells_identifier.matches_group, spells_blanks.matches_cons, matches_spacedHint, matches_value]
  constructor
  · intro shape
    obtain ⟨name, _, _, rfl, rfl, identifier, blanks, _, rfl, areBlanks, spaced, _, _, rfl, rfl, more, value,
      moreBlanks, filled, ends, rfl, rfl⟩ := shape
    exact ⟨name, blanks, spaced, more, value, ⟨identifier, areBlanks⟩, moreBlanks, filled, ends, rfl, rfl⟩
  · intro shape
    obtain ⟨name, blanks, spaced, more, value, ⟨identifier, areBlanks⟩, moreBlanks, filled, ends, rfl, rfl⟩ := shape
    exact ⟨name, _, _, rfl, rfl, identifier, blanks, _, rfl, areBlanks, spaced, _, [(3, value)], rfl, rfl, more,
      value, moreBlanks, filled, ends, rfl, rfl⟩

theorem newline_not_mem_optionalText (spaced : Option SpacedHint) : '\n' ∉ SpacedHint.optionalText spaced := by
  cases spaced with
  | none => exact List.not_mem_nil
  | some spaced =>
      obtain ⟨_, parts, _, _⟩ := isHint_spec spaced.isHint
      have left : '\n' ∉ spaced.left := fun feed => isBlank_ne_newline (spaced.leftBlanks _ feed) rfl
      have hint : '\n' ∉ spaced.hint := fun feed => absurd (parts _ feed) (by decide)
      have right : '\n' ∉ spaced.right := fun feed => isBlank_ne_newline (spaced.rightBlanks _ feed) rfl
      simp [SpacedHint.optionalText, SpacedHint.text, left, hint, right]

theorem trim_append_of_spaces {gap : Text} (spaces : ∀ c ∈ gap, isSpace c) (text : Text) :
    trim (gap ++ text) = trim text := by
  induction gap with
  | nil => rfl
  | cons first gap inductionHypothesis =>
      obtain ⟨space, later⟩ := List.forall_mem_cons.mp spaces
      rw [List.cons_append, trim_cons_of_isSpace space, inductionHypothesis later]

theorem endsLine_iff : endsLine rest ↔ Stops (· != '\n') rest := by
  cases rest <;> simp [endsLine]

theorem read?_of_endsLine (single : '\n' ∉ read) (ends : endsLine rest) :
    GlobalEntry.read? (read ++ rest) = (ofLine? read).map fun entry => (entry, rest) := by
  have stops := endsLine_iff.mp ends
  rw [GlobalEntry.read?, takeWhile_run (run_of_not_mem single) stops, dropWhile_run (run_of_not_mem single) stops]

/-- The reader of assignments finds what the pattern of assignments matches at the start of a line. The white
space that stands between the equals sign and the value may be shared out between them in many ways, but is
trimmed from the value. -/
theorem globalAssignment_agrees (flush : Flush passed) (text : Text) :
    (globalAssignment.match? passed text).map (fun found =>
        (⟨found.captured 1, found.captured? 2, trim (found.captured 3)⟩, found.rest)) =
      GlobalEntry.read? text := by
  apply map_run_eq
  · rintro read rest groups rfl here
    obtain ⟨name, blanks, spaced, more, value, ⟨identifier, areBlanks⟩, moreBlanks, ⟨nonempty, filled⟩, ends, rfl,
      rfl⟩ := (globalAssignment_matches flush).mp here
    have single : '\n' ∉ name ++ (blanks ++ (SpacedHint.optionalText spaced ++ '=' :: (more ++ value))) := by
      have inName : '\n' ∉ name := not_mem_identifier identifier (by decide)
      have inBlanks : '\n' ∉ blanks := fun feed => isBlank_ne_newline (areBlanks _ feed) rfl
      have inMore : '\n' ∉ more := fun feed => isBlank_ne_newline (moreBlanks _ feed) rfl
      have inValue : '\n' ∉ value := fun feed => absurd (filled _ feed) (by decide)
      simp [inName, inBlanks, newline_not_mem_optionalText, inMore, inValue]
    have spells : ofLine? (name ++ (blanks ++ (SpacedHint.optionalText spaced ++ '=' :: (more ++ value)))) =
        some ⟨name, spaced.map SpacedHint.hint, trim value⟩ :=
      ofLine?_eq_some_iff.mpr ⟨blanks, _, more ++ value, ⟨identifier, areBlanks⟩, rfl,
        assigned?_iff_hint.mpr ⟨spaced, rfl, rfl⟩, by simp [nonempty],
        trim_append_of_spaces (fun c member => isSpace_of_isBlank (moreBlanks c member)) value⟩
    rw [read?_of_endsLine single ends, spells]
    cases spaced <;> rfl
  · intro succeeds
    obtain ⟨⟨entry, rest⟩, found⟩ := Option.isSome_iff_exists.mp succeeds
    obtain ⟨entry', spells, same⟩ := Option.map_eq_some_iff.mp found
    obtain ⟨rfl, rfl⟩ := Prod.mk.inj same
    obtain ⟨blanks, unread, value, ⟨identifier, areBlanks⟩, split, assigned, nonempty, _⟩ :=
      ofLine?_eq_some_iff.mp spells
    obtain ⟨spaced, rfl, _⟩ := assigned?_iff_hint.mp assigned
    have filled : ∀ c ∈ value, (c != '\n') = true := by
      have passes := List.all_eq_true.mp (List.all_takeWhile (p := (· != '\n')) (l := text))
      intro c member
      exact passes c (by simp [split, member])
    have ends : endsLine (text.dropWhile (· != '\n')) := endsLine_iff.mpr (stops_dropWhile _ text)
    exact ⟨_, _, _, List.takeWhile_append_dropWhile.symm, (globalAssignment_matches flush).mpr
      ⟨entry'.name, blanks, spaced, [], value, ⟨identifier, areBlanks⟩, by simp, ⟨nonempty, filled⟩, ends, split,
        rfl⟩⟩

/-- Where nothing but a blank follows the equals sign, the blanks give it back, and it becomes the value. -/
example : (globalAssignment.match? [] "x = ".toList).map (·.captured 3) = some [' '] := by decide

end GlobalAssignment

section ArgumentFragment

open Argument

variable {read rest : Text} {groups : List (Nat × Text)}

theorem spells_stars : (optional (seq (sign '*') (optional (sign '*')))).Spells
    (· ∈ [[], ['*'], ['*', '*']]) := by
  intro passed read rest groups
  rw [((spells_sign _).seq (spells_sign _).optional).optional]
  apply and_congr_left'
  simp only [List.mem_cons, List.not_mem_nil, or_false]
  constructor
  · rintro (⟨_, _, rfl, rfl, rfl | rfl⟩ | rfl) <;> simp
  · intro shape
    rcases shape with rfl | rfl | rfl
    · exact Or.inr rfl
    · exact Or.inl ⟨['*'], [], rfl, rfl, Or.inr rfl⟩
    · exact Or.inl ⟨['*'], ['*'], rfl, rfl, Or.inl rfl⟩

theorem spells_argumentHint : argumentHint.Spells fun hint =>
    hint ≠ [] ∧ '=' ∉ hint ∧ Stops isSpace hint ∧ Stops isSpace hint.reverse := by
  intro passed read rest groups
  rw [argumentHint, (spells_one _).seq ((spells_many _).seq (spells_one _)).optional]
  apply and_congr_left'
  simp only [Bool.and_eq_true, bne_iff_ne, Bool.not_eq_true']
  constructor
  · intro shape
    obtain ⟨_, _, rfl, ⟨first, ⟨noSign, visible⟩, rfl⟩,
      ⟨inner, _, rfl, inside, last, ⟨noSign', visible'⟩, rfl⟩ | rfl⟩ := shape
    · refine ⟨by simp, ?_, ?_, ?_⟩
      · have inInner : '=' ∉ inner := fun sign => inside '=' sign rfl
        simp [Ne.symm noSign, Ne.symm noSign', inInner]
      · simp [visible]
      · simp [visible']
    · simp [Ne.symm noSign, visible]
  · intro shape
    obtain ⟨nonempty, noSign, stops, stopsReverse⟩ := shape
    obtain ⟨first, tail, rfl⟩ := List.exists_cons_of_ne_nil nonempty
    obtain ⟨different, later⟩ := List.ne_and_not_mem_of_not_mem_cons noSign
    refine ⟨[first], tail, rfl, ⟨first, ⟨Ne.symm different, by simpa using stops⟩, rfl⟩, ?_⟩
    rcases List.eq_nil_or_concat' tail with rfl | ⟨inner, last, rfl⟩
    · exact Or.inr rfl
    · have noSign' : ∀ c ∈ inner ++ [last], c ≠ '=' := fun c member sign => later (sign ▸ member)
      refine Or.inl ⟨inner, [last], rfl, fun c member => noSign' c (List.mem_append_left _ member), last,
        ⟨noSign' last (by simp), ?_⟩, rfl⟩
      simpa using stopsReverse

theorem matches_hint {passed : Text} {patterns : List Pattern} :
    (sequence (optional (sequence [sign ':', many space, group 3 argumentHint, many space]) :: patterns)).Matches
      passed read rest groups ↔
    ∃ hint spelled back later, HintSpelled hint spelled ∧ read = spelled ++ back ∧
      groups = later ++ (hint.map fun hint => (3, hint)).toList ∧
      (sequence patterns).Matches (passed ++ spelled) back rest later := by
  simp only [matches_optional, List.cons_append, List.nil_append, matches_sign,
    spells_spaces.matches_cons, spells_argumentHint.matches_group]
  constructor
  · intro shape
    rcases shape with ⟨_, rfl, left, _, rfl, leftSpaces, hint, _, later, rfl, rfl, ⟨nonempty, noSign, stops,
      stopsReverse⟩, right, back, rfl, rightSpaces, there⟩ | there
    · exact ⟨some hint, _, back, later, .given leftSpaces nonempty noSign stops stopsReverse rightSpaces, by simp,
        rfl, by simpa using there⟩
    · exact ⟨none, [], read, groups, .absent, rfl, by simp, by simpa using there⟩
  · intro shape
    obtain ⟨hint, spelled, back, later, hinted, rfl, rfl, there⟩ := shape
    cases hinted with
    | absent => exact Or.inr (by simpa using there)
    | @given left hint right leftSpaces nonempty noSign stops stopsReverse rightSpaces =>
        exact Or.inl ⟨left ++ (hint ++ (right ++ back)), by simp, left, _, rfl, leftSpaces, hint, _, later, rfl,
          rfl, ⟨nonempty, noSign, stops, stopsReverse⟩, right, back, rfl, rightSpaces, by simpa using there⟩

/-- A default value may be left out. -/
def DefaultSpelled (text : Text) : Prop :=
  text = [] ∨ ∃ more value, text = '=' :: (more ++ value) ∧ (∀ c ∈ more, isSpace c) ∧
    value ≠ [] ∧ ∀ c ∈ value, (c != '\n') = true

theorem matches_default {passed : Text} :
    (sequence [optional (sequence [sign '=', many space, repeated inLine]), finalLineEnd]).Matches
      passed read rest groups ↔ DefaultSpelled read ∧ endsLastLine rest ∧ groups = [] := by
  simp only [inLine, matches_optional, List.cons_append, List.nil_append, matches_sign,
    spells_spaces.matches_cons, (spells_repeated _).matches_cons, anchors_finalLineEnd.matches_cons, matches_nil]
  constructor
  · intro shape
    rcases shape with ⟨_, rfl, more, _, rfl, spaces, value, _, rfl, ⟨nonempty, filled⟩, ends, rfl, rfl⟩ |
      ⟨ends, rfl, rfl⟩
    · exact ⟨Or.inr ⟨more, value, by simp, spaces, nonempty, filled⟩, ends, rfl⟩
    · exact ⟨Or.inl rfl, ends, rfl⟩
  · intro shape
    obtain ⟨rfl | ⟨more, value, rfl, spaces, nonempty, filled⟩, ends, rfl⟩ := shape
    · exact Or.inr ⟨ends, rfl, rfl⟩
    · exact Or.inl ⟨_, rfl, more, _, rfl, spaces, value, [], by simp, ⟨nonempty, filled⟩, ends, rfl, rfl⟩

theorem argumentFragment_matches : argumentFragment.Matches [] read rest groups ↔
    ∃ mark gap word closing hint spelled ending, mark ∈ [[], ['*'], ['*', '*']] ∧ (∀ c ∈ gap, isSpace c) ∧
      isIdentifier word ∧ (∀ c ∈ closing, isSpace c) ∧ HintSpelled hint spelled ∧ DefaultSpelled ending ∧
      endsLastLine rest ∧ read = mark ++ (gap ++ (word ++ (closing ++ (spelled ++ ending)))) ∧
      groups = (hint.map fun hint => (3, hint)).toList ++ [(2, word), (1, mark)] := by
  simp only [argumentFragment, anchors_textStart.matches_cons, true_and, spells_stars.matches_group,
    spells_spaces.matches_cons, spells_identifier.matches_group, matches_hint, matches_default]
  constructor
  · intro shape
    obtain ⟨mark, _, _, rfl, rfl, marked, gap, _, rfl, spaces, word, _, _, rfl, rfl, identifier, closing, _, rfl,
      closingSpaces, hint, spelled, ending, _, hinted, rfl, rfl, spelled', ends, rfl⟩ := shape
    exact ⟨mark, gap, word, closing, hint, spelled, ending, marked, spaces, identifier, closingSpaces, hinted,
      spelled', ends, rfl, by simp⟩
  · intro shape
    obtain ⟨mark, gap, word, closing, hint, spelled, ending, marked, spaces, identifier, closingSpaces, hinted,
      spelled', ends, rfl, rfl⟩ := shape
    exact ⟨mark, _, (hint.map fun hint => (3, hint)).toList ++ [(2, word)], rfl, by simp, marked, gap, _, rfl,
      spaces, word, _, _, rfl, rfl, identifier, closing, _, rfl, closingSpaces, hint, spelled, ending, [], hinted,
      rfl, rfl, spelled', ends, rfl⟩

/-- A default value goes on to the end of a trimmed fragment, so it does not end with white space. -/
theorem defaultSpelled_iff {value : Text} (visible : Stops isSpace value.reverse) :
    DefaultSpelled ('=' :: value) ↔ value ≠ [] ∧ '\n' ∉ trimLeft value := by
  constructor
  · intro shape
    rcases shape with absent | ⟨more, line, same, spaces, nonempty, filled⟩
    · contradiction
    · obtain rfl := (List.cons.inj same).2
      refine ⟨by simp [nonempty], fun feed => ?_⟩
      rw [trimLeft_append_of_eq_nil (List.dropWhile_eq_nil_iff.mpr spaces)] at feed
      exact absurd (filled _ ((List.dropWhile_suffix _).subset feed)) (by decide)
  · intro shape
    obtain ⟨nonempty, single⟩ := shape
    obtain ⟨gap, spaces, split, _⟩ := exists_gap value
    refine Or.inr ⟨gap, trimLeft value, by rw [← split], spaces, ?_, run_of_not_mem single⟩
    intro empty
    rw [empty, List.append_nil] at split
    obtain ⟨front, last, rfl⟩ := (List.eq_nil_or_concat' value).resolve_left nonempty
    have isSpace : isSpace last := spaces last (by simp [← split])
    simp [isSpace] at visible

theorem sign_not_mem_of_hintSpelled {hint : Option Text} {spelled : Text} (hinted : HintSpelled hint spelled) :
    '=' ∉ spelled := by
  cases hinted with
  | absent => exact List.not_mem_nil
  | @given left hint right leftSpaces nonempty noSign stops stopsReverse rightSpaces =>
      have inLeft : '=' ∉ left := fun sign => absurd (leftSpaces _ sign) (by decide)
      have inRight : '=' ∉ right := fun sign => absurd (rightSpaces _ sign) (by decide)
      simp [inLeft, noSign, inRight]

theorem visible_of_trimmed {head value : Text} (trimmed : Trimmed (head ++ '=' :: value)) :
    Stops isSpace value.reverse := by
  refine stops_of_isPrefix ?_ trimmed.2
  exact ⟨'=' :: head.reverse, by simp⟩

theorem spelled_of_parts {head ending : Text} {argument : Argument} (noSign : '=' ∉ head)
    (spelled : HeadSpelled head argument) (defaulted : DefaultSpelled ending)
    (trimmed : Trimmed (head ++ ending)) : Spelled (head ++ ending) argument := by
  have shape := defaulted
  rcases shape with rfl | ⟨more, value, rfl, _⟩
  · rw [List.append_nil]
    exact .bare noSign spelled
  · obtain ⟨nonempty, single⟩ := (defaultSpelled_iff (visible_of_trimmed trimmed)).mp defaulted
    exact .valued noSign spelled nonempty single

theorem exists_parts {fragment : Text} {argument : Argument} (spelled : Spelled fragment argument)
    (trimmed : Trimmed fragment) :
    ∃ head ending, fragment = head ++ ending ∧ HeadSpelled head argument ∧ DefaultSpelled ending := by
  cases spelled with
  | bare noSign spelled => exact ⟨fragment, [], by simp, spelled, Or.inl rfl⟩
  | @valued head value _ noSign spelled nonempty single =>
      exact ⟨head, '=' :: value, rfl, spelled,
        (defaultSpelled_iff (visible_of_trimmed trimmed)).mpr ⟨nonempty, single⟩⟩

/-- The reader of arguments finds what the pattern of fragments matches in a fragment that is trimmed. -/
theorem argumentFragment_agrees {fragment : Text} (trimmed : Trimmed fragment) :
    (argumentFragment.match? [] fragment).map (fun found =>
        (⟨found.captured 1 ++ found.captured 2, found.captured? 3⟩ : Argument)) =
      ofFragment? fragment := by
  apply map_run_eq
  · rintro read rest groups rfl here
    obtain ⟨mark, gap, word, closing, hint, spelled, ending, marked, spaces, identifier, closingSpaces, hinted,
      defaulted, ends, rfl, rfl⟩ := argumentFragment_matches.mp here
    have whole : mark ++ (gap ++ (word ++ (closing ++ (spelled ++ ending)))) ++ rest =
        mark ++ (gap ++ (word ++ (closing ++ spelled))) ++ ending := by
      simp only [endsLastLine, Bool.or_eq_true, beq_iff_eq] at ends
      rcases ends with rfl | rfl
      · simp
      · exact absurd trimmed.2 (by simp; decide)
    have noSign : '=' ∉ mark ++ (gap ++ (word ++ (closing ++ spelled))) := by
      have inMark : '=' ∉ mark := by
        simp only [List.mem_cons, List.not_mem_nil, or_false] at marked
        rcases marked with rfl | rfl | rfl <;> decide
      have inGap : '=' ∉ gap := fun sign => absurd (spaces _ sign) (by decide)
      have inWord : '=' ∉ word := not_mem_identifier identifier (by decide)
      have inClosing : '=' ∉ closing := fun sign => absurd (closingSpaces _ sign) (by decide)
      simp [inMark, inGap, inWord, inClosing, sign_not_mem_of_hintSpelled hinted]
    have head := HeadSpelled.intro marked spaces identifier closingSpaces hinted
    rw [whole] at trimmed ⊢
    rw [ofFragment?_iff_spelled.mpr (spelled_of_parts noSign head defaulted trimmed)]
    cases hint <;> rfl
  · intro succeeds
    obtain ⟨argument, found⟩ := Option.isSome_iff_exists.mp succeeds
    obtain ⟨_, ending, rfl, head, defaulted⟩ := exists_parts (ofFragment?_iff_spelled.mp found) trimmed
    cases head with
    | @intro mark gap word closing spelled hint marked spaces identifier closingSpaces hinted =>
        exact ⟨_, [], _, (List.append_nil _).symm, argumentFragment_matches.mpr ⟨mark, gap, word, closing, hint,
          spelled, ending, marked, spaces, identifier, closingSpaces, hinted, defaulted, rfl, by simp, rfl⟩⟩

end ArgumentFragment

end Outline.Pattern
