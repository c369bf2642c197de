/-
This file cuts a line that declares a global variable into its parts. A line can be cut in one way only,
and the variables found in a source are those of the lines that can be cut.
-/

import Outline.Proofs.Global

namespace Outline

open Text

namespace GlobalEntry

/-- A spaced hint stands behind a colon and has blanks on its sides. -/
@[ext] structure SpacedHint where
  left : Text
  hint : Text
  right : Text
  leftBlanks : ∀ c ∈ left, isBlank c
  spelled : HintSpelled hint
  rightBlanks : ∀ c ∈ right, isBlank c

namespace SpacedHint

def text (spaced : SpacedHint) : Text :=
  ':' :: (spaced.left ++ (spaced.hint ++ spaced.right))

theorem isHint (spaced : SpacedHint) : GlobalEntry.isHint spaced.hint :=
  isHint_iff_spelled.mpr spaced.spelled

theorem sign_not_mem (spaced : SpacedHint) :
    '=' ∉ spaced.left ++ (spaced.hint ++ spaced.right) := by
  obtain ⟨_, parts, _, _⟩ := isHint_spec spaced.isHint
  have left : '=' ∉ spaced.left := fun member => absurd (spaced.leftBlanks _ member) (by decide)
  have hint : '=' ∉ spaced.hint := fun member => absurd (parts _ member) (by decide)
  have right : '=' ∉ spaced.right := fun member => absurd (spaced.rightBlanks _ member) (by decide)
  simp only [List.mem_append, not_or]
  exact ⟨left, hint, right⟩

/-- The hint starts and ends with no blank, so the blanks on its sides are those that get trimmed. -/
theorem trimBlanks_eq (spaced : SpacedHint) :
    trimBlanks (spaced.left ++ (spaced.hint ++ spaced.right)) = spaced.hint := by
  obtain ⟨nonempty, _, first, last⟩ := isHint_spec spaced.isHint
  exact trimBlanks_run spaced.leftBlanks spaced.rightBlanks nonempty
    (fun c isFirst => isBlank_of_isHintStart (first c isFirst))
    (fun c isLast => isBlank_of_isHintStart (last c isLast))

theorem stops_isBlank (spaced : SpacedHint) : Stops isBlank (spaced.hint ++ spaced.right) := by
  obtain ⟨nonempty, _, first, _⟩ := isHint_spec spaced.isHint
  exact (stops_append nonempty).mpr fun c isFirst => isBlank_of_isHintStart (first c isFirst)

theorem text_injective : Function.Injective text := by
  intro one other same
  have inner : one.left ++ (one.hint ++ one.right) = other.left ++ (other.hint ++ other.right) :=
    List.tail_eq_of_cons_eq same
  -- A space may stand inside a hint, so the hint is no run of its own: it is what trimming leaves.
  have hints : one.hint = other.hint := by
    rw [← one.trimBlanks_eq, inner, other.trimBlanks_eq]
  obtain ⟨lefts, behind⟩ :=
    run_append_inj one.leftBlanks one.stops_isBlank other.leftBlanks other.stops_isBlank inner
  rw [hints] at behind
  exact SpacedHint.ext lefts hints (List.append_cancel_left behind)

/-- The text of a hint that may be left out. -/
def optionalText : Option SpacedHint → Text
  | none => []
  | some spaced => spaced.text

theorem sign_not_mem_optionalText (spaced : Option SpacedHint) : '=' ∉ optionalText spaced := by
  cases spaced with
  | none => exact List.not_mem_nil
  | some spaced => simpa [optionalText, text] using spaced.sign_not_mem

theorem optionalText_injective : Function.Injective optionalText := by
  intro one other same
  cases one with
  | none =>
      cases other with
      | none => rfl
      | some other => exact absurd same (List.cons_ne_nil _ _).symm
  | some one =>
      cases other with
      | none => exact absurd same (List.cons_ne_nil _ _)
      | some other => rw [text_injective same]

/-- The equals sign, which no hint holds, divides the hint from the value. -/
theorem optionalText_append_inj {one other : Option SpacedHint} {value value' : Text}
    (same : optionalText one ++ '=' :: value = optionalText other ++ '=' :: value') :
    one = other ∧ value = value' := by
  obtain ⟨texts, values⟩ :=
    run_append_inj (run_of_not_mem (sign_not_mem_optionalText one)) (by simp)
      (run_of_not_mem (sign_not_mem_optionalText other)) (by simp) same
  exact ⟨optionalText_injective texts, List.tail_eq_of_cons_eq values⟩

end SpacedHint

/-- Behind a name and its blanks stand a hint, which may be left out, the equals sign and a text. -/
theorem assigned?_iff_hint {text value : Text} {hint : Option Text} :
    assigned? text = some (hint, value) ↔
      ∃ spaced, text = SpacedHint.optionalText spaced ++ '=' :: value ∧
        spaced.map SpacedHint.hint = hint := by
  rw [assigned?_eq_some_iff]
  constructor
  · intro shape
    rcases shape with ⟨rfl, rfl⟩ | ⟨spelled, rfl, isHint, _, rfl⟩
    · exact ⟨none, rfl, rfl⟩
    · obtain ⟨left, right, leftBlanks, rightBlanks, split⟩ := exists_trimBlanks spelled
      refine ⟨some ⟨left, trimBlanks spelled, right, leftBlanks, isHint_iff_spelled.mp isHint, rightBlanks⟩,
        ?_, rfl⟩
      rw [SpacedHint.optionalText, SpacedHint.text, ← split]
      rfl
  · intro shape
    obtain ⟨spaced, rfl, rfl⟩ := shape
    cases spaced with
    | none => exact Or.inl ⟨rfl, rfl⟩
    | some spaced =>
        refine Or.inr ⟨_, ?_, ?_, spaced.sign_not_mem, rfl⟩
        · rw [spaced.trimBlanks_eq, Option.map_some]
        · rw [spaced.trimBlanks_eq]
          exact spaced.isHint

/-- An assignment is a name that starts with no keyword, blanks, a hint that may be left out, and the
text behind the equals sign, which is not empty. -/
@[ext] structure Assignment where
  name : Text
  blanks : Text
  hint : Option SpacedHint
  assigned : Text
  identifier : isIdentifier name
  noKeyword : ¬Signature.keyword <+: name ∧ ¬ClassText.keyword <+: name
  areBlanks : ∀ c ∈ blanks, isBlank c
  nonempty : assigned ≠ []

namespace Assignment

/-- What stands behind the name and its blanks. -/
def ending (assignment : Assignment) : Text :=
  SpacedHint.optionalText assignment.hint ++ '=' :: assignment.assigned

def line (assignment : Assignment) : Text := assignment.name ++ (assignment.blanks ++ assignment.ending)

def entry (assignment : Assignment) : GlobalEntry :=
  ⟨assignment.name, assignment.hint.map SpacedHint.hint, trim assignment.assigned⟩

theorem assigned?_ending (assignment : Assignment) :
    assigned? assignment.ending = some (assignment.entry.hint, assignment.assigned) :=
  assigned?_iff_hint.mpr ⟨assignment.hint, rfl, rfl⟩

theorem stops_ending (assignment : Assignment) :
    Stops isBlank assignment.ending ∧ Stops isIdentifierPart (assignment.blanks ++ assignment.ending) :=
  stops_of_assigned? assignment.assigned?_ending assignment.areBlanks

/-- A line is cut into its parts from left to right: each part goes as far as its characters do. -/
theorem line_injective : Function.Injective line := by
  intro one other same
  have oneName : ∀ c ∈ one.name, isIdentifierPart c := fun _ => isIdentifierPart_of_mem one.identifier
  have otherName : ∀ c ∈ other.name, isIdentifierPart c := fun _ => isIdentifierPart_of_mem other.identifier
  obtain ⟨names, behindName⟩ :=
    run_append_inj oneName one.stops_ending.2 otherName other.stops_ending.2 same
  obtain ⟨blanks, endings⟩ :=
    run_append_inj one.areBlanks one.stops_ending.1 other.areBlanks other.stops_ending.1 behindName
  obtain ⟨hints, values⟩ := SpacedHint.optionalText_append_inj endings
  exact Assignment.ext names blanks hints values

end Assignment

/-- A line declares a variable exactly if it is the line of an assignment that gives this variable. -/
theorem declared?_iff_assignment {line : Text} {entry : GlobalEntry} :
    declared? line = some entry ↔
      ∃ assignment : Assignment, assignment.line = line ∧ assignment.entry = entry := by
  rw [declared?_eq_some_iff]
  constructor
  · intro shape
    obtain ⟨top, spells⟩ := shape
    obtain ⟨blanks, rest, value, ⟨identifier, areBlanks⟩, rfl, assigned, nonempty, trimmed⟩ :=
      ofLine?_eq_some_iff.mp spells
    -- The line starts with a name, so of the tests for a top-level line only the keywords are left.
    have noKeyword := (isTopLevel_name identifier (stops_of_assigned? assigned areBlanks).2).mp top
    obtain ⟨spaced, rfl, hinted⟩ := assigned?_iff_hint.mp assigned
    refine ⟨⟨entry.name, blanks, spaced, value, identifier, noKeyword, areBlanks, nonempty⟩, rfl, ?_⟩
    rw [Assignment.entry, hinted, trimmed]
  · intro shape
    obtain ⟨assignment, rfl, rfl⟩ := shape
    have top := (isTopLevel_name assignment.identifier assignment.stops_ending.2).mpr assignment.noKeyword
    refine ⟨top, ofLine?_eq_some_iff.mpr ?_⟩
    exact ⟨assignment.blanks, assignment.ending, assignment.assigned,
      ⟨assignment.identifier, assignment.areBlanks⟩, rfl, assignment.assigned?_ending, assignment.nonempty, rfl⟩

/-- The variables found in a source are what its lines declare, one line after the other. A line declares
a variable exactly if it can be cut into the parts of an assignment, which give the variable; every other
line declares nothing; and no line can be cut in two ways. -/
theorem listOf_assignments (source : Text) :
    listOf source = (source.splitOn '\n').filterMap declared? ∧
      (∀ line entry, declared? line = some entry ↔
        ∃ assignment : Assignment, assignment.line = line ∧ assignment.entry = entry) ∧
      Function.Injective Assignment.line :=
  ⟨listOf_eq_filterMap source, fun _ _ => declared?_iff_assignment, Assignment.line_injective⟩

/-- A bracket may be a hint of its own, but it cannot end a longer one; and a name that starts with a
keyword declares nothing. -/
example : listOf "x: [ = 1\ny: a[ = 2\ndefault = 3".toList = [⟨['x'], some ['['], ['1']⟩] := by decide

/-- An assignment is hollow if nothing but white space stands behind its equals sign. -/
def Assignment.Hollow (assignment : Assignment) : Prop := ∀ c ∈ assignment.assigned, isSpace c

theorem mem_listOf_iff {source : Text} {entry : GlobalEntry} :
    entry ∈ listOf source ↔
      ∃ assignment : Assignment, assignment.line ∈ source.splitOn '\n' ∧ assignment.entry = entry := by
  simp only [listOf_eq_filterMap, List.mem_filterMap, declared?_iff_assignment]
  constructor
  · intro shape
    obtain ⟨_, member, assignment, rfl, same⟩ := shape
    exact ⟨assignment, member, same⟩
  · intro shape
    obtain ⟨assignment, member, same⟩ := shape
    exact ⟨assignment.line, member, assignment, rfl, same⟩

theorem sign_not_mem_front (assignment : Assignment) :
    '=' ∉ assignment.name ++ (assignment.blanks ++ SpacedHint.optionalText assignment.hint) := by
  have name := not_mem_identifier assignment.identifier (by decide : isIdentifierPart '=' = false)
  have blanks : '=' ∉ assignment.blanks := fun member => absurd (assignment.areBlanks _ member) (by decide)
  have hint := SpacedHint.sign_not_mem_optionalText assignment.hint
  simp only [List.mem_append, not_or]
  exact ⟨name, blanks, hint⟩

/-- A line that ends with its first equals sign declares nothing. -/
theorem declared?_of_bare {front : Text} (noSign : '=' ∉ front) : declared? (front ++ ['=']) = none := by
  by_contra declares
  obtain ⟨entry, found⟩ := Option.ne_none_iff_exists'.mp declares
  obtain ⟨assignment, whole, _⟩ := declared?_iff_assignment.mp found
  have cut : (assignment.name ++ (assignment.blanks ++ SpacedHint.optionalText assignment.hint))
      ++ '=' :: assignment.assigned = front ++ ['='] := by
    rw [← whole]
    simp [Assignment.line, Assignment.ending]
  obtain ⟨_, values⟩ := run_append_inj (run_of_not_mem (sign_not_mem_front assignment)) (by simp)
    (run_of_not_mem noSign) (by simp) cut
  exact assignment.nonempty (List.tail_eq_of_cons_eq values)

/-- A variable has an empty value exactly if its line is a hollow assignment: at least one character follows
the equals sign, and all of them are white space. So the values of a source are not empty exactly if it has
no such line; and a line that ends with its equals sign declares nothing. -/
theorem value_empty_iff_hollow (source : Text) :
    (∀ entry, (entry ∈ listOf source ∧ entry.value = []) ↔
        ∃ assignment : Assignment, assignment.line ∈ source.splitOn '\n' ∧ assignment.Hollow ∧
          assignment.entry = entry) ∧
      ((∀ entry ∈ listOf source, entry.value ≠ []) ↔
        ∀ assignment : Assignment, assignment.line ∈ source.splitOn '\n' → ¬assignment.Hollow) ∧
      ∀ front, '=' ∉ front → declared? (front ++ ['=']) = none := by
  have hollow : ∀ assignment : Assignment, assignment.entry.value = [] ↔ assignment.Hollow :=
    fun assignment => trim_eq_nil_iff
  refine ⟨?_, ?_, fun front => declared?_of_bare⟩
  · intro entry
    rw [mem_listOf_iff]
    constructor
    · intro shape
      obtain ⟨⟨assignment, member, rfl⟩, empty⟩ := shape
      exact ⟨assignment, member, (hollow assignment).mp empty, rfl⟩
    · intro shape
      obtain ⟨assignment, member, spaces, rfl⟩ := shape
      exact ⟨⟨assignment, member, rfl⟩, (hollow assignment).mpr spaces⟩
  · constructor
    · intro filled assignment member spaces
      exact filled assignment.entry (mem_listOf_iff.mpr ⟨assignment, member, rfl⟩)
        ((hollow assignment).mpr spaces)
    · intro noHollow entry member empty
      obtain ⟨assignment, inside, rfl⟩ := mem_listOf_iff.mp member
      exact noHollow assignment inside ((hollow assignment).mp empty)

/-- A space behind the equals sign is enough for a variable without a value. -/
theorem value_empty_of_space : ¬∀ source, ∀ entry ∈ listOf source, entry.value ≠ [] := by
  intro filled
  exact filled "x = \ny = 2\n".toList ⟨['x'], none, []⟩ (by decide) rfl

end GlobalEntry

end Outline
