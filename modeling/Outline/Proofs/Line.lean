/-
This file treats readers that look at one line only. Searching with such a reader is the same as
going through the lines one by one.
-/

import Outline.Proofs.Search

namespace Outline

namespace Text

/-- The first line of a text, without its line feed. -/
def firstLine (text : Text) : Text := text.takeWhile (· != '\n')

/-- What follows the first line of a text, from its line feed on. -/
def behindLine (text : Text) : Text := text.dropWhile (· != '\n')

theorem firstLine_append_behindLine (text : Text) : firstLine text ++ behindLine text = text :=
  List.takeWhile_append_dropWhile

/-- The tails at line starts begin with the lines, but for an empty line at the very end. -/
theorem filterMap_lineTails {α : Type} {find : Text → Option α} (empty : find [] = none) (text : Text) :
    (lineTails true text).filterMap (fun tail => find (firstLine tail)) =
        (text.splitOn '\n').filterMap find ∧
      (lineTails false text).filterMap (fun tail => find (firstLine tail)) =
        (text.splitOn '\n').tail.filterMap find := by
  induction text with
  | nil => simp [lineTails, empty]
  | cons character rest inductionHypothesis =>
      obtain ⟨all, later⟩ := inductionHypothesis
      by_cases feed : character = '\n'
      · have here : find (firstLine (character :: rest)) = none := by simp [firstLine, feed, empty]
        simp only [lineTails, List.filterMap_append, List.splitOn_cons_eq_if_modifyHead, feed,
          beq_self_eq_true, if_true]
        simp only [feed] at here
        simp [here, all, empty]
      · have other : (character == '\n') = false := by simpa using feed
        obtain ⟨lines, split⟩ := exists_splitOn '\n' rest
        rw [split] at later
        simp only [lineTails, List.filterMap_append, List.splitOn_cons_eq_if_modifyHead, other,
          Bool.false_eq_true, if_false, split, List.modifyHead_cons, List.tail_cons, later]
        have here : firstLine (character :: rest) =
            character :: rest.takeWhile (· != '\n') := by simp [firstLine, feed]
        cases value : find (character :: rest.takeWhile (· != '\n')) <;>
          simp [here, value]

theorem firstLine_append {before : Text} (after : Text) (nonempty : before ≠ []) (flush : Flush before) :
    firstLine (before ++ after) = firstLine before :=
  takeWhile_append_of_flush after flush nonempty (by decide)

theorem behindLine_append {before : Text} (after : Text) (nonempty : before ≠ []) (flush : Flush before) :
    behindLine (before ++ after) = behindLine before ++ after :=
  dropWhile_append_of_flush after flush nonempty (by decide)

end Text

namespace Reader

open Text

variable {α : Type}

/-- A reader of lines finds its value in the first line and leaves what is behind that line. -/
def ofLine (find : Text → Option α) : Reader α := fun text =>
  (find (firstLine text)).map fun value => (value, behindLine text)

variable {find : Text → Option α}

theorem ofLine_eq_some_iff {text rest : Text} {value : α} :
    ofLine find text = some (value, rest) ↔
      find (firstLine text) = some value ∧ behindLine text = rest := by
  simp [ofLine]

theorem ofLine_line {line rest : Text} {value : α} (single : '\n' ∉ line)
    (ends : Stops (· != '\n') rest) (found : find line = some value) :
    ofLine find (line ++ rest) = some (value, rest) := by
  have run := run_of_not_mem single
  apply ofLine_eq_some_iff.mpr
  rw [firstLine, takeWhile_run run ends, behindLine, dropWhile_run run ends]
  exact ⟨found, rfl⟩

/-- A reader of lines is cut by every line. -/
theorem ofLine_cutsAt {before : Text} (after : Text) (nonempty : before ≠ []) (flush : Flush before) :
    (ofLine find).CutsAt before after := by
  simp only [CutsAt, ofLine, firstLine_append after nonempty flush,
    behindLine_append after nonempty flush, Option.map_map]
  rfl

theorem ofLine_lawful (empty : find [] = none) : (ofLine find).Lawful where
  progress := by
    intro text rest value found
    obtain ⟨here, rfl⟩ := ofLine_eq_some_iff.mp found
    refine ⟨firstLine text, ?_, (firstLine_append_behindLine text).symm⟩
    intro none
    rw [none, empty] at here
    contradiction
  yields := fun nonempty flush _ => ofLine_cutsAt _ nonempty flush

/-- A search for lines goes through the lines one by one. -/
theorem values_ofLine (empty : find [] = none) (text : Text) :
    (ofLine find).values text = (text.splitOn '\n').filterMap find := by
  have same : (ofLine find).answer = fun tail => find (firstLine tail) := by
    funext tail
    simp [answer, ofLine, Function.comp_def]
  rw [values_eq (ofLine_lawful empty), same, (filterMap_lineTails empty text).1]

end Reader

end Outline
