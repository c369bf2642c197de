/-
This file states that the notes of a scan follow from its summary: every argument that was kept as a whole
is noted once, in its place, and the entries of each kind are counted.
-/

import Outline.Note
import Outline.Proofs.Contract
import Outline.Proofs.Escape

namespace Outline

open Text

namespace Noted

variable {α β : Type}

@[simp] theorem value_pure (value : α) : (pure value : Noted α).value = value := rfl

@[simp] theorem notes_pure (value : α) : (pure value : Noted α).notes = [] := rfl

@[simp] theorem value_bind (first : Noted α) (next : α → Noted β) :
    (first >>= next).value = (next first.value).value := rfl

@[simp] theorem notes_bind (first : Noted α) (next : α → Noted β) :
    (first >>= next).notes = first.notes ++ (next first.value).notes := rfl

@[simp] theorem notes_map (make : α → β) (first : Noted α) : (make <$> first).notes = first.notes :=
  List.append_nil first.notes

@[simp] theorem notes_write (note : Note) : (write note).notes = [note] := rfl

instance : LawfulMonad Noted := LawfulMonad.mk' Noted
  (fun _ => by simp [Functor.map])
  (fun _ _ => rfl)
  (fun _ _ _ => by simp [bind])

/-- The notes of several steps come in the order of the steps. -/
theorem mapM_eq (step : α → Noted β) (items : List α) :
    items.mapM step = ⟨items.map fun item => (step item).value, items.flatMap fun item => (step item).notes⟩ := by
  induction items with
  | nil => rfl
  | cons item items inductionHypothesis =>
      rw [List.mapM_cons, inductionHypothesis]
      simp [bind, pure]

end Noted

namespace Argument

instance (name : Text) : Decidable (StarredName name) := decidable_of_iff (isStarred name) isStarred_iff

/-- The names of the arguments that were kept as a whole. -/
def keptNames (arguments : List Argument) : List Text :=
  (arguments.map name).filter fun name => ¬StarredName name

theorem value_noteFragment (fragment : Text) : (noteFragment fragment).value = ofFragment fragment := by
  rw [noteFragment, ofFragment]
  cases ofFragment? fragment <;> rfl

/-- A fragment that spells an argument gives it a starred name, and any other fragment is no starred name
itself. So the name alone tells whether a fragment was noted. -/
theorem notes_noteFragment (fragment : Text) :
    (noteFragment fragment).notes = (keptNames [ofFragment fragment]).map .unrecognized := by
  rw [noteFragment, ofFragment]
  cases found : ofFragment? fragment with
  | none =>
      have unstarred : ¬StarredName fragment := by
        rw [← isStarred_iff]
        intro starred
        rw [ofFragment?_of_isStarred starred] at found
        contradiction
      simp [keptNames, unstarred]
  | some argument =>
      obtain ⟨head, _, spelled, _⟩ := ofFragment?_eq_some_iff.mp found
      have starred : StarredName argument.name := isStarred_iff.mp (spec_of_ofHead? spelled).1
      simp [keptNames, starred]

/-- The list is read as without notes, and each of its arguments that was kept is noted in its place. -/
theorem noteList_eq (text : Text) :
    noteList text = ⟨listOf text, (keptNames (listOf text)).map .unrecognized⟩ := by
  rw [noteList, Noted.mapM_eq, listOf]
  simp only [value_noteFragment, notes_noteFragment, Noted.mk.injEq, true_and]
  induction commaPieces text with
  | nil => rfl
  | cons fragment fragments inductionHypothesis =>
      rw [List.flatMap_cons, inductionHypothesis, ← List.map_append, keptNames, keptNames, keptNames,
        ← List.filter_append]
      rfl

end Argument

open Argument (keptNames)

theorem FunctionEntry.noteList_eq (source : Text) :
    noteList source = ⟨listOf source,
      ((listOf source).flatMap fun function => keptNames function.arguments).map .unrecognized
        ++ [.functions (listOf source).length]⟩ := by
  simp only [noteList, Noted.mapM_eq, Argument.noteList_eq, listOf, bind, pure, Noted.write,
    List.flatMap_map, List.map_flatMap, List.length_map, List.append_nil]
  rfl

theorem ClassEntry.noteList_eq (source : Text) :
    noteList source = ⟨listOf source,
      ((listOf source).flatMap fun entry => keptNames entry.constructorArguments).map .unrecognized
        ++ [.classes (listOf source).length]⟩ := by
  simp only [noteList, Noted.mapM_eq, Argument.noteList_eq, listOf, bind, pure, Noted.write,
    List.flatMap_map, List.map_flatMap, List.length_map, List.append_nil]
  rfl

namespace Note

/-- The notes that a summary calls for. -/
def ofSummary (summary : Summary) : List Note :=
  (summary.functions.flatMap fun function => keptNames function.arguments).map unrecognized
    ++ [functions summary.functions.length]
    ++ (summary.classes.flatMap fun entry => keptNames entry.constructorArguments).map unrecognized
    ++ [classes summary.classes.length, globals summary.globals.length]

/-- A scan that takes notes finds the same summary, and the notes follow from it. -/
theorem noteScan_eq (source path : Text) :
    Summary.noteScan source path = ⟨Summary.scan source path, ofSummary (Summary.scan source path)⟩ := by
  simp only [Summary.noteScan, FunctionEntry.noteList_eq, ClassEntry.noteList_eq, GlobalEntry.noteList, bind,
    pure, Noted.write, ofSummary, List.append_assoc, List.append_nil, List.cons_append, List.nil_append]
  rfl

/-- The text that reports an argument which was kept as a whole under the given name. -/
def keptMessage (name : Text) : Text :=
  "Unrecognized argument fragment ".toList ++ quoted name ++ ", keeping it as a name".toList

/-- The name can be read off the text that reports it. -/
theorem keptMessage_injective : Function.Injective keptMessage := by
  intro name other same
  unfold keptMessage at same
  rw [List.append_assoc, List.append_assoc] at same
  have behind := List.append_cancel_left same
  exact (quoted_selfDelimiting behind).1

theorem found_eq (count : Nat) {what words : String} (spaced : ' ' :: what.toList = words.toList) :
    found count what = ("Found " ++ toString count ++ words).toList := by
  have digits : decimal count = (toString count).toList := by simp [decimal, Nat.repr]
  unfold found
  rw [digits, String.toList_append, String.toList_append, List.append_assoc _ [' '], List.singleton_append,
    spaced]

theorem message_functions (count : Nat) :
    (functions count).message = ("Found " ++ toString count ++ " top-level functions").toList :=
  found_eq count rfl

theorem message_classes (count : Nat) :
    (classes count).message = ("Found " ++ toString count ++ " top-level classes").toList :=
  found_eq count rfl

theorem message_globals (count : Nat) :
    (globals count).message = ("Found " ++ toString count ++ " global variables").toList :=
  found_eq count rfl

/-- A scan that takes notes finds the summary that it finds without, and its notes are those that the
summary calls for: for the arguments of the functions that were kept as a whole, each with its name between
quotes, then for the number of the functions; the same for the constructors of the classes; and last for the
number of the global variables. Nothing else is noted. -/
theorem ofScan_determined (source path : Text) :
    let summary := Summary.scan source path
    (Summary.noteScan source path).value = summary ∧
      (Summary.noteScan source path).notes = ofScan source ∧
      (ofScan source).map message =
        (summary.functions.flatMap fun function => keptNames function.arguments).map keptMessage
          ++ [("Found " ++ toString summary.functions.length ++ " top-level functions").toList]
          ++ (summary.classes.flatMap fun entry => keptNames entry.constructorArguments).map keptMessage
          ++ [("Found " ++ toString summary.classes.length ++ " top-level classes").toList,
            ("Found " ++ toString summary.globals.length ++ " global variables").toList] ∧
      Function.Injective keptMessage := by
  intro summary
  have notes : ofScan source = ofSummary summary := by
    rw [ofScan, noteScan_eq]
    rfl
  refine ⟨?_, ?_, ?_, keptMessage_injective⟩
  · rw [noteScan_eq]
  · rw [noteScan_eq]
    exact notes.symm
  · rw [notes, ofSummary, ← message_functions, ← message_classes, ← message_globals]
    simp only [List.map_append, List.map_map]
    rfl

/-- A star alone is kept as it is. -/
example : (Summary.noteScan "def f(a, *): 0".toList []).notes =
    [unrecognized ['*'], functions 1, classes 0, globals 0] := by decide

end Note

end Outline
