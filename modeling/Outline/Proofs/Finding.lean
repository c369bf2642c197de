/-
This file states that the constructs of a source are those that the patterns find in it: the search for the
matches of a pattern and the search with its reader have the same hits.
-/

import Outline.Proofs.ClassRecognizer

namespace Outline

def Hit.map {α β : Type} (convert : α → β) (hit : Hit α) : Hit β := ⟨hit.start, hit.stop, convert hit.value⟩

namespace Pattern

open Text

variable {α : Type} {pattern : Pattern} {reader : Reader α} {value : State → α} {passed text : Text}

/-- At a line start the pattern matches what the reader reads, and elsewhere it matches nothing. -/
structure Recognizes (pattern : Pattern) (reader : Reader α) (value : State → α) : Prop where
  agrees {passed : Text} (flush : Flush passed) (text : Text) :
    (pattern.match? passed text).map (fun found => (value found, found.rest)) = reader text
  anchored : ∃ rest, pattern = seq lineStart rest
  nothing : reader [] = none

theorem Recognizes.match?_inside (recognizes : pattern.Recognizes reader value)
    (inside : startsLine passed = false) : pattern.match? passed text = none := by
  obtain ⟨rest, rfl⟩ := recognizes.anchored
  simp [match?, run, inside]

theorem Recognizes.match?_nil (recognizes : pattern.Recognizes reader value) :
    pattern.match? passed [] = none := by
  by_cases starts : startsLine passed
  · have same := recognizes.agrees (startsLine_iff.mp starts) []
    rw [recognizes.nothing] at same
    exact Option.map_eq_none_iff.mp same
  · exact recognizes.match?_inside (by simpa using starts)

theorem startsLine_concat (passed : Text) (last : Char) : startsLine (passed ++ [last]) = (last == '\n') := by
  simp [startsLine]

/-- From every place on, the search for matches has the hits of the search with the reader. -/
theorem Recognizes.hitsFrom_eq (recognizes : pattern.Recognizes reader value) (covered : Nat)
    (passed text : Text) :
    (pattern.hitsFrom covered passed text).map (Hit.map value) =
      reader.hitsFrom passed.length covered (startsLine passed) text := by
  induction text generalizing covered passed with
  | nil => simp [hitsFrom, Reader.hitsFrom, recognizes.match?_nil]
  | cons character rest inductionHypothesis =>
      have goesOn (covered : Nat) : (pattern.hitsFrom covered (passed ++ [character]) rest).map (Hit.map value) =
          reader.hitsFrom (passed.length + 1) covered (character == '\n') rest := by
        rw [inductionHypothesis, startsLine_concat, List.length_append, List.length_singleton]
      cases covered with
      | succ covered => rw [hitsFrom, Reader.hitsFrom, goesOn]
      | zero =>
          cases starts : startsLine passed with
          | false => rw [hitsFrom, recognizes.match?_inside starts, Reader.hitsFrom, goesOn]
          | true =>
              have same := recognizes.agrees (startsLine_iff.mp starts) (character :: rest)
              rw [hitsFrom, Reader.hitsFrom, ← same]
              cases found : pattern.match? passed (character :: rest) with
              | none => exact goesOn 0
              | some state => exact congrArg (_ :: ·) (goesOn _)

theorem Recognizes.hits_eq (recognizes : pattern.Recognizes reader value) (text : Text) :
    (pattern.hits text).map (Hit.map value) = reader.hits text :=
  recognizes.hitsFrom_eq 0 [] text

theorem Recognizes.values_eq (recognizes : pattern.Recognizes reader value) (text : Text) :
    reader.values text = (pattern.hits text).map fun hit => value hit.value := by
  rw [Reader.values, ← recognizes.hits_eq, List.map_map]
  rfl

end Pattern

open Pattern

/-- The functions of a source are the matches of the pattern of function headers. -/
theorem FunctionEntry.listOf_eq_matches (source : Text) :
    FunctionEntry.listOf source = (functionHeader.hits source).map fun hit =>
      ⟨hit.value.captured 1, Argument.listOf (hit.value.captured 2)⟩ := by
  rw [FunctionEntry.listOf, Recognizes.values_eq ⟨functionHeader_agrees, ⟨_, rfl⟩, rfl⟩, List.map_map]
  rfl

/-- The constructor of a class is the first match of the pattern of constructor headers in its body. -/
theorem ClassText.constructorParameters_eq_match (text : ClassText) :
    text.constructorParameters =
      (((constructorHeader.hits text.body).head?.map fun hit => hit.value.captured 1)).getD [] := by
  rw [ClassText.constructorParameters, Reader.first?,
    Recognizes.values_eq ⟨constructorHeader_agrees, ⟨_, rfl⟩, rfl⟩, List.head?_map]

/-- The classes of a source are the matches of the pattern of class headers. -/
theorem ClassEntry.listOf_eq_matches (source : Text) :
    ClassEntry.listOf source = (classHeader.hits source).map fun hit =>
      ⟨hit.value.captured 1, Text.commaPieces (hit.value.captured 2),
        Argument.listOf (((constructorHeader.hits (hit.value.captured 3)).head?.map fun hit =>
          hit.value.captured 1).getD [])⟩ := by
  rw [ClassEntry.listOf, Recognizes.values_eq ⟨classHeader_agrees, ⟨_, rfl⟩, rfl⟩, List.map_map]
  apply List.map_congr_left
  intro hit _
  have constructed := ClassText.constructorParameters_eq_match
    ⟨hit.value.captured 1, hit.value.captured? 2, hit.value.captured 3⟩
  rw [← constructed]
  rfl

/-- The global variables of a source are the matches of the pattern of assignments in its top-level lines. -/
theorem GlobalEntry.listOf_eq_matches (source : Text) :
    GlobalEntry.listOf source = (globalAssignment.hits (GlobalEntry.topLevel source)).map fun hit =>
      ⟨hit.value.captured 1, hit.value.captured? 2, Text.trim (hit.value.captured 3)⟩ :=
  Recognizes.values_eq ⟨globalAssignment_agrees, ⟨_, rfl⟩, rfl⟩ _

/-- The arguments of a list are the matches of the pattern of fragments in its pieces; a piece that does not match
is a name. -/
theorem Argument.listOf_eq_matches (text : Text) :
    Argument.listOf text = (Text.pieces text).map fun piece =>
      match argumentFragment.match? [] piece with
      | some found => ⟨found.captured 1 ++ found.captured 2, found.captured? 3⟩
      | none => ⟨piece, none⟩ := by
  rw [Argument.listOf, Text.commaPieces_eq]
  apply List.map_congr_left
  intro piece member
  rw [← Text.commaPieces_eq] at member
  rw [Argument.ofFragment, ← argumentFragment_agrees (Text.isPiece_of_mem_commaPieces member).1.trimmed]
  cases argumentFragment.match? [] piece <;> rfl

end Outline
