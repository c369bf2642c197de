/-
This file compares what is found in a text with what is found in a longer one. Behind whole lines, a
header starts afresh; and more text behind a text takes back nothing that was found.
-/

import Outline.Proofs.Barrier
import Outline.Proofs.Constructor

namespace Outline

open Text

section Barrier

variable {before after : Text}

theorem FunctionEntry.listOf_append (flush : Flush before) (barrier : Barrier after) :
    FunctionEntry.listOf (before ++ after) =
      FunctionEntry.listOf before ++ FunctionEntry.listOf after := by
  rw [FunctionEntry.listOf, Reader.values_append Signature.read?_lawful flush
    (Signature.read?_cutsAt barrier), List.map_append]
  rfl

theorem ClassEntry.listOf_append (flush : Flush before) (barrier : Barrier after) :
    ClassEntry.listOf (before ++ after) = ClassEntry.listOf before ++ ClassEntry.listOf after := by
  rw [ClassEntry.listOf, Reader.values_append ClassText.read?_lawful flush
    (ClassText.read?_cutsAt barrier), List.map_append]
  rfl

theorem GlobalEntry.listOf_append (flush : Flush before) :
    GlobalEntry.listOf (before ++ after) = GlobalEntry.listOf before ++ GlobalEntry.listOf after := by
  simp only [GlobalEntry.listOf_eq]
  exact Reader.values_append GlobalEntry.declaration?_lawful flush (Reader.ofLine_cutsAt after)

/-- Whatever stands on the lines before a header, the search starts afresh at the header. -/
theorem listOf_append_header
    (flush : before = [] ∨ before.getLast? = some '\n')
    (header : (Signature.read? after).isSome ∨ (ClassText.read? after).isSome) :
    FunctionEntry.listOf (before ++ after) =
        FunctionEntry.listOf before ++ FunctionEntry.listOf after ∧
      ClassEntry.listOf (before ++ after) = ClassEntry.listOf before ++ ClassEntry.listOf after ∧
      GlobalEntry.listOf (before ++ after) =
        GlobalEntry.listOf before ++ GlobalEntry.listOf after := by
  have barrier : Barrier after := by
    rcases header with function | classText
    · exact Signature.barrier_of_read? function
    · exact ClassText.barrier_of_read? classText
  exact ⟨FunctionEntry.listOf_append flush barrier, ClassEntry.listOf_append flush barrier,
    GlobalEntry.listOf_append flush⟩

end Barrier

/-- A keyword without a name does not take the keyword of the next line for its name: behind it the
function is found, as it is alone, and the variable in front of it is found too. -/
theorem listOf_append_header_dangling :
    let before := "x = 1\ndef\n".toList
    let after := "def f(a):\n".toList
    (before.getLast? = some '\n' ∧ (Signature.read? after).isSome) ∧
      (FunctionEntry.listOf (before ++ after) =
          FunctionEntry.listOf before ++ FunctionEntry.listOf after ∧
        ClassEntry.listOf (before ++ after) = ClassEntry.listOf before ++ ClassEntry.listOf after ∧
        GlobalEntry.listOf (before ++ after) =
          GlobalEntry.listOf before ++ GlobalEntry.listOf after) ∧
      FunctionEntry.listOf (before ++ after) = [⟨['f'], [⟨['a'], none⟩]⟩] ∧
      GlobalEntry.listOf (before ++ after) = [⟨['x'], none, ['1']⟩] := by
  intro before after
  have flush : before.getLast? = some '\n' := by decide
  have header : (Signature.read? after).isSome := by decide
  exact ⟨⟨flush, header⟩, listOf_append_header (Or.inr flush) (Or.inl header), by decide, by decide⟩

section Growth

/-- A class is kept if it has the same name and bases, and the same arguments if it had any. -/
structure ClassEntry.Kept (entry grown : ClassEntry) : Prop where
  name_eq : grown.name = entry.name
  bases_eq : grown.bases = entry.bases
  arguments_eq : entry.constructorArguments ≠ [] →
    grown.constructorArguments = entry.constructorArguments

/-- A class text that goes on keeps its name, its bases and the constructor that it has. -/
theorem ClassText.read?_append {text rest : Text} {found : ClassText}
    (read : ClassText.read? text = some (found, rest)) (more : Text) :
    ∃ grown unread, ClassText.read? (text ++ more) = some (grown, unread) ∧
      found.toClass.Kept grown.toClass := by
  obtain ⟨named, unread, heading, opened, body⟩ := ClassText.read?_eq_some_iff.mp read
  obtain ⟨front, nonempty, split⟩ := ClassText.opening?_suffix opened
  obtain ⟨grown, unread', regrown, keeps⟩ := ClassText.body?_append body more
  refine ⟨⟨found.name, found.bases, grown⟩, unread', ?_, rfl, rfl, ?_⟩
  · apply ClassText.read?_eq_some_iff.mpr
    exact ⟨named ++ more, unread ++ more, heading?_append heading (by simp [split, nonempty]) more,
      ClassText.opening?_append opened more, regrown⟩
  · intro hasArguments
    cases first : ClassText.constructor?.first? found.body with
    | none =>
        have empty : Argument.listOf [] = [] := by decide
        exact absurd (by simp [ClassText.toClass, ClassText.constructorParameters, first, empty])
          hasArguments
    | some parameters =>
        simp [ClassText.toClass, ClassText.constructorParameters, first, keeps parameters first]

theorem ClassEntry.listOf_grown (source more : Text) :
    Reader.Grown ClassEntry.Kept (ClassEntry.listOf source) (ClassEntry.listOf (source ++ more)) :=
  Reader.Grown.map (Reader.values_grown ClassText.read?_lawful
    (fun found grown => found.toClass.Kept grown.toClass)
    (fun found => ClassText.read?_append found more) source) fun _ _ kept => kept

/-- More text takes back no function, and it keeps every class but for the constructor of the last
one, which may still be to come. -/
theorem listOf_append_keeps (source more : Text) :
    FunctionEntry.listOf source <+: FunctionEntry.listOf (source ++ more) ∧
      (ClassEntry.listOf source).length ≤ (ClassEntry.listOf (source ++ more)).length ∧
      ∀ index entry, (ClassEntry.listOf source)[index]? = some entry →
        ∃ grown, (ClassEntry.listOf (source ++ more))[index]? = some grown ∧
          grown.name = entry.name ∧ grown.bases = entry.bases ∧
          (index + 1 ≠ (ClassEntry.listOf source).length ∨ entry.constructorArguments ≠ [] →
            grown.constructorArguments = entry.constructorArguments) := by
  refine ⟨?_, ?_⟩
  · exact (Reader.values_isPrefix Signature.read?_lawful
      (fun found => Signature.read?_append found more) source).map Signature.toFunction
  · obtain ⟨longer, each⟩ := (ClassEntry.listOf_grown source more).getElem?
    refine ⟨longer, ?_⟩
    intro index entry found
    obtain ⟨grown, regrown, same | ⟨isLast, kept⟩⟩ := each index entry found
    · exact ⟨grown, regrown, by rw [same], by rw [same], fun _ => by rw [same]⟩
    · refine ⟨grown, regrown, kept.name_eq, kept.bases_eq, ?_⟩
      intro settled
      rcases settled with notLast | hasArguments
      · exact absurd isLast notLast
      · exact kept.arguments_eq hasArguments

end Growth

end Outline
