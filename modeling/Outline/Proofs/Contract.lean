/-
This file states what a caller may rely on in every scan: which texts can stand in the fields of the
functions, the classes and the global variables that are found.
-/

import Outline.Summary
import Outline.Proofs.Written

namespace Outline

open Text

/-- A member of a list in a header is not empty, is trimmed, and stays on its side of a comma, of the
closing parenthesis and of the line feed. -/
structure Text.IsMember (text : Text) : Prop extends IsPiece text where
  unclosed : ')' ∉ text
  single : '\n' ∉ text

theorem Text.isMember_of_isPiece {text : Text} (piece : IsPiece text) (inside : ∀ c ∈ text, isInside c) :
    IsMember text where
  toIsPiece := piece
  unclosed := fun member => absurd (inside _ member) (by decide)
  single := fun member => absurd (inside _ member) (by decide)

namespace Argument

/-- A name is starred if an identifier follows no star, one star or two. -/
def StarredName (name : Text) : Prop :=
  ∃ stars word, stars ∈ [[], ['*'], ['*', '*']] ∧ isIdentifier word ∧ name = stars ++ word

theorem isStarred_iff {name : Text} : isStarred name ↔ StarredName name := by
  constructor
  · intro starred
    exact ⟨(stars name).1, (stars name).2, stars_mem name, starred, (stars_split name).symm⟩
  · intro shape
    obtain ⟨mark, word, marked, identifier, rfl⟩ := shape
    exact isStarred_append marked identifier

/-- Only a starred name has a hint, which holds no equals sign. -/
structure Sound (argument : Argument) : Prop where
  name : IsMember argument.name
  hint : ∀ hint ∈ argument.hint, StarredName argument.name ∧ IsMember hint ∧ '=' ∉ hint

theorem sound_of_enclosed {argument : Argument} (enclosed : argument.Enclosed) : argument.Sound where
  name := isMember_of_isPiece enclosed.piece fun c member =>
    enclosed.inside c (by cases spelled : argument.hint <;> simp [render, spelled, member])
  hint := by
    intro hint isHint
    obtain ⟨starred, piece, noSign⟩ := enclosed.hinted hint isHint
    refine ⟨isStarred_iff.mp starred, isMember_of_isPiece piece fun c member => ?_, noSign⟩
    exact enclosed.inside c (by simp [render, Option.mem_def.mp isHint, member])

end Argument

structure FunctionEntry.Sound (function : FunctionEntry) : Prop where
  name : isIdentifier function.name
  arguments : ∀ argument ∈ function.arguments, argument.Sound

theorem FunctionEntry.sound_of_wellFormed {function : FunctionEntry} (wellFormed : function.WellFormed) :
    function.Sound where
  name := wellFormed.identifier
  arguments := fun argument member => Argument.sound_of_enclosed (wellFormed.enclosed argument member)

structure ClassEntry.Sound (entry : ClassEntry) : Prop where
  name : isIdentifier entry.name
  bases : ∀ base ∈ entry.bases, IsMember base
  constructorArguments : ∀ argument ∈ entry.constructorArguments, argument.Sound

theorem ClassEntry.sound_of_wellFormed {entry : ClassEntry} (wellFormed : entry.WellFormed) :
    entry.Sound where
  name := wellFormed.identifier
  bases := by
    intro base member
    obtain ⟨piece, inside⟩ := wellFormed.bases base member
    exact isMember_of_isPiece piece inside
  constructorArguments := fun argument member =>
    Argument.sound_of_enclosed (wellFormed.enclosed argument member)

namespace GlobalEntry

/-- The name starts with no keyword, the hint has letters, digits and a few signs, and the value
stands on one line. -/
structure Sound (entry : GlobalEntry) : Prop where
  name : isIdentifier entry.name ∧ ¬"def".toList <+: entry.name ∧ ¬"class".toList <+: entry.name
  hint : ∀ hint ∈ entry.hint, hint ≠ [] ∧ Trimmed hint ∧
    ∀ c ∈ hint, c.isAlphanum ∨ c ∈ ['_', '[', ']', ',', ' ', '.']
  value : Trimmed entry.value ∧ '\n' ∉ entry.value

theorem isHintPart_cases {character : Char} (part : isHintPart character) :
    character.isAlphanum ∨ character ∈ ['_', '[', ']', ',', ' ', '.'] := by
  simp only [isHintPart, isHintStart, isIdentifierPart, Bool.or_eq_true, beq_iff_eq] at part
  simp only [List.mem_cons, List.not_mem_nil, or_false]
  tauto

theorem sound_of_wellFormed {entry : GlobalEntry} (wellFormed : entry.WellFormed) : entry.Sound where
  name := ⟨wellFormed.identifier, wellFormed.noKeyword⟩
  hint := by
    intro hint isHint
    obtain ⟨nonempty, parts, first, last⟩ := isHint_spec (wellFormed.isHint hint isHint)
    have trimmed : Trimmed hint :=
      ⟨fun c isFirst => isSpace_of_isHintStart (first c isFirst),
        fun c isLast => isSpace_of_isHintStart (last c isLast)⟩
    exact ⟨nonempty, trimmed, fun c member => isHintPart_cases (parts c member)⟩
  value := ⟨wellFormed.trimmed, wellFormed.single⟩

end GlobalEntry

structure Summary.Sound (summary : Summary) : Prop where
  functions : ∀ function ∈ summary.functions, function.Sound
  classes : ∀ entry ∈ summary.classes, entry.Sound
  globals : ∀ entry ∈ summary.globals, entry.Sound

/-- Whatever the source text is, the entries that a scan finds in it are sound. -/
theorem Summary.scan_sound (source path : Text) : (scan source path).Sound where
  functions := fun _ member =>
    FunctionEntry.sound_of_wellFormed (FunctionEntry.wellFormed_of_mem_listOf member)
  classes := fun _ member => ClassEntry.sound_of_wellFormed (ClassEntry.wellFormed_of_mem_listOf member)
  globals := fun _ member =>
    GlobalEntry.sound_of_wellFormed (GlobalEntry.wellFormed_of_mem_listOf member)

end Outline
