/-
This file states the grammar of functions on its own, without the readers, and that the functions found in
a source are those of the grammar: one entry for each place where the text spells a signature.
-/

import Outline.Proofs.Barrier
import Outline.Proofs.Place

namespace Outline

open Text

namespace Signature

/-- A signature is the keyword, a name, parameters in parentheses and a colon. White space, line feeds
included, may stand between them and has to stand behind the keyword. The parentheses are closed on the
line that opens them. -/
inductive Spelled : Grammar Signature where
  | intro {gap name space parameters closing rest : Text} (spaced : gap ≠ [] ∧ ∀ c ∈ gap, isSpace c)
      (identifier : isIdentifier name) (spaces : ∀ c ∈ space, isSpace c) (unclosed : ')' ∉ parameters)
      (single : '\n' ∉ parameters) (closingSpaces : ∀ c ∈ closing, isSpace c) :
      Spelled (keyword ++ (gap ++ (name ++ (space ++ '(' :: (parameters ++ ')' :: (closing ++ ':' :: rest))))))
        ⟨name, parameters⟩

theorem read?_accepts : read?.Accepts Spelled := by
  intro tail signature
  rw [Reader.answer_eq_some_iff]
  constructor
  · intro shape
    obtain ⟨rest, read⟩ := shape
    obtain ⟨unread, heading, found⟩ := read?_eq_some_iff.mp read
    obtain ⟨⟨gap, nonempty, gapSpaces, rfl⟩, identifier, _⟩ := heading?_eq_some_iff.mp heading
    obtain ⟨inside, space, closing, spaces, closingSpaces, rfl⟩ := parameters?_eq_some_iff.mp found
    obtain ⟨unclosed, single⟩ := inside_iff.mp inside
    exact .intro ⟨nonempty, gapSpaces⟩ identifier spaces unclosed single closingSpaces
  · intro spelled
    cases spelled with
    | @intro gap name space parameters closing rest spaced identifier spaces unclosed single closingSpaces =>
        have opens : Stops isIdentifierPart ('(' :: (parameters ++ ')' :: (closing ++ ':' :: rest))) :=
          (stops_cons _ _ _).mpr (by decide)
        refine ⟨rest, read?_eq_some_iff.mpr
          ⟨space ++ '(' :: (parameters ++ ')' :: (closing ++ ':' :: rest)), ?_, ?_⟩⟩
        · apply heading?_eq_some_iff.mpr
          exact ⟨⟨gap, spaced.1, spaced.2, rfl⟩, identifier, stops_isIdentifierPart_gap spaces opens⟩
        · apply parameters?_eq_some_iff.mpr
          exact ⟨inside_iff.mpr ⟨unclosed, single⟩, space, closing, spaces, closingSpaces, rfl⟩

end Signature

namespace FunctionEntry

/-- The functions found in a source are the functions of the grammar. The search goes on behind what it
has read, and yet it stops at each line start where the text spells a signature, from left to right and
once at each; no text spells two signatures; and the entry keeps the name and reads the parameters. -/
theorem listOf_spelled (source : Text) :
    Grammar.Lists Signature.Spelled source (Signature.read?.places source) ∧
      Grammar.Definite Signature.Spelled ∧
      listOf source = (Signature.read?.places source).map fun place =>
        ⟨place.2.name, Argument.listOf place.2.parameters⟩ := by
  refine ⟨?_, ?_, ?_⟩
  · exact Reader.lists_places Signature.read?_lawful Signature.read?_accepts source
  · exact Signature.read?_accepts.definite
  · rw [listOf, ← Reader.map_snd_places, List.map_map]
    rfl

/-- The keyword may be a name, but not when a name follows it: then it starts a signature of its own. -/
example : listOf "def\ndef (a):".toList = [⟨"def".toList, [⟨['a'], none⟩]⟩] ∧
    listOf "def\ndef f(a):".toList = [⟨['f'], [⟨['a'], none⟩]⟩] := by decide

end FunctionEntry

end Outline
