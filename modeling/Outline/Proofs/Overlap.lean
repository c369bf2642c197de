/-
This file states that no text is claimed twice: the spans of functions, of classes and of the lines
that declare global variables are apart from each other.
-/

import Outline.Proofs.Barrier

namespace Outline

open Text GlobalEntry

/-- A line that declares a global variable is a hit among the lines of the source. -/
theorem GlobalEntry.mem_hits_declaration? {before line after : Text} {entry : GlobalEntry}
    (flush : Flush before) (single : '\n' ∉ line) (ends : Stops (· != '\n') after)
    (declares : declared? line = some entry) :
    ⟨before.length, before.length + line.length, entry⟩ ∈
      declaration?.hits (before ++ (line ++ after)) :=
  Reader.mem_hits declaration?_lawful flush (Reader.ofLine_line single ends declares)

/-- A reader that barriers cut finds nothing that meets the line of a global variable. -/
theorem GlobalEntry.declaration?_apart {α : Type} {read : Reader α} {source : Text}
    (lawful : read.Lawful)
    (cuts : ∀ {before after : Text}, Barrier after → before ≠ [] → Flush before → read.CutsAt before after)
    (never : ∀ tail, (read tail).isSome → declaration? tail = none) {line : Hit GlobalEntry}
    (lineHit : line ∈ declaration?.hits source) {hit : Hit α} (member : hit ∈ read.hits source) :
    line.Apart hit := by
  have apart : hit.Apart line := Reader.hits_apart lawful declaration?_lawful
    (fun nonempty flush found => cuts (barrier_of_declaration? found) nonempty flush)
    (fun nonempty flush _ => Reader.ofLine_cutsAt _ nonempty flush) never member lineHit
  exact apart.symm

/-- The spans of functions and of classes are apart, within each kind and across the kinds, and the
lines that declare the global variables are apart from all of them. -/
theorem spans_apart (source : Text) :
    (Signature.read?.hits source).Pairwise Hit.Apart ∧
      (ClassText.read?.hits source).Pairwise Hit.Apart ∧
      (∀ function ∈ Signature.read?.hits source, ∀ classText ∈ ClassText.read?.hits source,
        function.Apart classText) ∧
      listOf source = (source.splitOn '\n').filterMap declared? ∧
      ∀ before line after entry, source = before ++ (line ++ after) → Flush before →
        '\n' ∉ line → Stops (· != '\n') after → declared? line = some entry →
        (∀ function ∈ Signature.read?.hits source,
          (Hit.mk before.length (before.length + line.length) entry).Apart function) ∧
        ∀ classText ∈ ClassText.read?.hits source,
          (Hit.mk before.length (before.length + line.length) entry).Apart classText := by
  refine ⟨?_, ?_, ?_, ?_, ?_⟩
  · exact (Reader.hits_pairwise Signature.read?_lawful source).imp Or.inl
  · exact (Reader.hits_pairwise ClassText.read?_lawful source).imp Or.inl
  · intro function functionHit classText classHit
    exact Reader.hits_apart Signature.read?_lawful ClassText.read?_lawful
      (fun nonempty flush found =>
        Signature.read?_cutsAt (ClassText.barrier_of_read? found) nonempty flush)
      (fun nonempty flush found =>
        ClassText.read?_cutsAt (Signature.barrier_of_read? found) nonempty flush)
      (fun _ => ClassText.read?_of_signature) functionHit classHit
  · rw [listOf_eq, declaration?, Reader.values_ofLine rfl]
  · intro before line after entry split flush single ends declares
    have lineHit := mem_hits_declaration? flush single ends declares
    rw [← split] at lineHit
    constructor
    · intro function functionHit
      exact declaration?_apart Signature.read?_lawful Signature.read?_cutsAt
        (fun _ found => declaration?_of_heading? (Or.inl rfl) (Signature.heading?_of_read? found))
        lineHit functionHit
    · intro classText classHit
      exact declaration?_apart ClassText.read?_lawful ClassText.read?_cutsAt
        (fun _ found => declaration?_of_heading? (Or.inr rfl) (ClassText.heading?_of_read? found))
        lineHit classHit

/-- A class whose header runs over two lines, a variable and a function are apart. -/
theorem spans_apart_three_kinds :
    let source := "class C(A)\n:\n y\nx=1\ndef f():\n".toList
    let classText : Hit ClassText := ⟨0, 16, "C".toList, some "A".toList, " y\n".toList⟩
    let line : Hit GlobalEntry := ⟨16, 19, "x".toList, none, "1".toList⟩
    let function : Hit Signature := ⟨20, 28, "f".toList, []⟩
    (function ∈ Signature.read?.hits source ∧ classText ∈ ClassText.read?.hits source ∧
        listOf source = [line.value]) ∧
      function.Apart classText ∧ line.Apart function ∧ line.Apart classText := by
  intro source classText line function
  have functionHit : function ∈ Signature.read?.hits source := by decide
  have classHit : classText ∈ ClassText.read?.hits source := by decide
  obtain ⟨_, _, across, _, lines⟩ := spans_apart source
  obtain ⟨fromFunction, fromClass⟩ := lines "class C(A)\n:\n y\n".toList "x=1".toList
    "\ndef f():\n".toList line.value (by decide) (by decide) (by decide) (by decide) (by decide)
  exact ⟨⟨functionHit, classHit, by decide⟩, across function functionHit classText classHit,
    fromFunction function functionHit, fromClass classText classHit⟩

end Outline
