/-
This file states where a header that is still open ends: no header goes on at a line that starts
another header or declares a global variable.
-/

import Outline.Proofs.Class
import Outline.Proofs.Global

namespace Outline

open Text ClassText

/-- A barrier starts with a name, and no header goes on with that name and what follows it. -/
structure Text.Barrier (text : Text) : Prop where
  named : ∀ first ∈ text.head?, isIdentifierStart first
  signatureFails : ∀ {name rest}, identifier? text = some (name, rest) →
    Signature.parameters? rest = none
  classFails : ∀ {name rest}, identifier? text = some (name, rest) →
    ClassText.remainder? name rest = none

theorem Text.Barrier.stops {text : Text} (barrier : Barrier text) {test : Char → Bool}
    (fails : ∀ c, isIdentifierPart c → test c = false) : Stops test text :=
  fun first isFirst => fails first (isIdentifierPart_of_start (barrier.named first isFirst))

theorem Text.Barrier.trimLeft_eq {text : Text} (barrier : Barrier text) : trimLeft text = text :=
  trimLeft_of_stops (barrier.stops fun _ => isSpace_of_isIdentifierPart)

/-- A signature is cut by a barrier. -/
theorem Signature.read?_cutsAt {before after : Text} (barrier : Barrier after) (nonempty : before ≠ [])
    (flush : Flush before) : Signature.read?.CutsAt before after := by
  have punctuation : Stops isPunctuation (trimLeft after) := by
    rw [barrier.trimLeft_eq]
    exact barrier.stops fun _ => isPunctuation_of_isIdentifierPart
  rw [funext Signature.read?_eq]
  apply header_cutsAt (fun name text => (parameters? text).map (Prod.map (Signature.mk name) id))
    (by decide) (by decide) nonempty flush
  · intro name rest restFlush
    exact (parameters?_cutsAt restFlush punctuation).map _
  · intro name rest found
    rw [barrier.trimLeft_eq] at found
    simp [barrier.signatureFails found]

/-- A class text is cut by a barrier. -/
theorem ClassText.read?_cutsAt {before after : Text} (barrier : Barrier after) (nonempty : before ≠ [])
    (flush : Flush before) : ClassText.read?.CutsAt before after := by
  rw [funext ClassText.read?_eq]
  apply header_cutsAt remainder? (by decide) (by decide) nonempty flush
  · intro name rest restFlush
    exact remainder?_cutsAt name restFlush (barrier.stops fun _ => isSpace_of_isIdentifierPart)
      (barrier.stops fun _ => isPunctuation_of_isIdentifierPart)
      (barrier.stops fun _ => isComment_of_isIdentifierPart)
      (barrier.stops fun _ part => startsBodyLine_of_isSpace (isSpace_of_isIdentifierPart part))
  · intro name rest found
    rw [barrier.trimLeft_eq] at found
    exact barrier.classFails found

theorem Text.barrier_of_name {name rest : Text} (identifier : isIdentifier name)
    (stops : Stops isIdentifierPart rest) (signatureFails : Signature.parameters? rest = none)
    (classFails : remainder? name rest = none) : Barrier (name ++ rest) := by
  have reads := identifier?_eq_some_iff.mpr ⟨rfl, identifier, stops⟩
  refine ⟨?_, ?_, ?_⟩
  · intro first isFirst
    cases name with
    | nil => simp [isIdentifier] at identifier
    | cons start name =>
        simp only [isIdentifier, Bool.and_eq_true] at identifier
        rw [List.cons_append, List.head?_cons, Option.mem_some_iff] at isFirst
        exact isFirst ▸ identifier.1
  · intro name' rest' read
    obtain ⟨rfl, rfl⟩ := Prod.mk.inj (Option.some.inj (reads.symm.trans read))
    exact signatureFails
  · intro name' rest' read
    obtain ⟨rfl, rfl⟩ := Prod.mk.inj (Option.some.inj (reads.symm.trans read))
    exact classFails

/-- No header goes on with a keyword, since a name and nothing else follows the keyword. -/
theorem Text.barrier_of_heading? {keyword text : Text} (word : isIdentifier keyword)
    (found : (heading? keyword text).isSome) : Barrier text := by
  obtain ⟨⟨name, rest⟩, named⟩ := Option.isSome_iff_exists.mp found
  obtain ⟨⟨gap, nonempty, spaces, rfl⟩, identifier, _⟩ := heading?_eq_some_iff.mp named
  have stops : Stops isPunctuation (trimLeft (gap ++ (name ++ rest))) := by
    rw [trimLeft_run spaces (stops_space_identifier rest identifier)]
    exact stops_identifier rest identifier fun _ => isPunctuation_of_isIdentifierPart
  have ended : Stops isIdentifierPart (gap ++ (name ++ rest)) := by
    cases gap with
    | nil => exact absurd rfl nonempty
    | cons first gap => exact (stops_cons _ _ _).mpr (isIdentifierPart_of_isSpace (spaces first (by simp)))
  apply barrier_of_name word ended
  · exact Signature.parameters?_of_closed (stops_of_stops_isPunctuation stops).1
  · rw [remainder?, opening?_eq_none stops, Option.bind_none]

/-- A hint on the line of the colon keeps the header of a class from ending there. -/
theorem GlobalEntry.headerEnd?_hint {spelled : Text} (isHint : isHint (trimBlanks spelled)) (more : Text) :
    headerEnd? (spelled ++ more) = none := by
  obtain ⟨left, right, leftBlanks, _, split⟩ := exists_trimBlanks spelled
  obtain ⟨nonempty, _, start, _⟩ := isHint_spec isHint
  have spaces : ∀ c ∈ left, isSpace c := fun c member => isSpace_of_isBlank (leftBlanks c member)
  have single : '\n' ∉ left := fun member => absurd (leftBlanks _ member) (by decide)
  have stops : Stops isSpace (trimBlanks spelled ++ (right ++ more)) :=
    (stops_append nonempty).mpr fun c isFirst => isSpace_of_isHintStart (start c isFirst)
  have noComment : Stops isComment (trimBlanks spelled ++ (right ++ more)) :=
    (stops_append nonempty).mpr fun c isFirst => isComment_of_isHintStart (start c isFirst)
  have whole : spelled ++ more = left ++ (trimBlanks spelled ++ (right ++ more)) := by
    nth_rewrite 1 [split]
    simp
  rw [whole, headerEnd?_gap spaces stops noComment]
  simp [afterGap?, single]

/-- No header goes on with the line of a global variable: behind the name there is an equals sign, or
a colon with a hint. -/
theorem GlobalEntry.barrier_of_ofLine? {line : Text} {entry : GlobalEntry}
    (found : ofLine? line = some entry) (more : Text) : Barrier (line ++ more) := by
  obtain ⟨blanks, rest, value, ⟨identifier, areBlanks⟩, rfl, assigned, _⟩ :=
    ofLine?_eq_some_iff.mp found
  have spaces : ∀ c ∈ blanks, isSpace c := fun c member => isSpace_of_isBlank (areBlanks c member)
  have ended := (stops_of_assigned? assigned areBlanks).2
  rw [List.append_assoc]
  rcases assigned?_eq_some_iff.mp assigned with ⟨_, rfl⟩ | ⟨spelled, _, isHint, _, rfl⟩
  · have trimmed : trimLeft (blanks ++ '=' :: value ++ more) = '=' :: value ++ more := by
      rw [List.append_assoc]
      exact trimLeft_run spaces ((stops_cons _ _ _).mpr (by decide))
    have stops : Stops isPunctuation (trimLeft (blanks ++ '=' :: value ++ more)) := by
      rw [trimmed]
      exact (stops_cons _ _ _).mpr (by decide)
    apply barrier_of_name identifier ((stops_append (by simp)).mpr ended)
    · exact Signature.parameters?_of_closed (stops_of_stops_isPunctuation stops).1
    · rw [remainder?, opening?_eq_none stops, Option.bind_none]
  · have trimmed : trimLeft (blanks ++ ':' :: (spelled ++ '=' :: value) ++ more) =
        ':' :: (spelled ++ ('=' :: value ++ more)) := by
      rw [List.append_assoc, List.cons_append, List.append_assoc]
      exact trimLeft_run spaces ((stops_cons _ _ _).mpr (by decide))
    apply barrier_of_name identifier ((stops_append (by simp)).mpr ended)
    · apply Signature.parameters?_of_closed
      rw [trimmed]
      exact (stops_cons _ _ _).mpr (by decide)
    · rw [remainder?, opening?_eq_some_iff.mpr (Or.inr ⟨rfl, trimmed⟩), Option.bind_some, body?,
        headerEnd?_hint isHint]
      rfl

theorem Signature.heading?_of_read? {text : Text} (found : (Signature.read? text).isSome) :
    (heading? Signature.keyword text).isSome := by
  obtain ⟨⟨signature, rest⟩, read⟩ := Option.isSome_iff_exists.mp found
  obtain ⟨unread, named, _⟩ := Signature.read?_eq_some_iff.mp read
  exact Option.isSome_of_eq_some named

theorem ClassText.heading?_of_read? {text : Text} (found : (ClassText.read? text).isSome) :
    (heading? ClassText.keyword text).isSome := by
  obtain ⟨⟨classText, rest⟩, read⟩ := Option.isSome_iff_exists.mp found
  obtain ⟨unread, _, named, _⟩ := ClassText.read?_eq_some_iff.mp read
  exact Option.isSome_of_eq_some named

theorem Signature.barrier_of_read? {text : Text} (found : (Signature.read? text).isSome) : Barrier text :=
  barrier_of_heading? (by decide) (Signature.heading?_of_read? found)

theorem ClassText.barrier_of_read? {text : Text} (found : (ClassText.read? text).isSome) : Barrier text :=
  barrier_of_heading? (by decide) (ClassText.heading?_of_read? found)

theorem GlobalEntry.barrier_of_declaration? {text : Text} (found : (declaration? text).isSome) :
    Barrier text := by
  obtain ⟨⟨entry, rest⟩, read⟩ := Option.isSome_iff_exists.mp found
  obtain ⟨declared, _⟩ := Reader.ofLine_eq_some_iff.mp read
  rw [← firstLine_append_behindLine text]
  exact barrier_of_ofLine? (declared?_eq_some_iff.mp declared).2 _

theorem Signature.read?_lawful : Signature.read?.Lawful where
  progress := Signature.read?_progress
  yields := fun nonempty flush succeeds =>
    Signature.read?_cutsAt (Signature.barrier_of_read? succeeds) nonempty flush

theorem ClassText.read?_lawful : ClassText.read?.Lawful where
  progress := ClassText.read?_progress
  yields := fun nonempty flush succeeds =>
    ClassText.read?_cutsAt (ClassText.barrier_of_read? succeeds) nonempty flush

/-- No text starts with both keywords. -/
theorem Text.heading?_exclusive {text : Text} (signature : (heading? Signature.keyword text).isSome)
    (classText : (heading? ClassText.keyword text).isSome) : False := by
  obtain ⟨⟨_, _⟩, named⟩ := Option.isSome_iff_exists.mp signature
  obtain ⟨⟨_, _⟩, named'⟩ := Option.isSome_iff_exists.mp classText
  obtain ⟨⟨gap, _, _, rfl⟩, _⟩ := heading?_eq_some_iff.mp named
  obtain ⟨⟨_, _, _, same⟩, _⟩ := heading?_eq_some_iff.mp named'
  simp [Signature.keyword, ClassText.keyword] at same

theorem ClassText.read?_of_signature {text : Text} (found : (Signature.read? text).isSome) :
    ClassText.read? text = none := by
  by_contra succeeds
  exact heading?_exclusive (Signature.heading?_of_read? found)
    (ClassText.heading?_of_read? (Option.isSome_iff_ne_none.mpr succeeds))

/-- A line that starts with a keyword declares no global variable. -/
theorem GlobalEntry.declaration?_of_heading? {keyword text : Text}
    (isKeyword : keyword = Signature.keyword ∨ keyword = ClassText.keyword)
    (found : (heading? keyword text).isSome) : declaration? text = none := by
  obtain ⟨⟨name, rest⟩, named⟩ := Option.isSome_iff_exists.mp found
  obtain ⟨⟨gap, _, _, rfl⟩, _⟩ := heading?_eq_some_iff.mp named
  have top : isTopLevel (firstLine (keyword ++ (gap ++ (name ++ rest)))) = false := by
    rcases isKeyword with rfl | rfl
    · rw [firstLine, List.takeWhile_append_of_pos (List.all_eq_true.mp (by decide))]
      simp [isTopLevel, Signature.keyword]
    · rw [firstLine, List.takeWhile_append_of_pos (List.all_eq_true.mp (by decide))]
      simp [isTopLevel, ClassText.keyword]
  simp [declaration?, Reader.ofLine, declared?, top]

/-- A line that declares a global variable starts with no keyword. -/
theorem GlobalEntry.heading?_of_declaration? {keyword text : Text}
    (isKeyword : keyword = Signature.keyword ∨ keyword = ClassText.keyword)
    (declares : (declaration? text).isSome) : heading? keyword text = none := by
  by_contra succeeds
  rw [declaration?_of_heading? isKeyword (Option.isSome_iff_ne_none.mpr succeeds)] at declares
  contradiction

end Outline
