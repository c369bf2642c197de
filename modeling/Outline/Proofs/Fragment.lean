/-
This file states the grammar of the fragments between commas, without the readers, and that each fragment
gives the argument that it spells or else itself as a name. It also says which arguments are found again
in the text that is written from them.
-/

import Outline.Proofs.Contract
import Mathlib.Data.List.Forall2

namespace Outline

open Text

namespace Argument

/-- A hint may be left out. It stands behind a colon, with white space on its sides, and is neither empty
nor starts or ends with white space. -/
inductive HintSpelled : Option Text → Text → Prop where
  | absent : HintSpelled none []
  | given {left hint right : Text} (leftSpaces : ∀ c ∈ left, isSpace c) (nonempty : hint ≠ [])
      (noSign : '=' ∉ hint) (stops : Stops isSpace hint) (stopsReverse : Stops isSpace hint.reverse)
      (rightSpaces : ∀ c ∈ right, isSpace c) :
      HintSpelled (some hint) (':' :: (left ++ (hint ++ right)))

theorem hint?_iff_spelled {text : Text} {hint : Option Text} (noSign : '=' ∉ text) :
    hint? text = some hint ↔ HintSpelled hint text := by
  rw [hint?_eq_some_iff]
  constructor
  · intro shape
    rcases shape with ⟨rfl, rfl⟩ | ⟨spelled, rfl, nonempty, rfl⟩
    · exact .absent
    · obtain ⟨left, right, leftSpaces, rightSpaces, split⟩ := exists_trim spelled
      have lacks : '=' ∉ trim spelled := fun member =>
        noSign (List.mem_cons_of_mem _ (mem_of_mem_trim member))
      obtain ⟨stops, stopsReverse⟩ := trimmed_trim spelled
      have given := HintSpelled.given leftSpaces nonempty lacks stops stopsReverse rightSpaces
      rwa [← split] at given
  · intro spelled
    cases spelled with
    | absent => exact Or.inl ⟨rfl, rfl⟩
    | given leftSpaces nonempty _ stops stopsReverse rightSpaces =>
        have trimmed := trim_run leftSpaces rightSpaces nonempty stops stopsReverse
        exact Or.inr ⟨_, rfl, by rw [trimmed]; exact nonempty, by rw [trimmed]⟩

/-- A head is up to two stars, a name and a hint that may be left out, with white space between them. The
argument keeps the stars on the name. -/
inductive HeadSpelled : Text → Argument → Prop where
  | intro {mark gap word closing spelled : Text} {hint : Option Text}
      (marked : mark ∈ [[], ['*'], ['*', '*']]) (spaces : ∀ c ∈ gap, isSpace c)
      (identifier : isIdentifier word) (closingSpaces : ∀ c ∈ closing, isSpace c)
      (hinted : HintSpelled hint spelled) :
      HeadSpelled (mark ++ (gap ++ (word ++ (closing ++ spelled)))) ⟨mark ++ word, hint⟩

theorem stops_star_gap {gap word rest : Text} (spaces : ∀ c ∈ gap, isSpace c)
    (identifier : isIdentifier word) : Stops (· == '*') (gap ++ (word ++ rest)) := by
  cases gap with
  | nil => exact stops_star_identifier rest identifier
  | cons first gap =>
      rw [List.cons_append, stops_cons, beq_eq_false_iff_ne]
      intro star
      exact absurd (star ▸ spaces first List.mem_cons_self) (by decide)

theorem ofHead?_iff_spelled {head : Text} {argument : Argument} (noSign : '=' ∉ head) :
    ofHead? head = some argument ↔ HeadSpelled head argument := by
  constructor
  · intro found
    obtain ⟨gap, word, closing, rest, spaces, closingSpaces, identifier, named, split, hinted⟩ :=
      ofHead?_eq_some_iff.mp found
    have whole : (stars head).1 ++ (gap ++ (word ++ (closing ++ rest))) = head := by
      rw [← split, stars_split]
    have lacks : '=' ∉ rest := by
      intro member
      rw [← whole] at noSign
      exact noSign (by simp [member])
    have spelled := HeadSpelled.intro (stars_mem head) spaces identifier closingSpaces
      ((hint?_iff_spelled lacks).mp hinted)
    rwa [whole, ← named] at spelled
  · intro spelled
    cases spelled with
    | @intro mark gap word closing spelled hint marked spaces identifier closingSpaces hinted =>
        have marks : stars (mark ++ (gap ++ (word ++ (closing ++ spelled)))) =
            (mark, gap ++ (word ++ (closing ++ spelled))) :=
          stars_of_stops marked (stops_star_gap spaces identifier)
        have lacks : '=' ∉ spelled := fun member => noSign (by simp [member])
        apply ofHead?_eq_some_iff.mpr
        rw [marks]
        exact ⟨gap, word, closing, spelled, spaces, closingSpaces, identifier, rfl, rfl,
          (hint?_iff_spelled lacks).mpr hinted⟩

/-- A fragment is a head, or a head and a default value behind the first equals sign. The value is not
empty, and no line ends in it once the white space in front is passed. -/
inductive Spelled : Text → Argument → Prop where
  | bare {head : Text} {argument : Argument} (noSign : '=' ∉ head) (spelled : HeadSpelled head argument) :
      Spelled head argument
  | valued {head value : Text} {argument : Argument} (noSign : '=' ∉ head)
      (spelled : HeadSpelled head argument) (nonempty : value ≠ []) (single : '\n' ∉ trimLeft value) :
      Spelled (head ++ '=' :: value) argument

theorem isDefault_iff {value : Text} : isDefault value ↔ value ≠ [] ∧ '\n' ∉ trimLeft value := by
  simp [isDefault]

theorem ofFragment?_iff_spelled {fragment : Text} {argument : Argument} :
    ofFragment? fragment = some argument ↔ Spelled fragment argument := by
  rw [ofFragment?_eq_some_iff]
  constructor
  · intro shape
    obtain ⟨head, noSign, found, rfl | ⟨value, isValue, rfl⟩⟩ := shape
    · exact .bare noSign ((ofHead?_iff_spelled noSign).mp found)
    · obtain ⟨nonempty, single⟩ := isDefault_iff.mp isValue
      exact .valued noSign ((ofHead?_iff_spelled noSign).mp found) nonempty single
  · intro spelled
    cases spelled with
    | bare noSign spelled => exact ⟨_, noSign, (ofHead?_iff_spelled noSign).mpr spelled, Or.inl rfl⟩
    | @valued head value _ noSign spelled nonempty single =>
        exact ⟨head, noSign, (ofHead?_iff_spelled noSign).mpr spelled,
          Or.inr ⟨value, isDefault_iff.mpr ⟨nonempty, single⟩, rfl⟩⟩

theorem ofFragment?_eq_none_iff {fragment : Text} :
    ofFragment? fragment = none ↔ ∀ argument, ¬Spelled fragment argument := by
  rw [Option.eq_none_iff_forall_ne_some]
  exact forall_congr' fun argument => not_congr ofFragment?_iff_spelled

/-- A fragment gives the argument that it spells, or, if it spells none, itself as a name. -/
inductive Gives (fragment : Text) : Argument → Prop where
  | spelled {argument : Argument} (spelled : Spelled fragment argument) : Gives fragment argument
  | kept (unspelled : ∀ argument, ¬Spelled fragment argument) : Gives fragment ⟨fragment, none⟩

theorem ofFragment_eq_iff {fragment : Text} {argument : Argument} :
    ofFragment fragment = argument ↔ Gives fragment argument := by
  constructor
  · intro same
    rw [← same, ofFragment]
    cases found : ofFragment? fragment with
    | none => exact .kept (ofFragment?_eq_none_iff.mp found)
    | some argument => exact .spelled (ofFragment?_iff_spelled.mp found)
  · intro gives
    cases gives with
    | spelled spelled => rw [ofFragment, ofFragment?_iff_spelled.mpr spelled, Option.getD_some]
    | kept unspelled => rw [ofFragment, ofFragment?_eq_none_iff.mpr unspelled, Option.getD_none]

/-- The arguments of a list are what the trimmed pieces between its commas give, each for itself and in
their order, where a piece that is blank is passed over. So a comma divides a list in two. -/
theorem listOf_gives (text : Text) :
    (∀ arguments, listOf text = arguments ↔ List.Forall₂ Gives (pieces text) arguments) ∧
      ∀ more, listOf (text ++ ',' :: more) = listOf text ++ listOf more := by
  constructor
  · intro arguments
    rw [listOf, commaPieces_eq, ← List.forall₂_eq_eq_eq, List.forall₂_map_left_iff]
    simp only [ofFragment_eq_iff]
  · intro more
    rw [listOf, commaPieces_append, List.map_append]
    rfl

/-- Nothing behind the equals sign is no default value, so such a fragment is kept as it is. -/
example : listOf "a, *b: int = 1, , c=".toList =
    [⟨"a".toList, none⟩, ⟨"*b".toList, some "int".toList⟩, ⟨"c=".toList, none⟩] := by decide

/-- An argument is regular if its name is a piece of its own. Without a hint, the name is starred or
spells no argument; with a hint, it is starred, and the hint is a piece without an equals sign. -/
inductive Regular : Argument → Prop where
  | plain {name : Text} (piece : IsPiece name)
      (kept : StarredName name ∨ ∀ argument, ¬Spelled name argument) : Regular ⟨name, none⟩
  | hinted {name hint : Text} (piece : IsPiece name) (starred : StarredName name) (hintPiece : IsPiece hint)
      (noSign : '=' ∉ hint) : Regular ⟨name, some hint⟩

theorem wellFormed_iff_regular {argument : Argument} : argument.WellFormed ↔ argument.Regular := by
  constructor
  · intro wellFormed
    obtain ⟨name, hint⟩ := argument
    cases hint with
    | none =>
        have kept := wellFormed.plain rfl
        rw [isStarred_iff, ofFragment?_eq_none_iff] at kept
        exact .plain wellFormed.piece kept
    | some hint =>
        obtain ⟨starred, hintPiece, noSign⟩ := wellFormed.hinted hint rfl
        exact .hinted wellFormed.piece (isStarred_iff.mp starred) hintPiece noSign
  · intro regular
    cases regular with
    | plain piece kept =>
        rw [← isStarred_iff, ← ofFragment?_eq_none_iff] at kept
        refine ⟨piece, fun _ => kept, ?_⟩
        intro hint isHint
        contradiction
    | hinted piece starred hintPiece noSign =>
        refine ⟨piece, ?_, ?_⟩
        · intro unhinted
          contradiction
        · intro hint isHint
          rw [← Option.some.inj isHint]
          exact ⟨isStarred_iff.mpr starred, hintPiece, noSign⟩

/-- A list of arguments is found again in its written form exactly if its members are regular; and every
list of arguments that is found has regular members only. -/
theorem listOf_renderList_iff :
    (∀ arguments, listOf (renderList arguments) = arguments ↔
        ∀ argument ∈ arguments, argument.Regular) ∧
      ∀ text, ∀ argument ∈ listOf text, argument.Regular := by
  have found : ∀ text, ∀ argument ∈ listOf text, argument.Regular := fun text argument member =>
    wellFormed_iff_regular.mp (spec_of_mem_listOf member).1
  refine ⟨?_, found⟩
  intro arguments
  constructor
  · -- A member of the list is a member of what is found, so it is regular whatever was written.
    intro same argument member
    rw [← same] at member
    exact found _ argument member
  · intro regular
    exact listOf_renderList fun argument member => wellFormed_iff_regular.mpr (regular argument member)

/-- A hint with an equals sign is not regular: it is cut there when it is read again. -/
example : listOf (renderList [⟨"x".toList, some "a=b".toList⟩]) = [⟨"x".toList, some "a".toList⟩] := by decide

end Argument

end Outline
