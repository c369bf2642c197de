/-
This file states which arguments a list of parameters has, and that such arguments are found again
in the list that is written from them.
-/

import Outline.Argument
import Outline.Proofs.Pieces

namespace Outline

open Text

namespace Argument

theorem stars_split (text : Text) : (stars text).1 ++ (stars text).2 = text := by
  fun_cases stars text <;> rfl

theorem eq_star_of_mem_stars {text : Text} {character : Char} (member : character ∈ (stars text).1) :
    character = '*' := by
  revert member
  fun_cases stars text <;> simp

theorem stars_mem (text : Text) : (stars text).1 ∈ [[], ['*'], ['*', '*']] := by
  fun_cases stars text <;> simp

/-- Stars in front of a text without stars are read as they stand. -/
theorem stars_of_stops {mark rest : Text} (marked : mark ∈ [[], ['*'], ['*', '*']])
    (stops : Stops (· == '*') rest) : stars (mark ++ rest) = (mark, rest) := by
  simp only [List.mem_cons, List.not_mem_nil, or_false] at marked
  cases rest with
  | nil => rcases marked with rfl | rfl | rfl <;> rfl
  | cons first rest =>
      have other : first ≠ '*' := by simpa using stops
      rcases marked with rfl | rfl | rfl
      · simp [stars, other]
      · simp [stars, other]
      · rfl

theorem stops_star_identifier {word : Text} (rest : Text) (identifier : isIdentifier word) :
    Stops (· == '*') (word ++ rest) := by
  apply stops_identifier rest identifier
  intro c part
  rw [beq_eq_false_iff_ne]
  rintro rfl
  exact absurd part (by decide)

/-- A starred name is an identifier behind two stars at most. -/
def isStarred (name : Text) : Bool := isIdentifier (stars name).2

theorem isStarred_append {mark word : Text} (marked : mark ∈ [[], ['*'], ['*', '*']])
    (identifier : isIdentifier word) : isStarred (mark ++ word) := by
  have stops := stops_star_identifier [] identifier
  rw [List.append_nil] at stops
  rw [isStarred, stars_of_stops marked stops]
  exact identifier

/-- The stars of a starred name are read the same when more text follows. -/
theorem stars_of_isStarred {name : Text} (starred : isStarred name) (more : Text) :
    stars (name ++ more) = ((stars name).1, (stars name).2 ++ more) := by
  have reads := stars_of_stops (stars_mem name) (stops_star_identifier more starred)
  rwa [← List.append_assoc, stars_split] at reads

theorem visible_of_mem_starred {name : Text} (starred : isStarred name) {character : Char}
    (member : character ∈ name) : isSpace character = false ∧ character ≠ ',' ∧ character ≠ '=' := by
  rw [← stars_split name, List.mem_append] at member
  rcases member with star | inside
  · rw [eq_star_of_mem_stars star]
    decide
  · have part := isIdentifierPart_of_mem starred inside
    refine ⟨isSpace_of_isIdentifierPart part, ?_, ?_⟩ <;>
    · intro same
      rw [same] at part
      exact absurd part (by decide)

theorem isPiece_of_isStarred {name : Text} (starred : isStarred name) : IsPiece name := by
  have visible : ∀ c ∈ name, isSpace c = false ∧ c ≠ ',' ∧ c ≠ '=' := fun c =>
    visible_of_mem_starred starred
  have nonempty : name ≠ [] := by
    rintro rfl
    exact absurd starred (by decide)
  refine ⟨nonempty, ⟨?_, ?_⟩, fun member => (visible _ member).2.1 rfl⟩
  · exact fun first isFirst => (visible first (List.mem_of_mem_head? isFirst)).1
  · exact fun last isLast => (visible last (List.mem_reverse.mp (List.mem_of_mem_head? isLast))).1

/-- The rest of a head is empty, or a colon and a text that is not blank. -/
theorem hint?_eq_some_iff {text : Text} {hint : Option Text} :
    hint? text = some hint ↔
      (text = [] ∧ hint = none) ∨
        ∃ spelled, text = ':' :: spelled ∧ trim spelled ≠ [] ∧ hint = some (trim spelled) := by
  cases text with
  | nil =>
      rw [show hint? [] = some none from rfl, Option.some.injEq, eq_comm]
      simp
  | cons first rest =>
      by_cases colon : first = ':'
      · subst colon
        by_cases blank : trim rest = []
        · simp [hint?, blank]
        · have spelled : hint? (':' :: rest) = some (some (trim rest)) := by simp [hint?, blank]
          rw [spelled, Option.some.injEq, eq_comm]
          simp [blank]
      · simp [hint?, colon]

/-- A head is stars, a name and perhaps a hint, with white space between them. -/
theorem ofHead?_eq_some_iff {head : Text} {argument : Argument} :
    ofHead? head = some argument ↔
      ∃ gap word closing rest, (∀ c ∈ gap, isSpace c) ∧ (∀ c ∈ closing, isSpace c) ∧
        isIdentifier word ∧ argument.name = (stars head).1 ++ word ∧
        (stars head).2 = gap ++ (word ++ (closing ++ rest)) ∧ hint? rest = some argument.hint := by
  constructor
  · intro found
    simp only [ofHead?, Option.bind_eq_bind, Option.bind_eq_some_iff, Prod.exists, Option.pure_def,
      identifier?_eq_some_iff, Option.some.injEq] at found
    obtain ⟨word, unread, ⟨split, identifier, _⟩, hint, spelled, rfl⟩ := found
    obtain ⟨gap, spaces, whole, _⟩ := exists_gap (stars head).2
    obtain ⟨closing, closingSpaces, closed, _⟩ := exists_gap unread
    refine ⟨gap, word, closing, _, spaces, closingSpaces, identifier, rfl, ?_, spelled⟩
    rw [← closed, ← split]
    exact whole
  · intro shape
    obtain ⟨gap, word, closing, rest, spaces, closingSpaces, identifier, named, split, spelled⟩ := shape
    have restStops : Stops isSpace rest ∧ Stops isIdentifierPart rest := by
      rcases hint?_eq_some_iff.mp spelled with ⟨rfl, _⟩ | ⟨_, rfl, _⟩
      · exact ⟨stops_nil _, stops_nil _⟩
      · exact ⟨(stops_cons _ _ _).mpr (by decide), (stops_cons _ _ _).mpr (by decide)⟩
    have stops := stops_isIdentifierPart_gap closingSpaces restStops.2
    have trimmed := trimLeft_run spaces (stops_space_identifier (closing ++ rest) identifier)
    have found := identifier?_eq_some_iff.mpr ⟨rfl, identifier, stops⟩
    simp [ofHead?, split, trimmed, found, trimLeft_run closingSpaces restStops.1, spelled, ← named]

theorem ofFragment?_of_not_mem {fragment : Text} (absent : '=' ∉ fragment) :
    ofFragment? fragment = ofHead? fragment := by
  rw [ofFragment?, dropWhile_ne_eq_nil absent]

theorem ofFragment?_of_value {head : Text} (absent : '=' ∉ head) (value : Text) :
    ofFragment? (head ++ '=' :: value) = if isDefault value then ofHead? head else none := by
  rw [ofFragment?, dropWhile_ne absent, takeWhile_ne absent]

/-- The argument of a fragment stands in its head, which fills the fragment or is followed by a value. -/
theorem ofFragment?_eq_some_iff {fragment : Text} {argument : Argument} :
    ofFragment? fragment = some argument ↔
      ∃ head, '=' ∉ head ∧ ofHead? head = some argument ∧
        (fragment = head ∨ ∃ value, isDefault value ∧ fragment = head ++ '=' :: value) := by
  constructor
  · intro found
    by_cases signed : '=' ∈ fragment
    · obtain ⟨head, value, rfl, absent⟩ := List.eq_append_cons_of_mem signed
      rw [ofFragment?_of_value absent] at found
      by_cases isValue : isDefault value
      · rw [if_pos isValue] at found
        exact ⟨head, absent, found, Or.inr ⟨value, isValue, rfl⟩⟩
      · rw [if_neg isValue] at found
        contradiction
    · rw [ofFragment?_of_not_mem signed] at found
      exact ⟨fragment, signed, found, Or.inl rfl⟩
  · intro shape
    obtain ⟨head, absent, found, rfl | ⟨value, isValue, rfl⟩⟩ := shape
    · rw [ofFragment?_of_not_mem absent, found]
    · rw [ofFragment?_of_value absent, if_pos isValue, found]

/-- A starred name spells itself. -/
theorem ofFragment?_of_isStarred {name : Text} (starred : isStarred name) :
    ofFragment? name = some ⟨name, none⟩ := by
  have absent : '=' ∉ name := fun member => (visible_of_mem_starred starred member).2.2 rfl
  rw [ofFragment?_of_not_mem absent]
  exact ofHead?_eq_some_iff.mpr ⟨[], (stars name).2, [], [], by simp, by simp, starred,
    (stars_split name).symm, by simp, rfl⟩

/-- An argument is well-formed if a fragment can spell it. -/
structure WellFormed (argument : Argument) : Prop where
  piece : IsPiece argument.name
  plain : argument.hint = none → isStarred argument.name ∨ ofFragment? argument.name = none
  hinted : ∀ hint ∈ argument.hint, isStarred argument.name ∧ IsPiece hint ∧ '=' ∉ hint

/-- An argument that a head spells is well-formed and takes its characters from the head. -/
theorem spec_of_ofHead? {head : Text} {argument : Argument} (found : ofHead? head = some argument) :
    isStarred argument.name ∧ argument.name ⊆ head ∧
      ∀ hint ∈ argument.hint, hint ≠ [] ∧ Trimmed hint ∧ hint ⊆ head := by
  obtain ⟨gap, word, closing, rest, _, _, identifier, named, split, spelled⟩ :=
    ofHead?_eq_some_iff.mp found
  have whole := stars_split head
  rw [split] at whole
  refine ⟨?_, ?_, ?_⟩
  · rw [named]
    exact isStarred_append (stars_mem head) identifier
  · intro c member
    rw [named, List.mem_append] at member
    rw [← whole]
    rcases member with star | inside
    · exact List.mem_append_left _ star
    · simp [inside]
  · intro hint isHint
    rcases hint?_eq_some_iff.mp spelled with ⟨_, none⟩ | ⟨text, rfl, nonempty, some⟩
    · simp [none] at isHint
    · rw [some, Option.mem_some_iff] at isHint
      subst isHint
      refine ⟨nonempty, trimmed_trim text, ?_⟩
      intro c member
      rw [← whole]
      simp [mem_of_mem_trim member]

/-- Every piece of a list gives a well-formed argument of its own characters. -/
theorem spec_of_isPiece {fragment : Text} (piece : IsPiece fragment) :
    (ofFragment fragment).WellFormed ∧ (ofFragment fragment).name ⊆ fragment ∧
      ∀ hint ∈ (ofFragment fragment).hint, hint ⊆ fragment := by
  cases found : ofFragment? fragment with
  | none =>
      rw [ofFragment, found, Option.getD_none]
      exact ⟨⟨piece, fun _ => Or.inr found, by simp⟩, List.Subset.refl _, by simp⟩
  | some argument =>
      rw [ofFragment, found, Option.getD_some]
      obtain ⟨head, absent, spelled, filled⟩ := ofFragment?_eq_some_iff.mp found
      have within : head ⊆ fragment := by
        rcases filled with rfl | ⟨value, _, rfl⟩
        · exact List.Subset.refl _
        · exact List.subset_append_left _ _
      obtain ⟨starred, named, hinted⟩ := spec_of_ofHead? spelled
      refine ⟨⟨isPiece_of_isStarred starred, fun _ => Or.inl starred, ?_⟩, List.Subset.trans named within, ?_⟩
      · intro hint isHint
        obtain ⟨nonempty, trimmed, inside⟩ := hinted hint isHint
        exact ⟨starred, ⟨nonempty, trimmed, fun comma => piece.noComma (within (inside comma))⟩,
          fun sign => absent (inside sign)⟩
      · intro hint isHint
        exact List.Subset.trans (hinted hint isHint).2.2 within

theorem spec_of_mem_listOf {text : Text} {argument : Argument} (member : argument ∈ listOf text) :
    argument.WellFormed ∧ argument.name ⊆ text ∧ ∀ hint ∈ argument.hint, hint ⊆ text := by
  obtain ⟨fragment, inside, rfl⟩ := List.mem_map.mp member
  obtain ⟨piece, within⟩ := isPiece_of_mem_commaPieces inside
  obtain ⟨wellFormed, named, hinted⟩ := spec_of_isPiece piece
  exact ⟨wellFormed, List.Subset.trans named within, fun hint isHint =>
    List.Subset.trans (hinted hint isHint) within⟩

/-- A well-formed argument is written as one piece. -/
theorem isPiece_render {argument : Argument} (wellFormed : argument.WellFormed) :
    IsPiece argument.render := by
  cases spelled : argument.hint with
  | none =>
      have plain : argument.render = argument.name := by simp [render, spelled]
      exact plain ▸ wellFormed.piece
  | some hint =>
      obtain ⟨_, piece, _⟩ := wellFormed.hinted hint (by simp [spelled])
      have shape : argument.render = argument.name ++ ([':', ' '] ++ hint) := by
        simp [render, spelled]
      have nameEnds := wellFormed.piece.trimmed
      have hintEnds := piece.trimmed
      refine ⟨by simp [shape], ⟨?_, ?_⟩, ?_⟩
      · rw [shape]
        exact (stops_append wellFormed.piece.nonempty).mpr nameEnds.1
      · rw [shape, ← List.append_assoc, List.reverse_append]
        exact (stops_append (by simp [piece.nonempty])).mpr hintEnds.2
      · simp [shape, wellFormed.piece.noComma, piece.noComma]

/-- The written form of a well-formed argument spells the argument. -/
theorem ofFragment_render {argument : Argument} (wellFormed : argument.WellFormed) :
    ofFragment argument.render = argument := by
  cases spelled : argument.hint with
  | none =>
      have plain : argument.render = argument.name := by simp [render, spelled]
      have whole : argument = ⟨argument.name, none⟩ := by rw [← spelled]
      rw [plain, ofFragment]
      rcases wellFormed.plain spelled with starred | unspelled
      · rw [ofFragment?_of_isStarred starred, Option.getD_some, ← whole]
      · rw [unspelled, Option.getD_none, ← whole]
  | some hint =>
      obtain ⟨starred, piece, noSign⟩ := wellFormed.hinted hint (by simp [spelled])
      have shape : argument.render = argument.name ++ (':' :: ' ' :: hint) := by
        simp [render, spelled]
      have absent : '=' ∉ argument.name := fun member => (visible_of_mem_starred starred member).2.2 rfl
      have trimmed : trim (' ' :: hint) = hint :=
        (trim_cons_of_isSpace (by decide) hint).trans (trim_of_trimmed piece.trimmed)
      have hinted : hint? (':' :: ' ' :: hint) = some argument.hint := by
        simp [hint?, trimmed, piece.nonempty, spelled]
      have found : ofHead? argument.render = some argument := by
        apply ofHead?_eq_some_iff.mpr
        rw [shape, stars_of_isStarred starred]
        exact ⟨[], (stars argument.name).2, [], _, by simp, by simp, starred,
          (stars_split argument.name).symm, by simp, hinted⟩
      rw [ofFragment, ofFragment?_of_not_mem (by simp [shape, absent, noSign]), found, Option.getD_some]

/-- A list of well-formed arguments is found again in its written form. -/
theorem listOf_renderList {arguments : List Argument}
    (wellFormed : ∀ argument ∈ arguments, argument.WellFormed) :
    listOf (renderList arguments) = arguments := by
  have pieces : ∀ piece ∈ arguments.map render, IsPiece piece := by
    intro piece member
    obtain ⟨argument, inside, rfl⟩ := List.mem_map.mp member
    exact isPiece_render (wellFormed argument inside)
  have each : ∀ argument ∈ arguments, ofFragment argument.render = argument :=
    fun argument member => ofFragment_render (wellFormed argument member)
  rw [listOf, renderList, commaPieces_intercalate pieces, List.map_map]
  exact (List.map_congr_left each).trans (List.map_id arguments)

/-- An enclosed argument is well-formed and can stand inside parentheses. -/
structure Enclosed (argument : Argument) : Prop extends WellFormed argument where
  inside : ∀ c ∈ argument.render, isInside c

/-- The arguments of a parenthesised text are enclosed. -/
theorem enclosed_of_mem_listOf {text : Text} (inside : ∀ c ∈ text, isInside c) {argument : Argument}
    (member : argument ∈ listOf text) : argument.Enclosed := by
  obtain ⟨wellFormed, named, hinted⟩ := spec_of_mem_listOf member
  refine ⟨wellFormed, ?_⟩
  cases spelled : argument.hint with
  | none =>
      have plain : argument.render = argument.name := by simp [render, spelled]
      exact fun c within => inside c (named (plain ▸ within))
  | some hint =>
      intro c within
      simp only [render, spelled, List.mem_append] at within
      rcases within with (name | between) | text
      · exact inside c (named name)
      · have signs : ∀ c ∈ [':', ' '], isInside c := List.all_eq_true.mp (by decide)
        exact signs c between
      · exact inside c (hinted hint (by simp [spelled]) text)

theorem inside_renderList {arguments : List Argument}
    (enclosed : ∀ argument ∈ arguments, argument.Enclosed) :
    ∀ c ∈ renderList arguments, isInside c := by
  apply run_intercalate (List.all_eq_true.mp (by decide))
  intro text member
  obtain ⟨argument, inside, rfl⟩ := List.mem_map.mp member
  exact (enclosed argument inside).inside

end Argument

end Outline
