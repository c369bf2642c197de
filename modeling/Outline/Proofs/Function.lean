/-
This file states which texts are signatures, and where the reading of a signature is cut short.
-/

import Outline.Function
import Outline.Proofs.Search

namespace Outline

open Text

namespace Text

/-- The characters that go on with a header behind a name: they open a list or end the header. -/
def isPunctuation (character : Char) : Bool := character == '(' || character == ':'

theorem isPunctuation_of_isIdentifierPart {character : Char} (part : isIdentifierPart character) :
    isPunctuation character = false := by
  by_contra punctuation
  simp only [isPunctuation, Bool.not_eq_false, Bool.or_eq_true, beq_iff_eq] at punctuation
  rcases punctuation with rfl | rfl <;> exact absurd part (by decide)

theorem stops_of_stops_isPunctuation {text : Text} (stops : Stops isPunctuation text) :
    Stops (· == '(') text ∧ Stops (· == ':') text := by
  cases text with
  | nil => exact ⟨stops_nil _, stops_nil _⟩
  | cons first text =>
      simp only [stops_cons, isPunctuation, Bool.or_eq_false_iff] at stops ⊢
      exact stops

theorem parenthesised?_eq (text : Text) :
    parenthesised? text = (after? ['('] text).bind fun opened =>
      (after? [')'] (opened.dropWhile isInside)).bind fun closed =>
        some (opened.takeWhile isInside, closed) := rfl

theorem parenthesised?_of_closed {text : Text} (closed : Stops (· == '(') text) :
    parenthesised? text = none := by
  rw [parenthesised?_eq, after?_singleton_of_stops closed, Option.bind_none]

theorem parenthesised?_cutsAt {before : Text} (after : Text) (nonempty : before ≠ [])
    (flush : Flush before) : Reader.CutsAt parenthesised? before after := by
  simp only [Reader.CutsAt, parenthesised?_eq]
  rw [after?_append_of_flush after (by decide) flush nonempty]
  cases found : after? ['('] before with
  | none => rfl
  | some opened =>
      rw [after?_eq_some_iff.mp found] at flush
      have rest := ne_nil_of_flush_append (by decide) (by simp) flush
      have fails : isInside '\n' = false := by decide
      have openedFlush := flush_of_append flush
      have closing := flush_dropWhile isInside openedFlush
      simp only [Option.map_some, Option.bind_some, takeWhile_append_of_flush after openedFlush rest fails,
        dropWhile_append_of_flush after openedFlush rest fails,
        after?_append_of_flush after (by decide : '\n' ∉ [')']) closing
          (dropWhile_ne_nil_of_flush openedFlush rest fails)]
      cases after? [')'] (opened.dropWhile isInside) <;> rfl

/-- A value is kept while the colon behind it is read. -/
def colon? {α : Type} (value : α) : Reader α := fun text =>
  (after? [':'] text).bind fun rest => some (value, rest)

theorem colon?_of_stops {α : Type} (value : α) {text : Text} (stops : Stops isPunctuation text) :
    colon? value text = none := by
  rw [colon?, after?_singleton_of_stops (stops_of_stops_isPunctuation stops).2, Option.bind_none]

theorem colon?_cutsAt {α : Type} (value : α) {before : Text} (after : Text) (nonempty : before ≠ [])
    (flush : Flush before) : (colon? value).CutsAt before after := by
  simp only [Reader.CutsAt, colon?]
  rw [after?_append_of_flush after (by decide) flush nonempty]
  cases after? [':'] before <;> rfl

/-- A keyword, white space and a name stand in front of each header. -/
def heading? (keyword : Text) : Reader Text := fun text =>
  ((after? keyword text).bind afterSpace?).bind identifier?

theorem heading?_eq_some_iff {keyword text name rest : Text} :
    heading? keyword text = some (name, rest) ↔
      (∃ gap, gap ≠ [] ∧ (∀ c ∈ gap, isSpace c) ∧ text = keyword ++ (gap ++ (name ++ rest))) ∧
        isIdentifier name ∧ Stops isIdentifierPart rest := by
  simp only [heading?, Option.bind_eq_some_iff, after?_eq_some_iff, afterSpace?_eq_some_iff,
    identifier?_eq_some_iff]
  constructor
  · rintro ⟨_, ⟨_, rfl, gap, nonempty, spaces, rfl, _⟩, rfl, identifier, stops⟩
    exact ⟨⟨gap, nonempty, spaces, rfl⟩, identifier, stops⟩
  · rintro ⟨⟨gap, nonempty, spaces, rfl⟩, identifier, stops⟩
    exact ⟨name ++ rest, ⟨_, rfl, gap, nonempty, spaces, rfl, stops_space_identifier rest identifier⟩,
      rfl, identifier, stops⟩

/-- A heading whose name has ended stays the same when more text follows. -/
theorem heading?_append {keyword text name rest : Text} (found : heading? keyword text = some (name, rest))
    (ended : rest ≠ []) (more : Text) : heading? keyword (text ++ more) = some (name, rest ++ more) := by
  obtain ⟨⟨gap, nonempty, spaces, rfl⟩, identifier, stops⟩ := heading?_eq_some_iff.mp found
  apply heading?_eq_some_iff.mpr
  exact ⟨⟨gap, nonempty, spaces, by simp⟩, identifier, (stops_append ended).mpr stops⟩

/-- The heading ends in the first text, or its name starts the second one. -/
theorem heading?_cut {keyword before : Text} (after : Text) (single : '\n' ∉ keyword)
    (word : keyword ≠ []) (nonempty : before ≠ []) (flush : Flush before) :
    (heading? keyword).CutsAt before after ∨
      heading? keyword before = none ∧
        heading? keyword (before ++ after) = identifier? (trimLeft after) := by
  simp only [Reader.CutsAt, heading?]
  rw [after?_append_of_flush after single flush nonempty]
  cases found : after? keyword before with
  | none => exact Or.inl rfl
  | some spaced =>
      rw [after?_eq_some_iff.mp found] at flush
      have rest := ne_nil_of_flush_append single word flush
      simp only [Option.map_some, Option.bind_some, afterSpace?_append after rest]
      cases reached : afterSpace? spaced with
      | none => exact Or.inl rfl
      | some named =>
          obtain ⟨gap, _, _, split, _⟩ := afterSpace?_eq_some_iff.mp reached
          rw [split] at flush
          cases named with
          | nil => exact Or.inr ⟨rfl, rfl⟩
          | cons first named =>
              exact Or.inl (identifier?_append_of_flush after
                (flush_of_append (flush_of_append flush)) (by simp))

theorem flush_of_heading? {keyword text name rest : Text} (flush : Flush text)
    (found : heading? keyword text = some (name, rest)) : Flush rest := by
  obtain ⟨⟨gap, _, _, rfl⟩, _⟩ := heading?_eq_some_iff.mp found
  exact flush_of_append (flush_of_append (flush_of_append flush))

/-- A header is cut by a text that cannot go on with it, neither behind its name nor with it. -/
theorem header_cutsAt {α : Type} {keyword before after : Text} (next : Text → Reader α)
    (single : '\n' ∉ keyword) (word : keyword ≠ []) (nonempty : before ≠ []) (flush : Flush before)
    (cuts : ∀ name rest, Flush rest → (next name).CutsAt rest after)
    (fails : ∀ name rest, identifier? (trimLeft after) = some (name, rest) →
      next name rest = none) :
    Reader.CutsAt (fun text => (heading? keyword text).bind fun named => next named.1 named.2)
      before after := by
  rcases heading?_cut after single word nonempty flush with headingCuts | ⟨none, reached⟩
  · exact headingCuts.bind next fun found => cuts _ _ (flush_of_heading? flush found)
  · simp only [Reader.CutsAt, none, reached, Option.bind_none, Option.map_none]
    cases named : identifier? (trimLeft after) with
    | none => rfl
    | some pair => exact fails pair.1 pair.2 named

end Text

namespace Signature

theorem parameters?_eq (text : Text) :
    parameters? text = (parenthesised? (trimLeft text)).bind fun found =>
      colon? found.1 (trimLeft found.2) := rfl

theorem parameters?_eq_some_iff {text parameters rest : Text} :
    parameters? text = some (parameters, rest) ↔
      (∀ c ∈ parameters, isInside c) ∧ ∃ gap closing, (∀ c ∈ gap, isSpace c) ∧
        (∀ c ∈ closing, isSpace c) ∧
        text = gap ++ '(' :: (parameters ++ ')' :: (closing ++ ':' :: rest)) := by
  simp only [parameters?_eq, colon?, Option.bind_eq_some_iff, Prod.exists, parenthesised?_eq_some_iff,
    after?_eq_some_iff, Option.some.injEq, Prod.mk.injEq]
  constructor
  · rintro ⟨inside, closed, ⟨split, allInside⟩, _, ending, rfl, rfl⟩
    obtain ⟨gap, spaces, whole, _⟩ := exists_gap text
    obtain ⟨closing, closingSpaces, closedSplit, _⟩ := exists_gap closed
    refine ⟨allInside, gap, closing, spaces, closingSpaces, ?_⟩
    rw [whole, split, closedSplit, ending]
    rfl
  · rintro ⟨allInside, gap, closing, spaces, closingSpaces, rfl⟩
    refine ⟨parameters, closing ++ ':' :: rest, ⟨?_, allInside⟩, rest, ?_, rfl, rfl⟩
    · exact trimLeft_run spaces ((stops_cons _ _ _).mpr (by decide))
    · exact trimLeft_run closingSpaces ((stops_cons _ _ _).mpr (by decide))

theorem parameters?_append {text parameters rest : Text}
    (found : parameters? text = some (parameters, rest)) (more : Text) :
    parameters? (text ++ more) = some (parameters, rest ++ more) := by
  obtain ⟨inside, gap, closing, spaces, closingSpaces, rfl⟩ := parameters?_eq_some_iff.mp found
  exact parameters?_eq_some_iff.mpr ⟨inside, gap, closing, spaces, closingSpaces, by simp⟩

theorem parameters?_suffix {text parameters rest : Text}
    (found : parameters? text = some (parameters, rest)) : ∃ front, front ≠ [] ∧ text = front ++ rest := by
  obtain ⟨_, gap, closing, _, _, rfl⟩ := parameters?_eq_some_iff.mp found
  exact ⟨gap ++ '(' :: (parameters ++ ')' :: (closing ++ [':'])), by simp, by simp⟩

theorem parameters?_of_closed {text : Text} (closed : Stops (· == '(') (trimLeft text)) :
    parameters? text = none := by
  rw [parameters?_eq, parenthesised?_of_closed closed, Option.bind_none]

/-- The parameters and the colon are cut by a text that starts with neither. -/
theorem parameters?_cutsAt {before after : Text} (flush : Flush before)
    (stops : Stops isPunctuation (trimLeft after)) : Reader.CutsAt parameters? before after := by
  have parenthesised : Reader.CutsAt (fun text => parenthesised? (trimLeft text)) before after :=
    .trimLeft flush (parenthesised?_cutsAt after) rfl
      (parenthesised?_of_closed (stops_of_stops_isPunctuation stops).1)
  refine parenthesised.bind (fun inside text => colon? inside (trimLeft text)) fun found => ?_
  rename_i inside rest
  have restFlush : Flush rest := by
    have split : trimLeft before = ('(' :: inside ++ [')']) ++ rest := by
      simp [(parenthesised?_eq_some_iff.mp found).1]
    have trimmed : Flush (trimLeft before) := flush_dropWhile isSpace flush
    rw [split] at trimmed
    exact flush_of_append trimmed
  exact .trimLeft restFlush (colon?_cutsAt inside after) rfl (colon?_of_stops inside stops)

theorem read?_eq (text : Text) :
    read? text = (heading? keyword text).bind fun named =>
      (parameters? named.2).map (Prod.map (fun found => ⟨named.1, found⟩) id) := by
  simp only [read?, heading?, Option.bind_assoc, Option.map_eq_bind]
  rfl

/-- A signature is a keyword, a name, parameters without line feeds, and a colon. -/
theorem read?_eq_some_iff {text rest : Text} {signature : Signature} :
    read? text = some (signature, rest) ↔
      ∃ unread, heading? keyword text = some (signature.name, unread) ∧
        parameters? unread = some (signature.parameters, rest) := by
  simp only [read?_eq, Option.bind_eq_some_iff, Option.map_eq_some_iff, Prod.exists, Prod.map,
    Prod.mk.injEq, id]
  constructor
  · intro shape
    obtain ⟨name, unread, named, parameters, rest', found, rfl, rfl⟩ := shape
    exact ⟨unread, named, found⟩
  · intro shape
    obtain ⟨unread, named, found⟩ := shape
    exact ⟨signature.name, unread, named, signature.parameters, rest, found, rfl, rfl⟩

theorem read?_progress {text rest : Text} {signature : Signature}
    (found : read? text = some (signature, rest)) : ∃ matched, matched ≠ [] ∧ text = matched ++ rest := by
  obtain ⟨unread, named, parameters⟩ := read?_eq_some_iff.mp found
  obtain ⟨⟨gap, _, _, rfl⟩, _⟩ := heading?_eq_some_iff.mp named
  obtain ⟨front, nonempty, rfl⟩ := parameters?_suffix parameters
  exact ⟨keyword ++ (gap ++ (signature.name ++ front)), by simp [nonempty], by simp⟩

/-- A signature stays the same when more text follows. -/
theorem read?_append {text rest : Text} {signature : Signature}
    (found : read? text = some (signature, rest)) (more : Text) :
    read? (text ++ more) = some (signature, rest ++ more) := by
  obtain ⟨unread, named, parameters⟩ := read?_eq_some_iff.mp found
  have ended : unread ≠ [] := by
    obtain ⟨front, nonempty, rfl⟩ := parameters?_suffix parameters
    simp [nonempty]
  apply read?_eq_some_iff.mpr
  exact ⟨unread ++ more, heading?_append named ended more, parameters?_append parameters more⟩

end Signature

end Outline
