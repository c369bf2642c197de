/-
This file states which lines declare global variables, and that such a line can be written from
the variable alone.
-/

import Outline.Global
import Outline.Proofs.Class
import Outline.Proofs.Line
import Outline.Proofs.Pieces

namespace Outline

open Text

namespace Text

/-- Blanks on both sides of a text are trimmed. -/
theorem trimBlanks_run {left text right : Text} (leftBlanks : ∀ c ∈ left, isBlank c)
    (rightBlanks : ∀ c ∈ right, isBlank c) (nonempty : text ≠ []) (stops : Stops isBlank text)
    (stopsReverse : Stops isBlank text.reverse) : trimBlanks (left ++ (text ++ right)) = text :=
  dropBoth_run leftBlanks rightBlanks nonempty stops stopsReverse

theorem exists_trimBlanks (text : Text) :
    ∃ left right, (∀ c ∈ left, isBlank c) ∧ (∀ c ∈ right, isBlank c) ∧
      text = left ++ (trimBlanks text ++ right) :=
  exists_dropBoth isBlank text

/-- A word of identifier characters in front of a name and other text is in front of the name. -/
theorem isPrefix_name {word name rest : Text} (parts : ∀ c ∈ word, isIdentifierPart c)
    (identifier : isIdentifier name) (stops : Stops isIdentifierPart rest) :
    word <+: name ++ rest ↔ word <+: name := by
  constructor
  · intro longer
    obtain ⟨unread, split⟩ := longer
    have taken : (name ++ rest).takeWhile isIdentifierPart = name :=
      takeWhile_run (fun c => isIdentifierPart_of_mem identifier) stops
    rw [← split, List.takeWhile_append_of_pos parts] at taken
    exact ⟨_, taken⟩
  · intro shorter
    exact shorter.trans (List.prefix_append name rest)

end Text

namespace GlobalEntry

/-- A hint is one character that can start it; or it starts with such a character, goes on with commas
and spaces among them, and ends with one that opens no bracket. -/
inductive HintSpelled : Text → Prop where
  | single {first : Char} (start : isHintStart first) : HintSpelled [first]
  | longer {first last : Char} {inner : Text} (start : isHintStart first)
      (parts : ∀ c ∈ inner, isHintPart c) (ending : isHintEnd last) :
      HintSpelled (first :: (inner ++ [last]))

theorem isHint_iff_spelled {hint : Text} : isHint hint ↔ HintSpelled hint := by
  constructor
  · intro isHint
    cases hint with
    | nil => simp [GlobalEntry.isHint] at isHint
    | cons first rest =>
        simp only [GlobalEntry.isHint, Bool.and_eq_true] at isHint
        obtain ⟨start, ending⟩ := isHint
        rcases List.eq_nil_or_concat rest with rfl | ⟨inner, last, rfl⟩
        · exact .single start
        · rw [List.concat_eq_append] at ending ⊢
          simp only [List.getLast?_concat, List.dropLast_concat, Bool.and_eq_true,
            List.all_eq_true] at ending
          exact .longer start ending.1 ending.2
  · intro spelled
    cases spelled with
    | single start => simp [GlobalEntry.isHint, start]
    | longer start parts ending =>
        simp only [GlobalEntry.isHint, List.getLast?_concat, List.dropLast_concat, start, ending,
          List.all_eq_true.mpr parts, Bool.and_self]

theorem isHintStart_of_isHintEnd {character : Char} (ending : isHintEnd character) :
    isHintStart character := by
  simp only [isHintEnd, isHintStart, Bool.or_eq_true] at ending ⊢
  tauto

/-- The characters of a hint, and the two at its ends. -/
theorem isHint_spec {hint : Text} (isHint : isHint hint) :
    hint ≠ [] ∧ (∀ c ∈ hint, isHintPart c) ∧ (∀ first ∈ hint.head?, isHintStart first) ∧
      ∀ last ∈ hint.reverse.head?, isHintStart last := by
  have part : ∀ c, isHintStart c → isHintPart c := fun c start => by simp [isHintPart, start]
  cases isHint_iff_spelled.mp isHint with
  | @single first start => simp [start, part first start]
  | @longer first last inner start parts ending =>
      have lastStart := isHintStart_of_isHintEnd ending
      refine ⟨by simp, ?_, by simpa using start, by simpa using lastStart⟩
      intro c member
      simp only [List.mem_cons, List.mem_append, List.not_mem_nil, or_false] at member
      rcases member with rfl | inside | rfl
      · exact part c start
      · exact parts c inside
      · exact part c lastStart

theorem isSpace_of_isHintStart {character : Char} (start : isHintStart character) :
    isSpace character = false := by
  simp only [isHintStart, Bool.or_eq_true, beq_iff_eq] at start
  rcases start with ((part | rfl) | rfl) | rfl
  · exact isSpace_of_isIdentifierPart part
  · decide
  · decide
  · decide

theorem isComment_of_isHintStart {character : Char} (start : isHintStart character) :
    ClassText.isComment character = false := by
  by_contra sign
  rw [Bool.not_eq_false, ClassText.isComment, beq_iff_eq] at sign
  exact absurd (sign ▸ start) (by decide)

theorem isBlank_of_isHintStart {character : Char} (start : isHintStart character) :
    isBlank character = false := by
  by_contra blank
  have space := isSpace_of_isBlank (Bool.not_eq_false _ ▸ blank)
  rw [isSpace_of_isHintStart start] at space
  contradiction

theorem assigned?_colon {spelled : Text} (absent : '=' ∉ spelled) (value : Text) :
    assigned? (':' :: (spelled ++ '=' :: value)) =
      if isHint (trimBlanks spelled) then some (some (trimBlanks spelled), value) else none := by
  simp only [assigned?, takeWhile_ne absent, dropWhile_ne absent]

theorem assigned?_unsigned {rest : Text} (absent : '=' ∉ rest) : assigned? (':' :: rest) = none := by
  simp only [assigned?, dropWhile_ne_eq_nil absent]

/-- A name is followed by the equals sign, or by a colon and a hint in front of the equals sign. -/
theorem assigned?_eq_some_iff {text value : Text} {hint : Option Text} :
    assigned? text = some (hint, value) ↔
      (hint = none ∧ text = '=' :: value) ∨
        ∃ spelled, hint = some (trimBlanks spelled) ∧ isHint (trimBlanks spelled) ∧ '=' ∉ spelled ∧
          text = ':' :: (spelled ++ '=' :: value) := by
  constructor
  · intro found
    unfold assigned? at found
    split at found
    · obtain ⟨rfl, rfl⟩ := Prod.mk.inj (Option.some.inj found)
      exact Or.inl ⟨rfl, rfl⟩
    · rename_i rest
      change assigned? (':' :: rest) = some (hint, value) at found
      by_cases signed : '=' ∈ rest
      · obtain ⟨spelled, value', rfl, absent⟩ := List.eq_append_cons_of_mem signed
        rw [assigned?_colon absent] at found
        by_cases isHint : isHint (trimBlanks spelled)
        · rw [if_pos isHint] at found
          obtain ⟨rfl, rfl⟩ := Prod.mk.inj (Option.some.inj found)
          exact Or.inr ⟨spelled, rfl, isHint, absent, rfl⟩
        · rw [if_neg isHint] at found
          contradiction
      · rw [assigned?_unsigned signed] at found
        contradiction
    · contradiction
  · intro shape
    rcases shape with ⟨rfl, rfl⟩ | ⟨spelled, rfl, isHint, absent, rfl⟩
    · rfl
    · rw [assigned?_colon absent, if_pos isHint]

/-- The sign behind a name and its blanks ends both of them. -/
theorem stops_of_assigned? {text value blanks : Text} {hint : Option Text}
    (found : assigned? text = some (hint, value)) (areBlanks : ∀ c ∈ blanks, isBlank c) :
    Stops isBlank text ∧ Stops isIdentifierPart (blanks ++ text) := by
  have signStops : Stops isBlank text ∧ Stops isIdentifierPart text := by
    rcases assigned?_eq_some_iff.mp found with ⟨_, rfl⟩ | ⟨spelled, _, _, _, rfl⟩ <;>
      exact ⟨(stops_cons _ _ _).mpr (by decide), (stops_cons _ _ _).mpr (by decide)⟩
  have spaces : ∀ c ∈ blanks, isSpace c := fun c member => isSpace_of_isBlank (areBlanks c member)
  exact ⟨signStops.1, stops_isIdentifierPart_gap spaces signStops.2⟩

/-- A global variable is a name, an optional hint and a text that is not empty and gets trimmed. -/
theorem ofLine?_eq_some_iff {line : Text} {entry : GlobalEntry} :
    ofLine? line = some entry ↔
      ∃ blanks rest value, (isIdentifier entry.name ∧ ∀ c ∈ blanks, isBlank c) ∧
        line = entry.name ++ (blanks ++ rest) ∧ assigned? rest = some (entry.hint, value) ∧
        value ≠ [] ∧ trim value = entry.value := by
  constructor
  · intro found
    simp only [ofLine?, Option.bind_eq_bind, Option.bind_eq_some_iff, Prod.exists,
      identifier?_eq_some_iff] at found
    obtain ⟨name, unread, ⟨rfl, identifier, _⟩, hint, value, assigned, whole⟩ := found
    have nonempty : value ≠ [] := by
      intro empty
      simp [empty] at whole
    rw [if_neg (by simpa using nonempty), Option.some.injEq] at whole
    subst whole
    refine ⟨unread.takeWhile isBlank, unread.dropWhile isBlank, value,
      ⟨identifier, fun _ => List.mem_takeWhile_imp⟩, ?_, assigned, nonempty, rfl⟩
    rw [List.takeWhile_append_dropWhile]
  · intro shape
    obtain ⟨blanks, rest, value, ⟨identifier, areBlanks⟩, rfl, assigned, nonempty, trimmed⟩ := shape
    obtain ⟨noBlank, stops⟩ := stops_of_assigned? assigned areBlanks
    have named := identifier?_eq_some_iff.mpr ⟨rfl, identifier, stops⟩
    simp [ofLine?, named, dropWhile_run areBlanks noBlank, assigned, nonempty, trimmed]

/-- The global variable that a line of a source text declares. -/
def declared? (line : Text) : Option GlobalEntry := if isTopLevel line then ofLine? line else none

theorem declared?_eq_some_iff {line : Text} {entry : GlobalEntry} :
    declared? line = some entry ↔ isTopLevel line ∧ ofLine? line = some entry := by
  simp [declared?]

/-- The search in the top-level lines, put together again, finds what the lines of the source declare one
by one. -/
theorem listOf_eq_filterMap (source : Text) :
    listOf source = (source.splitOn '\n').filterMap declared? := by
  have filtered : (topLevel source).splitOn '\n' = (source.splitOn '\n').filter isTopLevel ∨
      topLevel source = [] ∧ (source.splitOn '\n').filter isTopLevel = [] := by
    by_cases empty : (source.splitOn '\n').filter isTopLevel = []
    · exact Or.inr ⟨by rw [topLevel, empty]; rfl, empty⟩
    · left
      refine List.splitOn_intercalate '\n' ?_ empty
      intro line member
      exact (splitOn_piece (List.mem_filter.mp member).1).1
  have found : listOf source = ((topLevel source).splitOn '\n').filterMap ofLine? :=
    Reader.values_ofLine rfl (topLevel source)
  rw [found]
  change _ = (source.splitOn '\n').filterMap fun line => if isTopLevel line then ofLine? line else none
  rw [← List.filterMap_filter]
  rcases filtered with same | ⟨none, empty⟩
  · rw [same]
  · rw [none, empty]
    rfl

/-- This reader looks for declarations in the source itself, line by line. -/
def declaration? : Reader GlobalEntry := Reader.ofLine declared?

theorem declaration?_lawful : declaration?.Lawful := Reader.ofLine_lawful rfl

theorem listOf_eq (source : Text) : listOf source = declaration?.values source := by
  rw [listOf_eq_filterMap, declaration?, Reader.values_ofLine rfl]

/-- A line that starts with a name is at the top level unless the name starts with a keyword. -/
theorem isTopLevel_name {name rest : Text} (identifier : isIdentifier name)
    (stops : Stops isIdentifierPart rest) :
    isTopLevel (name ++ rest) ↔ ¬Signature.keyword <+: name ∧ ¬ClassText.keyword <+: name := by
  have signature : ∀ c ∈ Signature.keyword, isIdentifierPart c := List.all_eq_true.mp (by decide)
  have classText : ∀ c ∈ ClassText.keyword, isIdentifierPart c := List.all_eq_true.mp (by decide)
  rw [← isPrefix_name signature identifier stops, ← isPrefix_name classText identifier stops]
  cases name with
  | nil => simp [isIdentifier] at identifier
  | cons first name =>
      have part := isIdentifierPart_of_mem identifier List.mem_cons_self
      have different : '@' ≠ first := by
        intro same
        rw [← same] at part
        exact absurd part (by decide)
      have noDecorator : List.isPrefixOf decorator (first :: (name ++ rest)) = false := by
        simp [decorator, List.isPrefixOf, different]
      simp [isTopLevel, isSpace_of_isIdentifierPart part, noDecorator, ← List.isPrefixOf_iff_prefix]

/-- A global variable is well-formed if a line can spell it. -/
structure WellFormed (entry : GlobalEntry) : Prop where
  identifier : isIdentifier entry.name
  noKeyword : ¬Signature.keyword <+: entry.name ∧ ¬ClassText.keyword <+: entry.name
  isHint : ∀ hint ∈ entry.hint, isHint hint
  trimmed : Trimmed entry.value
  single : '\n' ∉ entry.value

theorem wellFormed_of_declared? {line : Text} {entry : GlobalEntry} (single : '\n' ∉ line)
    (found : declared? line = some entry) : entry.WellFormed := by
  obtain ⟨top, spells⟩ := declared?_eq_some_iff.mp found
  obtain ⟨blanks, rest, value, ⟨identifier, areBlanks⟩, rfl, assigned, _, trimmed⟩ :=
    ofLine?_eq_some_iff.mp spells
  have stops := (stops_of_assigned? assigned areBlanks).2
  have valueSingle : '\n' ∉ value := by
    intro member
    rcases assigned?_eq_some_iff.mp assigned with ⟨_, rfl⟩ | ⟨spelled, _, _, _, rfl⟩ <;>
      exact single (by simp [member])
  refine ⟨identifier, (isTopLevel_name identifier stops).mp top, ?_, ?_, ?_⟩
  · intro hint isHint
    rcases assigned?_eq_some_iff.mp assigned with ⟨none, _⟩ | ⟨spelled, some, isHint', _, _⟩
    · simp [none] at isHint
    · rw [some, Option.mem_some_iff] at isHint
      exact isHint ▸ isHint'
  · exact trimmed ▸ trimmed_trim value
  · exact fun member => valueSingle (mem_of_mem_trim (trimmed ▸ member))

theorem wellFormed_of_mem_listOf {source : Text} {entry : GlobalEntry}
    (member : entry ∈ listOf source) : entry.WellFormed := by
  rw [listOf_eq_filterMap] at member
  obtain ⟨line, inside, found⟩ := List.mem_filterMap.mp member
  exact wellFormed_of_declared? (splitOn_piece inside).1 found

/-- Behind its name, a written variable assigns its value again. -/
theorem exists_assigned?_render {entry : GlobalEntry} (isHint : ∀ hint ∈ entry.hint, isHint hint) :
    ∃ blanks rest, (∀ c ∈ blanks, isBlank c) ∧ entry.render = entry.name ++ (blanks ++ rest) ∧
      assigned? rest = some (entry.hint, ' ' :: entry.value) := by
  have blank : ∀ c ∈ [' '], isBlank c := List.all_eq_true.mp (by decide)
  cases spelled : entry.hint with
  | none => exact ⟨[' '], '=' :: ' ' :: entry.value, blank, by simp [render, spelled], rfl⟩
  | some hint =>
      obtain ⟨nonempty, parts, first, last⟩ := isHint_spec (isHint hint (by simp [spelled]))
      have trimmed : trimBlanks ([' '] ++ (hint ++ [' '])) = hint :=
        trimBlanks_run blank blank nonempty
          (fun c isFirst => isBlank_of_isHintStart (first c isFirst))
          (fun c isLast => isBlank_of_isHintStart (last c isLast))
      have noSign : '=' ∉ hint := fun member => absurd (parts _ member) (by decide)
      refine ⟨[], ':' :: (([' '] ++ (hint ++ [' '])) ++ '=' :: ' ' :: entry.value), by simp,
        by simp [render, spelled], ?_⟩
      apply assigned?_eq_some_iff.mpr
      refine Or.inr ⟨[' '] ++ (hint ++ [' ']), ?_, ?_, by simp [noSign], rfl⟩
      · rw [trimmed]
      · rw [trimmed]
        exact isHint hint (by simp [spelled])

/-- The line that spells a well-formed variable declares it. -/
theorem declared?_render {entry : GlobalEntry} (wellFormed : entry.WellFormed) :
    declared? entry.render = some entry := by
  obtain ⟨blanks, rest, areBlanks, shape, assigned⟩ := exists_assigned?_render wellFormed.isHint
  have stops := (stops_of_assigned? assigned areBlanks).2
  apply declared?_eq_some_iff.mpr
  constructor
  · rw [shape]
    exact (isTopLevel_name wellFormed.identifier stops).mpr wellFormed.noKeyword
  · have trimmed : trim (' ' :: entry.value) = entry.value :=
      (trim_cons_of_isSpace (by decide) entry.value).trans (trim_of_trimmed wellFormed.trimmed)
    exact ofLine?_eq_some_iff.mpr ⟨blanks, rest, _, ⟨wellFormed.identifier, areBlanks⟩, shape, assigned,
      by simp, trimmed⟩

theorem newline_not_mem_render {entry : GlobalEntry} (wellFormed : entry.WellFormed) :
    '\n' ∉ entry.render := by
  have noName := not_mem_identifier wellFormed.identifier (by decide : isIdentifierPart '\n' = false)
  cases spelled : entry.hint with
  | none => simp [render, spelled, noName, wellFormed.single]
  | some hint =>
      have parts := (isHint_spec (wellFormed.isHint hint (by simp [spelled]))).2.1
      have noHint : '\n' ∉ hint := fun member => absurd (parts _ member) (by decide)
      simp [render, spelled, noName, noHint, wellFormed.single]

end GlobalEntry

end Outline
