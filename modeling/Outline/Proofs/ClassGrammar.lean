/-
This file states the grammar of classes on its own, without the readers, and that the classes found in a
source are those of the grammar: one entry for each place where the text spells a class.
-/

import Outline.Proofs.Barrier
import Outline.Proofs.Constructor
import Outline.Proofs.Pieces
import Outline.Proofs.Place

namespace Outline

open Text

namespace Text

/-- The lines of a text, each with the line feed that ends it. -/
def lines : Text → List Text
  | [] => []
  | character :: rest =>
      if character = '\n' then [character] :: lines rest
      else
        match lines rest with
        | [] => [[character]]
        | line :: later => (character :: line) :: later

theorem lines_feed (rest : Text) : lines ('\n' :: rest) = ['\n'] :: lines rest := by
  simp [lines]

/-- A character goes in front of the first line. -/
theorem lines_cons {first : Char} (other : first ≠ '\n') (rest : Text) :
    lines (first :: rest) = (first :: (lines rest).headD []) :: (lines rest).tail := by
  rw [lines, if_neg other]
  cases lines rest <;> rfl

end Text

namespace ClassText

/-- A line of a body consists of blanks and is ended, or starts with a blank. -/
def isBodyLine (line : Text) : Bool :=
  (line.getLast? == some '\n' && line.dropLast.all isBlank) || line.head?.any isBlank

/-- The longest run of body lines in front of a text. -/
def leadingBody (text : Text) : Text := ((lines text).takeWhile isBodyLine).flatten

/-- The first character of a line decides whether the line belongs to a body. -/
theorem isBodyLine_cons {first : Char} {rest : Text} (whole : first = '\n' → rest = []) :
    isBodyLine (first :: rest) = startsBodyLine first := by
  by_cases feed : first = '\n'
  · rw [whole feed, feed]
    decide
  · by_cases blank : isBlank first
    · simp [isBodyLine, startsBodyLine, blank]
    · cases rest with
      | nil => simp [isBodyLine, startsBodyLine, blank]
      | cons next rest => simp [isBodyLine, startsBodyLine, blank, feed]

/-- At a line start the body takes whole lines; inside a line it takes what is left of the line first. -/
theorem splitBody_eq_lines (text : Text) :
    (splitBody true text).1 = leadingBody text ∧
      (splitBody false text).1 =
        (lines text).headD [] ++ ((lines text).tail.takeWhile isBodyLine).flatten := by
  induction text with
  | nil => exact ⟨rfl, rfl⟩
  | cons first rest inductionHypothesis =>
      obtain ⟨atStart, inside⟩ := inductionHypothesis
      rw [leadingBody] at atStart ⊢
      by_cases feed : first = '\n'
      · subst feed
        have starts : startsBodyLine '\n' = true := by decide
        have isLine : isBodyLine ['\n'] = true := by decide
        rw [splitBody_cons, splitBody_cons, lines_feed, starts]
        simp [isLine, atStart]
      · have other : (first == '\n') = false := by simpa using feed
        have isLine : isBodyLine (first :: (lines rest).headD []) = startsBodyLine first :=
          isBodyLine_cons fun equal => absurd equal feed
        have inLine : (splitBody false (first :: rest)).1 = first :: (splitBody false rest).1 := by
          rw [splitBody_cons, other]
          rfl
        refine ⟨?_, ?_⟩
        · rw [splitBody_cons, other, lines_cons feed]
          cases starts : startsBodyLine first with
          | false =>
              rw [List.takeWhile_cons_of_neg (by simp only [isLine, starts, Bool.false_eq_true, not_false_iff])]
              rfl
          | true =>
              rw [List.takeWhile_cons_of_pos (by rw [isLine, starts]), List.flatten_cons, List.cons_append,
                ← inside]
              rfl
        · rw [inLine, inside, lines_cons feed]
          rfl

/-- The header ends behind the line of a comment; or else behind the last line feed of the white space,
which runs as far as it can. -/
inductive HeaderEnds : Text → Text → Prop where
  | comment {gap comment start : Text} (spaces : ∀ c ∈ gap, isSpace c) (single : '\n' ∉ comment) :
      HeaderEnds (gap ++ '#' :: (comment ++ '\n' :: start)) start
  | gap {before margin rest : Text} (spaces : ∀ c ∈ before ++ '\n' :: margin, isSpace c)
      (last : '\n' ∉ margin) (longest : Stops isSpace rest)
      (uncommented : rest.head? = some '#' → '\n' ∉ rest) :
      HeaderEnds ((before ++ '\n' :: margin) ++ rest) (margin ++ rest)

theorem headerEnd?_eq_some_iff {text start : Text} :
    headerEnd? text = some start ↔ HeaderEnds text start := by
  constructor
  · intro found
    obtain ⟨gap, spaces, cases⟩ := exists_gap_cases text
    rcases cases with ⟨comment, rest, single, rfl⟩ | ⟨comment, single, rfl⟩ | ⟨rest, stops, noComment, rfl⟩
    · rw [headerEnd?_comment spaces single, Option.some.injEq] at found
      exact found ▸ .comment spaces single
    · rw [headerEnd?_unfinished spaces single] at found
      obtain ⟨before, margin, rfl, last, rfl⟩ := afterGap?_eq_some_iff.mp found
      exact .gap spaces last ((stops_cons _ _ _).mpr (by decide)) fun _ => by simp [single]
    · rw [headerEnd?_gap spaces stops noComment] at found
      obtain ⟨before, margin, rfl, last, rfl⟩ := afterGap?_eq_some_iff.mp found
      refine .gap spaces last stops fun sign => ?_
      have different := noComment '#' sign
      exact absurd different (by decide)
  · intro ends
    cases ends with
    | comment spaces single => exact headerEnd?_comment spaces single _
    | @gap before margin rest spaces last longest uncommented =>
        have found : afterGap? (before ++ '\n' :: margin) rest = some (margin ++ rest) :=
          afterGap?_eq_some_iff.mpr ⟨before, margin, rfl, last, rfl⟩
        by_cases noComment : Stops isComment rest
        · rw [headerEnd?_gap spaces longest noComment, found]
        · cases rest with
          | nil => simp at noComment
          | cons first comment =>
              have sign : first = '#' := by simpa [isComment] using noComment
              subst sign
              have single : '\n' ∉ comment := fun member => uncommented rfl (List.mem_cons_of_mem _ member)
              rw [headerEnd?_unfinished spaces single, found]

/-- The bases may be left out; they are closed on the line that opens them. -/
inductive BasesSpelled : Option Text → Text → Prop where
  | absent : BasesSpelled none []
  | listed {inside gap : Text} (unclosed : ')' ∉ inside) (single : '\n' ∉ inside)
      (spaces : ∀ c ∈ gap, isSpace c) : BasesSpelled (some inside) ('(' :: (inside ++ ')' :: gap))

theorem opening?_iff_spelled {text rest : Text} {bases : Option Text} :
    opening? text = some (bases, rest) ↔
      ∃ gap spelled, (∀ c ∈ gap, isSpace c) ∧ BasesSpelled bases spelled ∧
        text = gap ++ (spelled ++ ':' :: rest) := by
  rw [opening?_eq_some_iff]
  constructor
  · intro shape
    rcases shape with ⟨inside, rfl, parameters⟩ | ⟨rfl, split⟩
    · obtain ⟨allInside, gap, closing, spaces, closingSpaces, rfl⟩ :=
        Signature.parameters?_eq_some_iff.mp parameters
      obtain ⟨unclosed, single⟩ := inside_iff.mp allInside
      exact ⟨gap, _, spaces, .listed unclosed single closingSpaces, by simp⟩
    · obtain ⟨gap, spaces, whole, _⟩ := exists_gap text
      rw [split] at whole
      exact ⟨gap, [], spaces, .absent, whole⟩
  · intro shape
    obtain ⟨gap, spelled, spaces, listed, rfl⟩ := shape
    cases listed with
    | absent => exact Or.inr ⟨rfl, trimLeft_run spaces ((stops_cons _ _ _).mpr (by decide))⟩
    | @listed inside closing unclosed single closingSpaces =>
        refine Or.inl ⟨inside, rfl, Signature.parameters?_eq_some_iff.mpr ?_⟩
        exact ⟨inside_iff.mpr ⟨unclosed, single⟩, gap, closing, spaces, closingSpaces, by simp⟩

/-- A class text is the keyword, a name, bases that may be left out, a colon, the end of the header and
the longest body behind it. White space, line feeds included, may stand between them, and has to stand
behind the keyword. -/
inductive Spelled : Grammar ClassText where
  | intro {gap name space spelled behind start : Text} {bases : Option Text}
      (spaced : gap ≠ [] ∧ ∀ c ∈ gap, isSpace c) (identifier : isIdentifier name)
      (spaces : ∀ c ∈ space, isSpace c) (listed : BasesSpelled bases spelled)
      (ends : HeaderEnds behind start) :
      Spelled (keyword ++ (gap ++ (name ++ (space ++ (spelled ++ ':' :: behind)))))
        ⟨name, bases, leadingBody start⟩

/-- The name ends where the white space, the bases or the colon start. -/
theorem stops_isIdentifierPart_spelled {space spelled behind : Text} {bases : Option Text}
    (spaces : ∀ c ∈ space, isSpace c) (listed : BasesSpelled bases spelled) :
    Stops isIdentifierPart (space ++ (spelled ++ ':' :: behind)) := by
  apply stops_isIdentifierPart_gap spaces
  cases listed <;> exact (stops_cons _ _ _).mpr (by decide)

theorem read?_accepts : read?.Accepts Spelled := by
  intro tail found
  rw [Reader.answer_eq_some_iff]
  constructor
  · intro shape
    obtain ⟨rest, read⟩ := shape
    obtain ⟨named, unread, heading, opened, body⟩ := read?_eq_some_iff.mp read
    obtain ⟨⟨gap, nonempty, spaces, rfl⟩, identifier, _⟩ := heading?_eq_some_iff.mp heading
    obtain ⟨space, spelled, spaces', listed, rfl⟩ := opening?_iff_spelled.mp opened
    obtain ⟨start, ends, split⟩ := Option.map_eq_some_iff.mp body
    have longest : found.body = leadingBody start := by
      rw [← (splitBody_eq_lines start).1, split]
    have whole : found = ⟨found.name, found.bases, leadingBody start⟩ := by rw [← longest]
    rw [whole]
    exact .intro ⟨nonempty, spaces⟩ identifier spaces' listed (headerEnd?_eq_some_iff.mp ends)
  · intro shape
    cases shape with
    | @intro gap name space spelled behind start bases spaced identifier spaces listed ends =>
        refine ⟨(splitBody true start).2, read?_eq_some_iff.mpr
          ⟨space ++ (spelled ++ ':' :: behind), behind, ?_, ?_, ?_⟩⟩
        · apply heading?_eq_some_iff.mpr
          exact ⟨⟨gap, spaced.1, spaced.2, rfl⟩, identifier, stops_isIdentifierPart_spelled spaces listed⟩
        · exact opening?_iff_spelled.mpr ⟨space, spelled, spaces, listed, rfl⟩
        · rw [body?, headerEnd?_eq_some_iff.mpr ends, Option.map_some, ← (splitBody_eq_lines start).1]

/-- A constructor is the keyword of a function behind blanks, the reserved name, and parameters without
line feeds in front of a colon. -/
inductive ConstructorSpelled : Grammar Text where
  | intro {indent gap space parameters closing rest : Text} (indented : indent ≠ [] ∧ ∀ c ∈ indent, isBlank c)
      (spaced : gap ≠ [] ∧ ∀ c ∈ gap, isSpace c) (spaces : ∀ c ∈ space, isSpace c)
      (unclosed : ')' ∉ parameters) (single : '\n' ∉ parameters) (closingSpaces : ∀ c ∈ closing, isSpace c) :
      ConstructorSpelled (indent ++ (Signature.keyword ++ (gap ++ (constructorName ++ (space ++
        '(' :: (parameters ++ ')' :: (closing ++ ':' :: rest))))))) parameters

theorem constructor?_accepts : constructor?.Accepts ConstructorSpelled := by
  intro tail parameters
  rw [Reader.answer_eq_some_iff]
  constructor
  · intro shape
    obtain ⟨rest, read⟩ := shape
    obtain ⟨indent, gap, unread, indented, spaced, rfl, found⟩ := constructor?_eq_some_iff.mp read
    obtain ⟨inside, space, closing, spaces, closingSpaces, rfl⟩ := Signature.parameters?_eq_some_iff.mp found
    obtain ⟨unclosed, single⟩ := inside_iff.mp inside
    exact .intro indented spaced spaces unclosed single closingSpaces
  · intro shape
    cases shape with
    | @intro indent gap space _ closing rest indented spaced spaces unclosed single closingSpaces =>
        refine ⟨rest, constructor?_eq_some_iff.mpr ⟨indent, gap, _, indented, spaced, rfl, ?_⟩⟩
        apply Signature.parameters?_eq_some_iff.mpr
        exact ⟨inside_iff.mpr ⟨unclosed, single⟩, space, closing, spaces, closingSpaces, rfl⟩

theorem toClass_bases (text : ClassText) : text.toClass.bases = (text.bases.map pieces).getD [] := by
  have empty : commaPieces [] = [] := by decide
  rw [toClass]
  cases text.bases with
  | none => exact empty
  | some inside => exact commaPieces_eq inside

theorem toClass_constructorArguments (text : ClassText) :
    text.toClass.constructorArguments = ((constructor?.first? text.body).map Argument.listOf).getD [] := by
  have empty : Argument.listOf [] = [] := by decide
  rw [toClass, constructorParameters]
  cases constructor?.first? text.body with
  | none => exact empty
  | some parameters => rfl

end ClassText

namespace ClassEntry

/-- An entry describes a class text by its name, the pieces of its bases, and the arguments of the first
constructor on a line of its body. -/
structure Describes (entry : ClassEntry) (text : ClassText) : Prop where
  name : entry.name = text.name
  bases : entry.bases = (text.bases.map pieces).getD []
  constructorArguments : ∃ parameters, Grammar.First ClassText.ConstructorSpelled text.body parameters ∧
    entry.constructorArguments = (parameters.map Argument.listOf).getD []

theorem describes_iff {entry : ClassEntry} {text : ClassText} :
    entry.Describes text ↔ text.toClass = entry := by
  have spec := Reader.first?_spec ClassText.constructor?_lawful ClassText.constructor?_accepts text.body
  constructor
  · intro describes
    obtain ⟨parameters, first, same⟩ := describes.constructorArguments
    -- The grammar leaves no choice, so these are the parameters that the reader finds.
    rw [first.unique ClassText.constructor?_accepts.definite spec,
      ← ClassText.toClass_constructorArguments] at same
    obtain ⟨name, bases, constructorArguments⟩ := entry
    rw [ClassEntry.mk.injEq]
    exact ⟨describes.name.symm, text.toClass_bases.trans describes.bases.symm, same.symm⟩
  · intro same
    rw [← same]
    exact ⟨rfl, text.toClass_bases, _, spec, text.toClass_constructorArguments⟩

/-- The grammar of classes with the entries that describe them. -/
def Declared : Grammar ClassEntry := fun tail entry =>
  ∃ text, ClassText.Spelled tail text ∧ entry.Describes text

/-- The classes found in a source are the classes of the grammar: there is one entry for each line start
at which the text spells a class, and the entries come in the order of these places. -/
theorem listOf_declared (source : Text) :
    ∃ places, Declared.Lists source places ∧ listOf source = places.map Prod.snd := by
  obtain ⟨places, lists, values⟩ :=
    Reader.exists_lists ClassText.read?_lawful ClassText.read?_accepts source
  have made : ∀ tail entry, Declared tail entry ↔
      ∃ text, ClassText.Spelled tail text ∧ text.toClass = entry := by
    intro tail entry
    simp only [Declared, describes_iff]
  refine ⟨_, lists.map made, ?_⟩
  rw [listOf, values, List.map_map, List.map_map]
  rfl

end ClassEntry

end Outline
