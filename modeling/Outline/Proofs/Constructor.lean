/-
This file states which constructor a body has, and that more text behind a body keeps it.
-/

import Outline.Proofs.Class

namespace Outline.ClassText

open Text

/-- The text behind the blanks that indent a line, of which there is at least one. -/
def indented? : Text → Option Text
  | [] => none
  | first :: rest => if isBlank first then some (rest.dropWhile isBlank) else none

theorem indented?_eq_some_iff {text rest : Text} :
    indented? text = some rest ↔
      ∃ indent, indent ≠ [] ∧ (∀ c ∈ indent, isBlank c) ∧ text = indent ++ rest ∧
        Stops isBlank rest := by
  constructor
  · intro found
    cases text with
    | nil => simp [indented?] at found
    | cons first text =>
        by_cases blank : isBlank first
        · simp only [indented?, blank, if_true, Option.some.injEq] at found
          subst found
          refine ⟨first :: text.takeWhile isBlank, by simp, ?_, by simp, stops_dropWhile isBlank text⟩
          intro c member
          rcases List.mem_cons.mp member with rfl | later
          · exact blank
          · exact List.mem_takeWhile_imp later
        · simp [indented?, blank] at found
  · intro shape
    obtain ⟨indent, nonempty, blanks, rfl, stops⟩ := shape
    cases indent with
    | nil => exact absurd rfl nonempty
    | cons first indent =>
        simp only [List.mem_cons, forall_eq_or_imp] at blanks
        simp [indented?, blanks.1, dropWhile_run blanks.2 stops]

theorem indented?_append_of_flush {before : Text} (after : Text) (flush : Flush before) :
    indented? (before ++ after) = if before = [] then indented? after
      else (indented? before).map (· ++ after) := by
  cases before with
  | nil => rfl
  | cons first before =>
      by_cases blank : isBlank first
      · have single : '\n' ∉ [first] := by
          intro member
          rw [← List.mem_singleton.mp member] at blank
          exact absurd blank (by decide)
        have whole : Flush ([first] ++ before) := flush
        have rest : before ≠ [] := ne_nil_of_flush_append single (by simp) whole
        have fails : isBlank '\n' = false := by decide
        simp [indented?, blank, fails, dropWhile_append_of_flush after (flush_of_append whole) rest]
      · simp [indented?, blank]

/-- The reserved name and the parameters behind the keyword of a constructor. -/
def reserved? : Reader Text := fun text =>
  (afterSpace? text).bind fun named => (after? constructorName named).bind Signature.parameters?

theorem constructor?_eq (text : Text) :
    constructor? text = (indented? text).bind fun word =>
      (after? Signature.keyword word).bind reserved? := by
  cases text with
  | nil => rfl
  | cons first rest =>
      by_cases blank : isBlank first
      · simp only [constructor?, indented?, blank, if_true]
        rfl
      · simp only [constructor?, indented?, blank]
        rfl

/-- A constructor is an indented keyword, the reserved name, parameters and a colon. -/
theorem constructor?_eq_some_iff {text parameters rest : Text} :
    constructor? text = some (parameters, rest) ↔
      ∃ indent gap unread, (indent ≠ [] ∧ ∀ c ∈ indent, isBlank c) ∧
        (gap ≠ [] ∧ ∀ c ∈ gap, isSpace c) ∧
        text = indent ++ (Signature.keyword ++ (gap ++ (constructorName ++ unread))) ∧
        Signature.parameters? unread = some (parameters, rest) := by
  simp only [constructor?_eq, reserved?, Option.bind_eq_some_iff, indented?_eq_some_iff,
    after?_eq_some_iff, afterSpace?_eq_some_iff]
  constructor
  · intro shape
    obtain ⟨_, ⟨indent, indented, blanks, rfl, _⟩, _, rfl, _, ⟨gap, nonempty, spaces, rfl, _⟩, unread,
      rfl, found⟩ := shape
    exact ⟨indent, gap, unread, ⟨indented, blanks⟩, ⟨nonempty, spaces⟩, rfl, found⟩
  · intro shape
    obtain ⟨indent, gap, unread, ⟨indented, blanks⟩, ⟨nonempty, spaces⟩, rfl, found⟩ := shape
    have keywordStops : ∀ rest, Stops isBlank (Signature.keyword ++ rest) := fun rest =>
      (stops_append (by decide)).mpr (by simp [Signature.keyword]; decide)
    have nameStops : ∀ rest, Stops isSpace (constructorName ++ rest) := fun rest =>
      (stops_append (by decide)).mpr (by simp [constructorName]; decide)
    exact ⟨_, ⟨indent, indented, blanks, rfl, keywordStops _⟩, _, rfl, _,
      ⟨gap, nonempty, spaces, rfl, nameStops _⟩, unread, rfl, found⟩

theorem constructor?_progress {text parameters rest : Text}
    (found : constructor? text = some (parameters, rest)) :
    ∃ matched, matched ≠ [] ∧ text = matched ++ rest := by
  obtain ⟨indent, gap, unread, ⟨indented, _⟩, _, rfl, read⟩ := constructor?_eq_some_iff.mp found
  obtain ⟨front, _, rfl⟩ := Signature.parameters?_suffix read
  exact ⟨indent ++ (Signature.keyword ++ (gap ++ (constructorName ++ front))), by simp [indented],
    by simp⟩

/-- A constructor stays the same when more text follows. -/
theorem constructor?_append {text parameters rest : Text}
    (found : constructor? text = some (parameters, rest)) (more : Text) :
    constructor? (text ++ more) = some (parameters, rest ++ more) := by
  obtain ⟨indent, gap, unread, indented, spaced, rfl, read⟩ := constructor?_eq_some_iff.mp found
  apply constructor?_eq_some_iff.mpr
  exact ⟨indent, gap, unread ++ more, indented, spaced, by simp, Signature.parameters?_append read more⟩

/-- Behind its indentation, a constructor starts with the keyword. -/
theorem trimLeft_of_constructor? {text : Text} (found : (constructor? text).isSome) :
    ∃ rest, trimLeft text = Signature.keyword ++ rest := by
  obtain ⟨⟨parameters, unread⟩, read⟩ := Option.isSome_iff_exists.mp found
  obtain ⟨indent, gap, named, ⟨_, blanks⟩, _, rfl, _⟩ := constructor?_eq_some_iff.mp read
  have spaces : ∀ c ∈ indent, isSpace c := fun c member => isSpace_of_isBlank (blanks c member)
  have stops : Stops isSpace (Signature.keyword ++ (gap ++ (constructorName ++ named))) :=
    (stops_append (by decide)).mpr (by simp [Signature.keyword]; decide)
  exact ⟨_, trimLeft_run spaces stops⟩

theorem reserved?_cutsAt {before after rest : Text} (nonempty : before ≠ []) (flush : Flush before)
    (trimmed : trimLeft after = Signature.keyword ++ rest) : reserved?.CutsAt before after := by
  simp only [Reader.CutsAt, reserved?, afterSpace?_append after nonempty]
  cases reached : afterSpace? before with
  | none => rfl
  | some named =>
      obtain ⟨gap, _, _, split, _⟩ := afterSpace?_eq_some_iff.mp reached
      rw [split] at flush
      cases named with
      | nil =>
          have different : after? constructorName (trimLeft after) = none := by rw [trimmed]; rfl
          simp only [Option.map_some, Option.bind_some, List.isEmpty_nil, if_true, different]
          rfl
      | cons first named =>
          simp only [Option.map_some, Option.bind_some, List.isEmpty_cons, Bool.false_eq_true,
            if_false, after?_append_of_flush after (by decide : '\n' ∉ constructorName)
              (flush_of_append flush) (by simp)]
          cases found : after? constructorName (first :: named) with
          | none => rfl
          | some unread =>
              rw [after?_eq_some_iff.mp found] at flush
              have stops : Stops isPunctuation (trimLeft after) := by
                rw [trimmed]
                exact (stops_append (by decide)).mpr (by simp [Signature.keyword]; decide)
              exact Signature.parameters?_cutsAt (flush_of_append (flush_of_append flush)) stops

/-- A constructor is cut by a line with another one: the keyword of that line goes on with nothing. -/
theorem constructor?_yieldsTo : constructor?.YieldsTo constructor? := by
  intro before after nonempty flush succeeds
  obtain ⟨rest, trimmed⟩ := trimLeft_of_constructor? succeeds
  simp only [Reader.CutsAt, constructor?_eq, indented?_append_of_flush after flush, if_neg nonempty]
  cases indented : indented? before with
  | none => rfl
  | some word =>
      obtain ⟨indent, indentNonempty, blanks, split, _⟩ := indented?_eq_some_iff.mp indented
      have single : '\n' ∉ indent := fun member => absurd (blanks _ member) (by decide)
      rw [split] at flush
      have wordFlush := flush_of_append flush
      have wordNonempty := ne_nil_of_flush_append single indentNonempty flush
      have keywordSingle : '\n' ∉ Signature.keyword := by decide
      simp only [Option.map_some, Option.bind_some,
        after?_append_of_flush after keywordSingle wordFlush wordNonempty]
      cases found : after? Signature.keyword word with
      | none => rfl
      | some spaced =>
          rw [after?_eq_some_iff.mp found] at wordFlush
          exact reserved?_cutsAt (ne_nil_of_flush_append keywordSingle (by decide) wordFlush)
            (flush_of_append wordFlush) trimmed

theorem constructor?_lawful : constructor?.Lawful := ⟨constructor?_progress, constructor?_yieldsTo⟩

/-- The first constructor of a body stays the first one when the body goes on. -/
theorem first?_constructor?_of_isPrefix {body grown parameters : Text} (longer : body <+: grown)
    (found : constructor?.first? body = some parameters) : constructor?.first? grown = some parameters := by
  obtain ⟨more, rfl⟩ := longer
  obtain ⟨later, values⟩ := Reader.values_isPrefix constructor?_lawful
    (fun read => constructor?_append read more) body
  rw [Reader.first?] at found ⊢
  rw [← values, List.head?_append, found]
  rfl

/-- A line that does not start with a name has no constructor. -/
theorem first?_constructor?_of_single {line : Text} (single : '\n' ∉ line)
    (stops : Stops isIdentifierStart (trimLeft line)) : constructor?.first? line = none := by
  have fails : constructor? line = none := by
    by_contra succeeds
    obtain ⟨rest, trimmed⟩ := trimLeft_of_constructor? (Option.isSome_iff_ne_none.mpr succeeds)
    rw [trimmed, stops_append (by decide)] at stops
    exact absurd stops (by simp [Signature.keyword]; decide)
  rw [Reader.first?, Reader.values_eq constructor?_lawful]
  by_cases empty : line = []
  · rw [empty]
    rfl
  · simp [lineTails_of_single single empty, Reader.answer, fails]

/-- White space with a line feed in it is enough for a header to end. -/
theorem headerEnd?_isSome {gap : Text} (spaces : ∀ c ∈ gap, isSpace c) (feed : '\n' ∈ gap)
    (rest : Text) : (headerEnd? (gap ++ rest)).isSome := by
  have inside : '\n' ∈ (gap ++ rest).takeWhile isSpace := by
    rw [List.takeWhile_append_of_pos spaces]
    exact List.mem_append_left _ feed
  have ends : ∀ unread, (afterGap? ((gap ++ rest).takeWhile isSpace) unread).isSome := by
    simp [afterGap?, inside]
  simp only [headerEnd?]
  split
  · split
    · rfl
    · exact ends _
  · exact ends _

/-- More text behind a header leaves its end in place, unless only white space and perhaps an
unfinished comment stand behind the colon. -/
theorem headerEnd?_append {text start : Text} (found : headerEnd? text = some start) (more : Text) :
    headerEnd? (text ++ more) = some (start ++ more) ∨
      (headerEnd? (text ++ more)).isSome ∧ '\n' ∉ start ∧ Stops isIdentifierStart (trimLeft start) := by
  obtain ⟨gap, spaces, cases⟩ := exists_gap_cases text
  rcases cases with ⟨comment, rest, single, rfl⟩ | ⟨comment, single, rfl⟩ |
    ⟨rest, stops, noComment, rfl⟩
  · left
    rw [headerEnd?_comment spaces single, Option.some.injEq] at found
    rw [← found, ← headerEnd?_comment spaces single (rest ++ more)]
    simp
  · right
    rw [headerEnd?_unfinished spaces single] at found
    obtain ⟨lines, margin, rfl, marginSingle, rfl⟩ := afterGap?_eq_some_iff.mp found
    have marginSpaces : ∀ c ∈ margin, isSpace c := fun c member => spaces c (by simp [member])
    have sign : Stops isSpace ('#' :: comment) := (stops_cons _ _ _).mpr (by decide)
    rw [trimLeft_run marginSpaces sign, List.append_assoc]
    refine ⟨headerEnd?_isSome spaces (by simp) _, by simp [marginSingle, single], ?_⟩
    exact (stops_cons _ _ _).mpr (by decide)
  · rw [headerEnd?_gap spaces stops noComment] at found
    cases rest with
    | nil =>
        right
        obtain ⟨lines, margin, rfl, marginSingle, rfl⟩ := afterGap?_eq_some_iff.mp found
        have marginSpaces : ∀ c ∈ margin, isSpace c := fun c member => spaces c (by simp [member])
        rw [trimLeft_run marginSpaces (stops_nil isSpace), List.append_assoc]
        exact ⟨headerEnd?_isSome spaces (by simp) _, by simp [marginSingle], stops_nil _⟩
    | cons first rest =>
        left
        have moreStops : Stops isSpace (first :: rest ++ more) := stops
        have moreNoComment : Stops isComment (first :: rest ++ more) := noComment
        rw [List.append_assoc, headerEnd?_gap spaces moreStops moreNoComment, afterGap?_append, found]
        rfl

/-- More text behind a class text keeps the constructor that was found. -/
theorem body?_append {text body rest : Text} (found : body? text = some (body, rest)) (more : Text) :
    ∃ grown unread, body? (text ++ more) = some (grown, unread) ∧
      ∀ parameters, constructor?.first? body = some parameters →
        constructor?.first? grown = some parameters := by
  obtain ⟨start, ends, split⟩ := Option.map_eq_some_iff.mp found
  have body_eq : body = (splitBody true start).1 := by rw [split]
  rcases headerEnd?_append ends more with same | ⟨moved, single, stops⟩
  · refine ⟨_, _, by rw [body?, same, Option.map_some], ?_⟩
    intro parameters first
    exact first?_constructor?_of_isPrefix (body_eq ▸ splitBody_isPrefix true start more) first
  · obtain ⟨start', ends'⟩ := Option.isSome_iff_exists.mp moved
    refine ⟨_, _, by rw [body?, ends', Option.map_some], ?_⟩
    have whole := splitBody_append_eq true start
    rw [← body_eq] at whole
    -- The body is the start of a line without a name, so that there is no constructor to keep.
    have bodySingle : '\n' ∉ body := fun member => single (whole ▸ List.mem_append_left _ member)
    have bodyStops : Stops isIdentifierStart (trimLeft body) := by
      by_cases blank : trimLeft body = []
      · simp [blank]
      · rw [← whole, trimLeft_append_of_ne_nil blank, stops_append blank] at stops
        exact stops
    intro parameters first
    rw [first?_constructor?_of_single bodySingle bodyStops] at first
    contradiction

end Outline.ClassText
