/-
This file states which texts are classes, and where the reading of a class is cut short.
-/

import Outline.Class
import Outline.Proofs.Function

namespace Outline

open Text

namespace Text

/-- The margin is what stands behind the last line feed. -/
theorem exists_margin {text : Text} (feed : '\n' ∈ text) :
    ∃ lines, text = lines ++ '\n' :: (text.reverse.takeWhile (· != '\n')).reverse := by
  have split := List.takeWhile_append_dropWhile (p := (· != '\n')) (l := text.reverse)
  have stops := stops_dropWhile (· != '\n') text.reverse
  cases dropped : text.reverse.dropWhile (· != '\n') with
  | nil =>
      have passes := List.dropWhile_eq_nil_iff.mp dropped '\n' (List.mem_reverse.mpr feed)
      simp at passes
  | cons first rest =>
      rw [dropped, stops_cons] at stops
      have isFeed : first = '\n' := by simpa using stops
      have whole := congrArg List.reverse split
      rw [dropped, isFeed, List.reverse_reverse] at whole
      exact ⟨rest.reverse, whole.symm.trans (by simp)⟩

end Text

namespace ClassText

/-- The text behind a gap starts behind the last line feed of the gap. -/
theorem afterGap?_eq_some_iff {gap rest start : Text} :
    afterGap? gap rest = some start ↔
      ∃ lines margin, gap = lines ++ '\n' :: margin ∧ '\n' ∉ margin ∧ start = margin ++ rest := by
  constructor
  · intro found
    by_cases feed : '\n' ∈ gap
    · obtain ⟨lines, split⟩ := exists_margin feed
      simp only [afterGap?, List.contains_eq_mem, feed, decide_true, if_true,
        Option.some.injEq] at found
      refine ⟨lines, (gap.reverse.takeWhile (· != '\n')).reverse, split, ?_, found.symm⟩
      intro member
      have passes := List.mem_takeWhile_imp (List.mem_reverse.mp member)
      simp at passes
    · simp [afterGap?, feed] at found
  · intro shape
    obtain ⟨lines, margin, rfl, single, rfl⟩ := shape
    have reversed : '\n' ∉ margin.reverse := by simpa using single
    simp [afterGap?, takeWhile_ne reversed]

theorem afterGap?_append (gap rest more : Text) :
    afterGap? gap (rest ++ more) = (afterGap? gap rest).map (· ++ more) := by
  by_cases feed : '\n' ∈ gap <;> simp [afterGap?, feed]

/-- A comment is next if the text goes on with its sign. -/
def isComment (character : Char) : Bool := character == '#'

theorem isComment_of_isIdentifierPart {character : Char} (part : isIdentifierPart character) :
    isComment character = false := by
  by_contra sign
  rw [Bool.not_eq_false, isComment, beq_iff_eq] at sign
  exact absurd (sign ▸ part) (by decide)

theorem startsBodyLine_of_isSpace {character : Char} (other : isSpace character = false) :
    startsBodyLine character = false := by
  by_contra starts
  simp only [startsBodyLine, Bool.not_eq_false, Bool.or_eq_true, beq_iff_eq] at starts
  rcases starts with blank | rfl
  · rw [isSpace_of_isBlank blank] at other
    contradiction
  · exact absurd other (by decide)

theorem headerEnd?_comment {gap comment : Text} (spaces : ∀ c ∈ gap, isSpace c)
    (single : '\n' ∉ comment) (rest : Text) :
    headerEnd? (gap ++ '#' :: (comment ++ '\n' :: rest)) = some rest := by
  have sign : Stops isSpace ('#' :: (comment ++ '\n' :: rest)) := (stops_cons _ _ _).mpr (by decide)
  simp [headerEnd?, dropWhile_run spaces sign, dropWhile_ne single]

theorem headerEnd?_unfinished {gap comment : Text} (spaces : ∀ c ∈ gap, isSpace c)
    (single : '\n' ∉ comment) : headerEnd? (gap ++ '#' :: comment) = afterGap? gap ('#' :: comment) := by
  have sign : Stops isSpace ('#' :: comment) := (stops_cons _ _ _).mpr (by decide)
  simp [headerEnd?, dropWhile_run spaces sign, takeWhile_run spaces sign, dropWhile_ne_eq_nil single]

theorem headerEnd?_gap {gap rest : Text} (spaces : ∀ c ∈ gap, isSpace c)
    (stops : Stops isSpace rest) (noComment : Stops isComment rest) :
    headerEnd? (gap ++ rest) = afterGap? gap rest := by
  simp only [headerEnd?, takeWhile_run spaces stops, dropWhile_run spaces stops]
  cases rest with
  | nil => rfl
  | cons first rest =>
      have different : first ≠ '#' := by simpa [isComment] using noComment
      simp [different]

/-- Behind a gap there is a comment that ends, a comment that does not end, or no comment. -/
theorem exists_gap_cases (text : Text) :
    ∃ gap, (∀ c ∈ gap, isSpace c) ∧
      ((∃ comment rest, '\n' ∉ comment ∧ text = gap ++ '#' :: (comment ++ '\n' :: rest)) ∨
        (∃ comment, '\n' ∉ comment ∧ text = gap ++ '#' :: comment) ∨
        ∃ rest, Stops isSpace rest ∧ Stops isComment rest ∧ text = gap ++ rest) := by
  obtain ⟨gap, spaces, split, stops⟩ := exists_gap text
  refine ⟨gap, spaces, ?_⟩
  by_cases noComment : Stops isComment (trimLeft text)
  · exact Or.inr (Or.inr ⟨_, stops, noComment, split⟩)
  · cases rest : trimLeft text with
    | nil => simp [rest] at noComment
    | cons first comment =>
        have sign : first = '#' := by simpa [rest, isComment] using noComment
        rw [rest, sign] at split
        by_cases feed : '\n' ∈ comment
        · obtain ⟨front, back, rfl, single⟩ := List.eq_append_cons_of_mem feed
          exact Or.inl ⟨front, back, single, split⟩
        · exact Or.inr (Or.inl ⟨comment, feed, split⟩)

theorem afterGap?_split {gap rest start : Text} (found : afterGap? gap rest = some start) :
    ∃ header, header ≠ [] ∧ Flush header ∧ gap ++ rest = header ++ start := by
  obtain ⟨lines, margin, rfl, _, rfl⟩ := afterGap?_eq_some_iff.mp found
  exact ⟨lines ++ ['\n'], by simp, flush_line lines, by simp⟩

/-- The end of a header is behind whole lines. -/
theorem headerEnd?_split {text start : Text} (found : headerEnd? text = some start) :
    ∃ header, header ≠ [] ∧ Flush header ∧ text = header ++ start := by
  obtain ⟨gap, spaces, cases⟩ := exists_gap_cases text
  rcases cases with ⟨comment, rest, single, rfl⟩ | ⟨comment, single, rfl⟩ | ⟨rest, stops, noComment, rfl⟩
  · rw [headerEnd?_comment spaces single, Option.some.injEq] at found
    exact ⟨(gap ++ '#' :: comment) ++ ['\n'], by simp, flush_line _, by simp [found]⟩
  · rw [headerEnd?_unfinished spaces single] at found
    exact afterGap?_split found
  · rw [headerEnd?_gap spaces stops noComment] at found
    exact afterGap?_split found

/-- The end of a header is cut by a text that starts with neither white space nor a comment. -/
theorem headerEnd?_append_of_flush {before after : Text} (flush : Flush before)
    (stops : Stops isSpace after) (noComment : Stops isComment after) :
    headerEnd? (before ++ after) = (headerEnd? before).map (· ++ after) := by
  obtain ⟨gap, spaces, cases⟩ := exists_gap_cases before
  rcases cases with ⟨comment, rest, single, rfl⟩ | ⟨comment, single, rfl⟩ |
    ⟨rest, restStops, restNoComment, rfl⟩
  · rw [headerEnd?_comment spaces single, List.append_assoc, List.cons_append, List.append_assoc,
      List.cons_append, headerEnd?_comment spaces single, Option.map_some]
  · -- A comment that does not end leaves its text short of a line feed.
    have feed := newline_mem_of_flush (flush_of_append flush) (by simp)
    simp [single] at feed
  · have wholeStops : Stops isSpace (rest ++ after) ∧ Stops isComment (rest ++ after) := by
      cases rest with
      | nil => exact ⟨stops, noComment⟩
      | cons first rest => exact ⟨restStops, restNoComment⟩
    rw [List.append_assoc, headerEnd?_gap spaces wholeStops.1 wholeStops.2,
      headerEnd?_gap spaces restStops restNoComment, afterGap?_append]

theorem splitBody_cons (lineStart : Bool) (character : Char) (rest : Text) :
    splitBody lineStart (character :: rest) =
      if lineStart && !startsBodyLine character then ([], character :: rest)
      else (character :: (splitBody (character == '\n') rest).1, (splitBody (character == '\n') rest).2) :=
  rfl

theorem splitBody_append_eq (lineStart : Bool) (text : Text) :
    (splitBody lineStart text).1 ++ (splitBody lineStart text).2 = text := by
  induction text generalizing lineStart with
  | nil => rfl
  | cons character rest inductionHypothesis =>
      rw [splitBody_cons]
      split
      · rfl
      · rw [List.cons_append, inductionHypothesis]

/-- A body is cut where a line starts that does not belong to it. -/
theorem splitBody_append {lineStart : Bool} {before after : Text}
    (starts : startsLine lineStart before) (outside : Stops startsBodyLine after) :
    splitBody lineStart (before ++ after) =
      ((splitBody lineStart before).1, (splitBody lineStart before).2 ++ after) := by
  induction before generalizing lineStart with
  | nil =>
      have started : lineStart = true := starts
      cases after with
      | nil => rfl
      | cons first after =>
          rw [stops_cons] at outside
          simp [splitBody, started, outside]
  | cons character before inductionHypothesis =>
      rw [startsLine_cons] at starts
      rw [List.cons_append, splitBody_cons, splitBody_cons, inductionHypothesis starts]
      split <;> rfl

/-- More text behind a body can only make it longer. -/
theorem splitBody_isPrefix (lineStart : Bool) (text more : Text) :
    (splitBody lineStart text).1 <+: (splitBody lineStart (text ++ more)).1 := by
  induction text generalizing lineStart with
  | nil => exact List.nil_prefix
  | cons character rest inductionHypothesis =>
      rw [List.cons_append, splitBody_cons, splitBody_cons]
      split
      · exact List.nil_prefix
      · exact (List.prefix_cons_inj character).mpr (inductionHypothesis _)

theorem splitBody_false_of_single {line : Text} (single : '\n' ∉ line) :
    splitBody false line = (line, []) := by
  induction line with
  | nil => rfl
  | cons character line inductionHypothesis =>
      obtain ⟨different, later⟩ := List.ne_and_not_mem_of_not_mem_cons single
      have other : (character == '\n') = false := by simpa using Ne.symm different
      rw [splitBody_cons, other, inductionHypothesis later]
      rfl

/-- A line that belongs to a body is the whole body if nothing follows it. -/
theorem splitBody_of_single {line : Text} (single : '\n' ∉ line)
    (inside : ∀ first ∈ line.head?, startsBodyLine first) : splitBody true line = (line, []) := by
  cases line with
  | nil => rfl
  | cons first line =>
      obtain ⟨different, later⟩ := List.ne_and_not_mem_of_not_mem_cons single
      have other : (first == '\n') = false := by simpa using Ne.symm different
      rw [splitBody_cons, other, splitBody_false_of_single later, inside first rfl]
      rfl

/-- The body of a class behind the colon of its header. -/
def body? : Reader Text := fun text => (headerEnd? text).map (splitBody true)

theorem body?_cutsAt {before after : Text} (flush : Flush before) (stops : Stops isSpace after)
    (noComment : Stops isComment after) (outside : Stops startsBodyLine after) :
    body?.CutsAt before after := by
  simp only [Reader.CutsAt, body?, headerEnd?_append_of_flush flush stops noComment]
  cases found : headerEnd? before with
  | none => rfl
  | some start =>
      obtain ⟨header, _, _, split⟩ := headerEnd?_split found
      rw [split] at flush
      have starts := startsLine_of_flush (flush_of_append flush)
      simp only [Option.map_some, splitBody_append starts outside]
      rfl

/-- Line feeds behind a header end it and leave its body empty. -/
theorem body?_feeds {ending : Text} (feeds : ∀ c ∈ ending, c = '\n') (nonempty : ending ≠ []) :
    body? ending = some ([], []) := by
  have spaces : ∀ c ∈ ending, isSpace c := by
    intro c member
    rw [feeds c member]
    decide
  have ends : headerEnd? ending = some [] := by
    obtain ⟨front, last, split⟩ := (List.eq_nil_or_concat ending).resolve_left nonempty
    have isFeed : last = '\n' := feeds last (by simp [split])
    have gap := headerEnd?_gap spaces (stops_nil isSpace) (stops_nil isComment)
    rw [List.append_nil] at gap
    rw [gap]
    exact afterGap?_eq_some_iff.mpr ⟨front, [], by simp [split, isFeed], by simp, rfl⟩
  rw [body?, ends]
  rfl

/-- The optional bases of a class and the colon of its header. -/
def opening? : Reader (Option Text) := fun text =>
  (bases? (trimLeft text)).bind fun found => colon? found.1 found.2

theorem opening?_bases {text opened : Text} (opens : trimLeft text = '(' :: opened) :
    opening? text = (Signature.parameters? text).map (Prod.map some id) := by
  simp only [opening?, Signature.parameters?_eq, opens, bases?, Option.bind_map, colon?]
  cases parenthesised? ('(' :: opened) with
  | none => rfl
  | some found =>
      simp only [Option.bind_some, Function.comp_apply]
      cases after? [':'] (trimLeft found.2) <;> rfl

theorem opening?_of_closed {text : Text} (closed : Stops (· == '(') (trimLeft text)) :
    opening? text = colon? none (trimLeft text) := by
  have none' : bases? (trimLeft text) = some (none, trimLeft text) := by
    cases rest : trimLeft text with
    | nil => rfl
    | cons first rest' =>
        have different : first ≠ '(' := by simpa [rest] using closed
        simp [bases?, different]
  rw [opening?, none', Option.bind_some]

theorem opening?_eq_none {text : Text} (stops : Stops isPunctuation (trimLeft text)) :
    opening? text = none := by
  rw [opening?_of_closed (stops_of_stops_isPunctuation stops).1, colon?_of_stops none stops]

/-- The header goes on with bases that read like parameters, or with the colon. -/
theorem opening?_eq_some_iff {text rest : Text} {bases : Option Text} :
    opening? text = some (bases, rest) ↔
      (∃ inside, bases = some inside ∧ Signature.parameters? text = some (inside, rest)) ∨
        bases = none ∧ trimLeft text = ':' :: rest := by
  by_cases closed : Stops (· == '(') (trimLeft text)
  · simp only [opening?_of_closed closed, colon?, Option.bind_eq_some_iff, after?_eq_some_iff,
      Signature.parameters?_of_closed closed]
    constructor
    · intro shape
      obtain ⟨unread, split, same⟩ := shape
      obtain ⟨rfl, rfl⟩ := Prod.mk.inj (Option.some.inj same)
      exact Or.inr ⟨rfl, split⟩
    · intro shape
      rcases shape with ⟨_, _, found⟩ | ⟨rfl, split⟩
      · contradiction
      · exact ⟨rest, split, rfl⟩
  · cases opened : trimLeft text with
    | nil => simp [opened] at closed
    | cons first opened' =>
        have opens : first = '(' := by simpa [opened] using closed
        rw [opens] at opened
        rw [opening?_bases opened, Option.map_eq_some_iff, Prod.exists]
        constructor
        · intro shape
          obtain ⟨inside, unread, found, same⟩ := shape
          obtain ⟨rfl, rfl⟩ := Prod.mk.inj same
          exact Or.inl ⟨inside, rfl, found⟩
        · intro shape
          rcases shape with ⟨inside, rfl, found⟩ | ⟨_, split⟩
          · exact ⟨inside, rest, found, rfl⟩
          · simp [opens] at split

theorem opening?_append {text rest : Text} {bases : Option Text}
    (found : opening? text = some (bases, rest)) (more : Text) :
    opening? (text ++ more) = some (bases, rest ++ more) := by
  apply opening?_eq_some_iff.mpr
  rcases opening?_eq_some_iff.mp found with ⟨inside, rfl, parameters⟩ | ⟨rfl, split⟩
  · exact Or.inl ⟨inside, rfl, Signature.parameters?_append parameters more⟩
  · right
    rw [trimLeft_append_of_ne_nil (by simp [split]), split]
    exact ⟨rfl, rfl⟩

theorem opening?_suffix {text rest : Text} {bases : Option Text}
    (found : opening? text = some (bases, rest)) : ∃ front, front ≠ [] ∧ text = front ++ rest := by
  rcases opening?_eq_some_iff.mp found with ⟨inside, _, parameters⟩ | ⟨_, split⟩
  · exact Signature.parameters?_suffix parameters
  · obtain ⟨gap, _, whole, _⟩ := exists_gap text
    rw [split] at whole
    exact ⟨gap ++ [':'], by simp, by simpa using whole⟩

theorem opening?_cutsAt {before after : Text} (flush : Flush before)
    (stops : Stops isPunctuation (trimLeft after)) : opening?.CutsAt before after := by
  have trimmed : Flush (trimLeft before) := flush_dropWhile isSpace flush
  cases rest : trimLeft before with
  | nil =>
      have whole := trimLeft_append_of_eq_nil rest after
      rw [Reader.CutsAt, opening?_eq_none (whole ▸ stops), opening?_eq_none (by simp [rest])]
      rfl
  | cons first opened =>
      have whole := trimLeft_append_of_ne_nil (by simp [rest] : trimLeft before ≠ []) after
      by_cases opens : first = '('
      · rw [opens] at rest
        have cuts := (Signature.parameters?_cutsAt flush stops).map some
        rw [Reader.CutsAt, opening?_bases rest, opening?_bases (whole.trans (by rw [rest]; rfl))]
        exact cuts
      · have closed : Stops (· == '(') (trimLeft before) := by simpa [rest] using opens
        have closedAfter : Stops (· == '(') (trimLeft (before ++ after)) := by
          rw [whole]
          exact (stops_append (by simp [rest])).mpr closed
        rw [Reader.CutsAt, opening?_of_closed closed, opening?_of_closed closedAfter, whole]
        exact colon?_cutsAt none after (by simp [rest]) trimmed

/-- The part of a class text behind its name. -/
def remainder? (name : Text) : Reader ClassText := fun text =>
  (opening? text).bind fun opened =>
    (body? opened.2).map (Prod.map (ClassText.mk name opened.1) id)

theorem read?_eq (text : Text) :
    read? text = (heading? keyword text).bind fun named => remainder? named.1 named.2 := by
  simp only [read?, heading?, remainder?, opening?, body?, colon?, Option.bind_assoc,
    Option.map_eq_bind]
  rfl

theorem remainder?_eq_some_iff {name text rest : Text} {found : ClassText} :
    remainder? name text = some (found, rest) ↔
      found.name = name ∧ ∃ unread, opening? text = some (found.bases, unread) ∧
        body? unread = some (found.body, rest) := by
  simp only [remainder?, Option.bind_eq_some_iff, Option.map_eq_some_iff, Prod.exists, Prod.map,
    Prod.mk.injEq, id]
  constructor
  · intro shape
    obtain ⟨bases, unread, opened, body, rest', read, rfl, rfl⟩ := shape
    exact ⟨rfl, unread, opened, read⟩
  · intro shape
    obtain ⟨rfl, unread, opened, read⟩ := shape
    exact ⟨found.bases, unread, opened, found.body, rest, read, rfl, rfl⟩

/-- A class text is a keyword, a name, optional bases, a colon, the end of the line and a body. -/
theorem read?_eq_some_iff {text rest : Text} {found : ClassText} :
    read? text = some (found, rest) ↔
      ∃ named unread, heading? keyword text = some (found.name, named) ∧
        opening? named = some (found.bases, unread) ∧ body? unread = some (found.body, rest) := by
  simp only [read?_eq, Option.bind_eq_some_iff, Prod.exists, remainder?_eq_some_iff]
  constructor
  · intro shape
    obtain ⟨name, named, heading, rfl, unread, opened, body⟩ := shape
    exact ⟨named, unread, heading, opened, body⟩
  · intro shape
    obtain ⟨named, unread, heading, opened, body⟩ := shape
    exact ⟨found.name, named, heading, rfl, unread, opened, body⟩

theorem body?_suffix {text body rest : Text} (found : body? text = some (body, rest)) :
    ∃ header, header ≠ [] ∧ Flush header ∧ text = header ++ (body ++ rest) := by
  obtain ⟨start, ends, split⟩ := Option.map_eq_some_iff.mp found
  obtain ⟨header, nonempty, flush, rfl⟩ := headerEnd?_split ends
  have whole := splitBody_append_eq true start
  rw [split] at whole
  exact ⟨header, nonempty, flush, by rw [← whole]⟩

theorem read?_progress {text rest : Text} {found : ClassText}
    (read : read? text = some (found, rest)) : ∃ matched, matched ≠ [] ∧ text = matched ++ rest := by
  obtain ⟨named, unread, heading, opened, body⟩ := read?_eq_some_iff.mp read
  obtain ⟨⟨gap, _, _, rfl⟩, _⟩ := heading?_eq_some_iff.mp heading
  obtain ⟨front, nonempty, rfl⟩ := opening?_suffix opened
  obtain ⟨header, _, _, rfl⟩ := body?_suffix body
  exact ⟨keyword ++ (gap ++ (found.name ++ (front ++ (header ++ found.body)))), by simp [nonempty],
    by simp⟩

theorem remainder?_cutsAt (name : Text) {before after : Text} (flush : Flush before)
    (stops : Stops isSpace after) (noPunctuation : Stops isPunctuation after)
    (noComment : Stops isComment after) (outside : Stops startsBodyLine after) :
    (remainder? name).CutsAt before after := by
  have openingCuts : opening?.CutsAt before after :=
    opening?_cutsAt flush (by rwa [trimLeft_of_stops stops])
  refine openingCuts.bind (fun bases text =>
    (body? text).map (Prod.map (ClassText.mk name bases) id)) fun opened => ?_
  obtain ⟨front, _, split⟩ := opening?_suffix opened
  rw [split] at flush
  exact (body?_cutsAt (flush_of_append flush) stops noComment outside).map _

end ClassText

end Outline
