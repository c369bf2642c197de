/-
This file states that the reader of classes agrees with the pattern of class headers. The body of a class is read
line by line, and where it starts is found by backtracking.
-/

import Outline.Proofs.ClassGrammar
import Outline.Proofs.Recognizer

namespace Outline.Pattern

open Text ClassText

variable {passed read rest : Text} {groups : List (Nat × Text)}

theorem matches_bases : (sequence bases).Matches passed read rest groups ↔ ∃ listed,
    opening? (read ++ rest) = some (listed, rest) ∧ groups = (listed.map fun inside => (2, inside)).toList := by
  simp only [bases, spells_spaces.matches_cons, matches_optional, List.cons_append, List.nil_append,
    matches_sign, spells_enclosed.matches_group, matches_nil, opening?_iff_spelled]
  constructor
  · intro shape
    obtain ⟨gap, _, rfl, spaces, ⟨_, rfl, inside, _, _, rfl, rfl, isInside, _, rfl, closing, _, rfl,
      closingSpaces, _, rfl, rfl, rfl⟩ | ⟨_, rfl, rfl, rfl⟩⟩ := shape
    · obtain ⟨unclosed, single⟩ := inside_iff.mp isInside
      exact ⟨some inside, ⟨gap, _, spaces, .listed unclosed single closingSpaces, by simp⟩, rfl⟩
    · exact ⟨none, ⟨gap, [], spaces, .absent, by simp⟩, rfl⟩
  · intro shape
    obtain ⟨listed, ⟨gap, spelled, spaces, listing, split⟩, rfl⟩ := shape
    have whole : read = gap ++ (spelled ++ [':']) := List.append_cancel_right (split.trans (by simp))
    cases listing with
    | absent => exact ⟨gap, [':'], whole, spaces, Or.inr ⟨[], rfl, rfl, rfl⟩⟩
    | @listed inside closing unclosed single closingSpaces =>
        have shape : read = gap ++ '(' :: (inside ++ ')' :: (closing ++ [':'])) := by simpa using whole
        exact ⟨gap, _, shape, spaces, Or.inl ⟨_, rfl, inside, _, [], rfl, rfl, inside_iff.mpr ⟨unclosed, single⟩,
          _, rfl, closing, _, rfl, closingSpaces, [], rfl, rfl, rfl⟩⟩

theorem matches_lineFeed_or_textEnd : (sequence [alt (sign '\n') textEnd]).Matches passed read rest groups ↔
    (read = ['\n'] ∨ read = [] ∧ rest = []) ∧ groups = [] := by
  constructor
  · intro shape
    obtain ⟨_, _, _, _, rfl, rfl, here, ⟨rfl, rfl⟩⟩ := shape
    rcases here with here | ⟨ends, rfl, rfl⟩
    · obtain ⟨rfl, rfl⟩ := (spells_sign _ _ _ _ _).mp here
      simp
    · simpa using ends
  · intro shape
    obtain ⟨rfl | ⟨rfl, rfl⟩, rfl⟩ := shape
    · exact ⟨_, [], [], [], rfl, rfl, Or.inl ((spells_sign _ _ _ _ _).mpr ⟨rfl, rfl⟩), ⟨rfl, rfl⟩⟩
    · exact ⟨[], [], [], [], rfl, rfl, Or.inr ⟨rfl, rfl, rfl⟩, ⟨rfl, rfl⟩⟩

/-- A whole line ends with its line feed, or else with the text. -/
def WholeLine (line rest : Text) : Prop :=
  ∃ front, '\n' ∉ front ∧ (line = front ++ ['\n'] ∨ line = front ∧ rest = [])

/-- The text alone says where its first line ends. -/
theorem WholeLine.eq {line rest : Text} (whole : WholeLine line rest) :
    line = (line ++ rest).takeWhile (· != '\n') ++ ((line ++ rest).dropWhile (· != '\n')).take 1 := by
  obtain ⟨front, single, rfl | ⟨rfl, rfl⟩⟩ := whole
  · rw [List.append_assoc, List.singleton_append, takeWhile_ne single, dropWhile_ne single]
    simp
  · rw [List.append_nil, dropWhile_ne_eq_nil single, List.takeWhile_eq_self_iff.mpr (run_of_not_mem single)]
    simp

theorem WholeLine.unique {line other rest rest' : Text} (whole : WholeLine line rest)
    (whole' : WholeLine other rest') (same : line ++ rest = other ++ rest') : line = other ∧ rest = rest' := by
  have lines : line = other := by rw [whole.eq, same, ← whole'.eq]
  rw [lines] at same
  exact ⟨lines, List.append_cancel_left same⟩

theorem exists_wholeLine (first : Char) (rest : Text) :
    ∃ line after, WholeLine (first :: line) after ∧ rest = line ++ after := by
  by_cases feed : '\n' ∈ first :: rest
  · obtain ⟨front, after, split, single⟩ := List.eq_append_cons_of_mem feed
    cases front with
    | nil =>
        obtain ⟨rfl, rfl⟩ := List.cons.inj split
        exact ⟨[], rest, ⟨[], single, Or.inl rfl⟩, rfl⟩
    | cons other front =>
        obtain ⟨rfl, rfl⟩ := List.cons.inj split
        exact ⟨front ++ ['\n'], after, ⟨first :: front, single, Or.inl rfl⟩, by simp⟩
  · exact ⟨rest, [], ⟨first :: rest, feed, Or.inr ⟨rfl, rfl⟩⟩, by simp⟩

/-- A line of a body is matched as a whole, with the line feed that ends it. -/
theorem matches_bodyLine (starts : startsLine passed) : bodyLine.Matches passed read rest groups ↔
    (∃ first ∈ read.head?, startsBodyLine first) ∧ WholeLine read rest ∧ groups = [] := by
  simp only [bodyLine, Matches, anchors_lineStart.matches_cons, starts, true_and, blank, inLine,
    (spells_many _).matches_cons, (spells_repeated _).matches_cons, matches_sign, matches_nil,
    matches_lineFeed_or_textEnd]
  constructor
  · intro shape
    rcases shape with ⟨blanks, _, rfl, areBlanks, _, rfl, rfl, rfl⟩ |
      ⟨blanks, _, rfl, ⟨nonempty, areBlanks⟩, line, ending, rfl, inside, ends, rfl⟩
    · have single : '\n' ∉ blanks := fun feed => isBlank_ne_newline (areBlanks _ feed) rfl
      refine ⟨?_, ⟨blanks, single, Or.inl (by simp)⟩, rfl⟩
      cases blanks with
      | nil => exact ⟨'\n', rfl, by decide⟩
      | cons first blanks => exact ⟨first, rfl, by simp [startsBodyLine, areBlanks first List.mem_cons_self]⟩
    · obtain ⟨first, blanks, rfl⟩ := List.exists_cons_of_ne_nil nonempty
      have single : '\n' ∉ first :: blanks ++ line := by
        rw [List.mem_append]
        rintro (feed | feed)
        · exact isBlank_ne_newline (areBlanks _ feed) rfl
        · exact absurd (inside _ feed) (by decide)
      refine ⟨⟨first, rfl, by simp [startsBodyLine, areBlanks first List.mem_cons_self]⟩,
        ⟨first :: blanks ++ line, single, ?_⟩, rfl⟩
      rcases ends with rfl | ⟨rfl, ends⟩
      · exact Or.inl (by simp)
      · exact Or.inr ⟨by simp, by simpa using ends⟩
  · intro shape
    obtain ⟨⟨first, isFirst, starts⟩, ⟨line, single, shape⟩, rfl⟩ := shape
    cases line with
    | nil =>
        rcases shape with rfl | ⟨rfl, rfl⟩
        · exact Or.inl ⟨[], _, rfl, by simp, [], rfl, rfl, rfl⟩
        · simp at isFirst
    | cons other line =>
        obtain rfl : first = other := by rcases shape with rfl | ⟨rfl, rfl⟩ <;> simpa using isFirst.symm
        obtain ⟨different, later⟩ := List.ne_and_not_mem_of_not_mem_cons single
        have isBlank : isBlank first := by simpa [startsBodyLine, Ne.symm different] using starts
        have inside : ∀ c ∈ line, (c != '\n') = true := run_of_not_mem later
        rcases shape with rfl | ⟨rfl, rfl⟩
        · exact Or.inr ⟨[first], _, rfl, by simpa using isBlank, line, ['\n'], rfl, inside, Or.inl rfl, rfl⟩
        · exact Or.inr ⟨[first], line, rfl, by simpa using isBlank, line, [], by simp, inside, Or.inr ⟨rfl, rfl⟩,
            rfl⟩

theorem splitBody_line {line : Text} (single : '\n' ∉ line)
    (starts : ∀ first ∈ line.head?, startsBodyLine first) (after : Text) :
    splitBody true (line ++ '\n' :: after) =
      (line ++ '\n' :: (splitBody true after).1, (splitBody true after).2) := by
  have inside : ∀ {line : Text}, '\n' ∉ line → splitBody false (line ++ '\n' :: after) =
      (line ++ '\n' :: (splitBody true after).1, (splitBody true after).2) := by
    intro line single
    induction line with
    | nil => rfl
    | cons character line inductionHypothesis =>
        obtain ⟨different, later⟩ := List.ne_and_not_mem_of_not_mem_cons single
        have other : (character == '\n') = false := by simpa using Ne.symm different
        rw [List.cons_append, splitBody_cons, other, inductionHypothesis later]
        rfl
  cases line with
  | nil => rfl
  | cons first line =>
      obtain ⟨different, later⟩ := List.ne_and_not_mem_of_not_mem_cons single
      have other : (first == '\n') = false := by simpa using Ne.symm different
      rw [List.cons_append, splitBody_cons, starts first rfl, other, inside later]
      rfl

theorem splitBody_wholeLine {line after : Text} (whole : WholeLine line after)
    (starts : ∀ first ∈ line.head?, startsBodyLine first) :
    splitBody true (line ++ after) = (line ++ (splitBody true after).1, (splitBody true after).2) := by
  obtain ⟨front, single, rfl | ⟨rfl, rfl⟩⟩ := whole
  · have inside : ∀ first ∈ front.head?, startsBodyLine first := by
      intro first isFirst
      cases front with
      | nil => simp at isFirst
      | cons other front => exact starts first isFirst
    simpa using splitBody_line single inside after
  · simpa [splitBody] using splitBody_of_single single starts

section

variable {β : Type} {next : State → Option β}

theorem run_bodyLine_nil : bodyLine.run next ⟨passed, [], groups⟩ = none := by
  simp [bodyLine, sequence, sign, repeated, blank, run, iterate]

theorem run_bodyLine_of_outside {first : Char} (starts : startsLine passed)
    (outside : ¬startsBodyLine first) : bodyLine.run next ⟨passed, first :: rest, groups⟩ = none := by
  by_contra succeeds
  obtain ⟨result, found⟩ := Option.ne_none_iff_exists'.mp succeeds
  obtain ⟨read, unread, _, split, here, _⟩ := run_sound bodyLine found
  obtain ⟨⟨other, isFirst, inside⟩, _, _⟩ := (matches_bodyLine starts).mp here
  obtain ⟨read, rfl⟩ : ∃ tail, read = other :: tail := by
    cases read <;> simp_all
  obtain rfl : first = other := (List.cons.inj split).1
  exact outside inside

/-- Whatever comes next, the search reads a line of a body to its end. -/
theorem run_bodyLine {line : Text} (starts : startsLine passed)
    (inside : ∃ first ∈ line.head?, startsBodyLine first)
    (whole : WholeLine line rest) :
    bodyLine.run next ⟨passed, line ++ rest, groups⟩ = next ⟨passed ++ line, rest, groups⟩ := by
  have here : bodyLine.Matches passed line rest [] := (matches_bodyLine starts).mpr ⟨inside, whole, rfl⟩
  have only : (bodyLine.run next ⟨passed, line ++ rest, groups⟩).map id =
      next ⟨passed ++ line, rest, groups⟩ := by
    apply map_run_eq
    · intro read unread found split other
      obtain ⟨_, whole', rfl⟩ := (matches_bodyLine starts).mp other
      obtain ⟨rfl, rfl⟩ := whole.unique whole' split
      simp
    · exact fun _ => ⟨line, rest, [], rfl, here⟩
  simpa using only

/-- The body is read line by line, as far as its lines go. -/
theorem iterate_bodyLine (succeeds : ∀ state, (next state).isSome) {text : Text} {fuel : Nat}
    (enough : text.length ≤ fuel) (place : startsLine passed ∨ text = []) :
    iterate bodyLine.run next fuel ⟨passed, text, groups⟩ =
      next ⟨passed ++ (splitBody true text).1, (splitBody true text).2, groups⟩ := by
  induction fuel generalizing passed text with
  | zero =>
      obtain rfl : text = [] := List.length_eq_zero_iff.mp (Nat.le_zero.mp enough)
      simp [iterate, splitBody]
  | succ fuel inductionHypothesis =>
      cases text with
      | nil => simp [iterate, run_bodyLine_nil, splitBody]
      | cons first rest =>
          have starts : startsLine passed := by simpa using place
          by_cases inside : startsBodyLine first
          · obtain ⟨line, after, whole, rfl⟩ := exists_wholeLine first rest
            have goesOn : startsLine (passed ++ first :: line) ∨ after = [] := by
              obtain ⟨front, _, shape | ⟨_, ends⟩⟩ := whole
              · exact Or.inl (by simp [shape, startsLine])
              · exact Or.inr ends
            have shorter : after.length < (first :: line ++ after).length := by
              rw [List.length_append, List.length_cons]
              omega
            rw [List.length_cons, List.length_append] at enough
            rw [iterate, ← List.cons_append, run_bodyLine starts ⟨first, rfl, inside⟩ whole, if_pos shorter,
              inductionHypothesis (by omega) goesOn, Option.or_of_isSome (succeeds _),
              splitBody_wholeLine whole (by simpa using inside), List.append_assoc]
          · rw [iterate, run_bodyLine_of_outside starts inside, Option.none_or, splitBody_cons]
            simp [inside]

end

/-- What is left of a state once it is forgotten what was passed. -/
def State.seen (state : State) : List (Nat × Text) × Text := (state.groups, state.rest)

/-- A body that starts here, captured in its group. -/
def bodyFrom (groups : List (Nat × Text)) (start : Text) : List (Nat × Text) × Text :=
  ((3, (splitBody true start).1) :: groups, (splitBody true start).2)

theorem run_body {start : Text} (starts : startsLine passed) :
    (run (group 3 (many bodyLine)) some ⟨passed, start, groups⟩).map State.seen =
      some (bodyFrom groups start) := by
  have body := @iterate_bodyLine passed groups State
    (fun after => some { after with groups := (3, after.passed.drop passed.length) :: after.groups })
    (fun _ => rfl) start start.length (Nat.le_refl _) (Or.inl starts)
  change (iterate bodyLine.run _ start.length ⟨passed, start, groups⟩).map State.seen = _
  rw [body]
  simp [State.seen, bodyFrom]

/-- The header ends with a line feed, and the body starts behind it. -/
def endsHeader : State → Option State := run (sequence [sign '\n', group 3 (many bodyLine)]) some

theorem endsHeader_of_ne {first : Char} (other : first ≠ '\n') :
    endsHeader ⟨passed, first :: rest, groups⟩ = none := by
  have different : (first == '\n') = false := by simpa using other
  change (if first == '\n' then _ else none) = _
  rw [different]
  rfl

theorem endsHeader_eq {text : Text} : (endsHeader ⟨passed, text, groups⟩).map State.seen =
    (after? ['\n'] text).map (bodyFrom groups) := by
  cases text with
  | nil => rfl
  | cons first start =>
      by_cases feed : first = '\n'
      · subst feed
        exact run_body (by simp [startsLine])
      · rw [endsHeader_of_ne feed]
        simp [after?, List.isPrefixOf?, Ne.symm feed]

theorem run_comment {text : Text} :
    (run (seq (sign '#') (many inLine)) endsHeader ⟨passed, '#' :: text, groups⟩).map State.seen =
      (after? ['\n'] (text.dropWhile (· != '\n'))).map (bodyFrom groups) := by
  change ((many inLine).run endsHeader ⟨passed ++ ['#'], text, groups⟩).map State.seen = _
  rw [inLine, run_many_of_fails, endsHeader_eq]
  intro passed first rest other
  exact endsHeader_of_ne (by simpa using other)

theorem run_comment_of_ne {first : Char} (other : first ≠ '#') :
    run (seq (sign '#') (many inLine)) endsHeader ⟨passed, first :: rest, groups⟩ = none := by
  have different : (first == '#') = false := by simpa using other
  change (if first == '#' then _ else none) = _
  rw [different]
  rfl

theorem afterGap?_cons (first : Char) (gap rest : Text) :
    afterGap? (first :: gap) rest = (afterGap? gap rest).or (after? ['\n'] (first :: (gap ++ rest))) := by
  cases inner : afterGap? gap rest with
  | some start =>
      obtain ⟨lines, margin, rfl, last, rfl⟩ := afterGap?_eq_some_iff.mp inner
      exact afterGap?_eq_some_iff.mpr ⟨first :: lines, margin, rfl, last, rfl⟩
  | none =>
      have single : '\n' ∉ gap := by simpa [afterGap?] using inner
      by_cases feed : first = '\n'
      · subst feed
        exact afterGap?_eq_some_iff.mpr ⟨[], gap, rfl, single, rfl⟩
      · simp [afterGap?, single, after?, List.isPrefixOf?, Ne.symm feed]

/-- White space in front counts only if there is no line feed, and no comment, behind it. -/
theorem headerEnd?_cons_of_isSpace {first : Char} (space : isSpace first) (text : Text) :
    headerEnd? (first :: text) = (headerEnd? text).or (after? ['\n'] (first :: text)) := by
  obtain ⟨gap, spaces, cases⟩ := exists_gap_cases text
  have more : ∀ c ∈ first :: gap, isSpace c := List.forall_mem_cons.mpr ⟨space, spaces⟩
  rcases cases with ⟨comment, rest, single, rfl⟩ | ⟨comment, single, rfl⟩ | ⟨rest, stops, noComment, rfl⟩
  · rw [← List.cons_append, headerEnd?_comment more single, headerEnd?_comment spaces single, Option.some_or]
  · rw [← List.cons_append, headerEnd?_unfinished more single, headerEnd?_unfinished spaces single,
      afterGap?_cons]
    rfl
  · rw [← List.cons_append, headerEnd?_gap more stops noComment, headerEnd?_gap spaces stops noComment,
      afterGap?_cons]
    rfl

theorem headerEnd?_comment_of_start (text : Text) :
    headerEnd? ('#' :: text) = after? ['\n'] (text.dropWhile (· != '\n')) := by
  by_cases feed : '\n' ∈ text
  · obtain ⟨comment, rest, rfl, single⟩ := List.eq_append_cons_of_mem feed
    rw [dropWhile_ne single]
    exact headerEnd?_comment (List.forall_mem_nil _) single rest
  · rw [dropWhile_ne_eq_nil feed]
    exact headerEnd?_unfinished (List.forall_mem_nil _) feed

/-- The search and the reader agree on the line feed that ends the header. -/
theorem run_classBody {text : Text} : (run (sequence classBody) some ⟨passed, text, groups⟩).map State.seen =
    (headerEnd? text).map (bodyFrom groups) := by
  -- By induction on the white space in front: a character of it is given back if nothing behind it ends the header.
  change ((many space).run (fun state => (run (seq (sign '#') (many inLine)) endsHeader state).or
    (endsHeader state)) ⟨passed, text, groups⟩).map State.seen = _
  induction text generalizing passed with
  | nil => rfl
  | cons first rest inductionHypothesis =>
      by_cases isSpace : isSpace first
      · have other : first ≠ '#' := by
          rintro rfl
          exact absurd isSpace (by decide)
        rw [space, run_many_cons isSpace, Option.map_or, ← space, inductionHypothesis, run_comment_of_ne other,
          Option.none_or, endsHeader_eq, headerEnd?_cons_of_isSpace isSpace, Option.map_or]
      · have stops : Stops Text.isSpace (first :: rest) := (stops_cons _ _ _).mpr (by simpa using isSpace)
        have noFeed : first ≠ '\n' := by
          rintro rfl
          exact isSpace (by decide)
        rw [space, run_many_of_stops stops, endsHeader_of_ne noFeed, Option.or_none]
        by_cases comment : first = '#'
        · rw [comment, run_comment, headerEnd?_comment_of_start]
        · have noComment : Stops isComment (first :: rest) :=
            (stops_cons _ _ _).mpr (by simpa [isComment] using comment)
          have none : headerEnd? (first :: rest) = none :=
            headerEnd?_gap (List.forall_mem_nil _) stops noComment
          rw [run_comment_of_ne comment, none]
          rfl

theorem classFront_matches (flush : Flush passed) :
    (sequence (heading ClassText.keyword ++ bases)).Matches passed read rest groups ↔
      ∃ name named listed, heading? ClassText.keyword (read ++ rest) = some (name, named) ∧
        opening? named = some (listed, rest) ∧
        groups = (listed.map fun inside => (2, inside)).toList ++ [(1, name)] := by
  simp only [matches_heading, matches_bases, startsLine_iff, flush, true_and, heading?_eq_some_iff]
  constructor
  · intro shape
    obtain ⟨gap, name, back, _, ⟨nonempty, spaces⟩, identifier, rfl, rfl, listed, opened, rfl⟩ := shape
    have stops : Stops isIdentifierPart (back ++ rest) := by
      obtain ⟨space, spelled, spaces, listing, split⟩ := opening?_iff_spelled.mp opened
      rw [split]
      exact stops_isIdentifierPart_spelled spaces listing
    exact ⟨name, back ++ rest, listed, ⟨⟨gap, nonempty, spaces, by simp⟩, identifier, stops⟩, opened, rfl⟩
  · intro shape
    obtain ⟨name, named, listed, ⟨⟨gap, nonempty, spaces, split⟩, identifier, _⟩, opened, rfl⟩ := shape
    obtain ⟨back, _, rfl⟩ := opening?_suffix opened
    have whole : read = ClassText.keyword ++ (gap ++ (name ++ back)) :=
      List.append_cancel_right (split.trans (by simp))
    exact ⟨gap, name, back, _, ⟨nonempty, spaces⟩, identifier, whole, rfl, listed, opened, rfl⟩

/-- The reader of classes finds what the pattern of class headers matches at the start of a line. The front of
the header matches in one way only; behind it the white space gives back its last line feed, unless a comment
brings one, and the body is as long as it can be. -/
theorem classHeader_agrees (flush : Flush passed) (text : Text) :
    (classHeader.match? passed text).map (fun found =>
        (⟨found.captured 1, found.captured? 2, found.captured 3⟩, found.rest)) =
      ClassText.read? text := by
  rw [match?, classHeader, ← List.append_assoc, run_append]
  apply map_run_eq
  · rintro read rest groups rfl here
    obtain ⟨name, named, listed, found, opened, rfl⟩ := (classFront_matches flush).mp here
    have body := @run_classBody (passed ++ read)
      ((listed.map fun inside => (2, inside)).toList ++ [(1, name)] ++ []) rest
    have shown := congrArg (Option.map fun seen : List (Nat × Text) × Text =>
      (ClassText.mk ((seen.1.lookup 1).getD []) (seen.1.lookup 2) ((seen.1.lookup 3).getD []), seen.2)) body
    rw [Option.map_map, Option.map_map] at shown
    refine shown.trans ?_
    rw [ClassText.read?_eq, found, Option.bind_some, remainder?, opened, Option.bind_some, body?, Option.map_map]
    cases listed <;> rfl
  · intro succeeds
    obtain ⟨⟨entry, rest⟩, found⟩ := Option.isSome_iff_exists.mp succeeds
    obtain ⟨named, unread, heading, opened, _⟩ := ClassText.read?_eq_some_iff.mp found
    obtain ⟨⟨gap, _, _, rfl⟩, _⟩ := heading?_eq_some_iff.mp heading
    obtain ⟨back, _, rfl⟩ := opening?_suffix opened
    have split : ClassText.keyword ++ (gap ++ (entry.name ++ (back ++ unread))) =
        (ClassText.keyword ++ (gap ++ (entry.name ++ back))) ++ unread := by simp
    rw [split] at heading ⊢
    exact ⟨_, unread, _, rfl, (classFront_matches flush).mpr ⟨entry.name, _, entry.bases, heading, opened, rfl⟩⟩

end Outline.Pattern
