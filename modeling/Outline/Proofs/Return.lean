/-
This file puts a carriage return in front of every line feed of a text and states that the readers of
headers are blind to it: they find the same, since their white space covers both characters.
-/

import Outline.Proofs.Constructor

namespace Outline

namespace Text

/-- Every line feed gets a carriage return in front of it. -/
def withReturns (text : Text) : Text :=
  text.flatMap fun character => if character = '\n' then ['\r', '\n'] else [character]

@[simp] theorem withReturns_nil : withReturns [] = [] := rfl

@[simp] theorem withReturns_feed (rest : Text) :
    withReturns ('\n' :: rest) = '\r' :: '\n' :: withReturns rest := rfl

@[simp] theorem withReturns_cons {first : Char} (other : first ≠ '\n') (rest : Text) :
    withReturns (first :: rest) = first :: withReturns rest := by
  simp [withReturns, other]

theorem withReturns_append (front rest : Text) :
    withReturns (front ++ rest) = withReturns front ++ withReturns rest := List.flatMap_append

/-- A line without its end stays as it is. -/
theorem withReturns_of_single {text : Text} (single : '\n' ∉ text) : withReturns text = text := by
  induction text with
  | nil => rfl
  | cons first rest inductionHypothesis =>
      obtain ⟨different, later⟩ := List.ne_and_not_mem_of_not_mem_cons single
      rw [withReturns_cons (Ne.symm different), inductionHypothesis later]

/-- The lines start at the same places, since a carriage return stands at the end of its line. -/
theorem lineTails_withReturns (lineStart : Bool) (text : Text) :
    lineTails lineStart (withReturns text) = (lineTails lineStart text).map withReturns := by
  induction text generalizing lineStart with
  | nil => rfl
  | cons first rest inductionHypothesis =>
      by_cases feed : first = '\n'
      · subst feed
        have below : lineTails true (withReturns rest) = (lineTails true rest).map withReturns :=
          inductionHypothesis true
        cases lineStart <;> simp [lineTails, below]
      · cases lineStart <;> simp [lineTails, feed, inductionHypothesis]

section Run

variable {test : Char → Bool}

/-- A run passes both characters of a line ending, or stops in front of them. -/
theorem dropWhile_withReturns (same : test '\r' = test '\n') (text : Text) :
    (withReturns text).dropWhile test = withReturns (text.dropWhile test) := by
  induction text with
  | nil => rfl
  | cons first rest inductionHypothesis =>
      by_cases feed : first = '\n'
      · subst feed
        cases passes : test '\n' <;> simp [same, passes, inductionHypothesis]
      · cases passes : test first <;> simp [feed, passes, inductionHypothesis]

theorem takeWhile_withReturns (same : test '\r' = test '\n') (text : Text) :
    (withReturns text).takeWhile test = withReturns (text.takeWhile test) := by
  induction text with
  | nil => rfl
  | cons first rest inductionHypothesis =>
      by_cases feed : first = '\n'
      · subst feed
        cases passes : test '\n' <;> simp [same, passes, inductionHypothesis]
      · cases passes : test first <;> simp [feed, passes, inductionHypothesis]

end Run

theorem trimLeft_withReturns (text : Text) : trimLeft (withReturns text) = withReturns (trimLeft text) :=
  dropWhile_withReturns (by decide) text

/-- A word that holds neither character of a line ending is read as before. -/
theorem after?_withReturns (word : Text) (plain : '\r' ∉ word ∧ '\n' ∉ word) (text : Text) :
    after? word (withReturns text) = (after? word text).map withReturns := by
  induction word generalizing text with
  | nil => rfl
  | cons first word inductionHypothesis =>
      simp only [List.mem_cons, not_or] at plain
      obtain ⟨⟨noReturn, noReturns⟩, noFeed, noFeeds⟩ := plain
      have step := inductionHypothesis ⟨noReturns, noFeeds⟩
      simp only [after?] at step ⊢
      cases text with
      | nil => rfl
      | cons next rest =>
          by_cases feed : next = '\n'
          · simp [feed, List.isPrefixOf?, Ne.symm noReturn, Ne.symm noFeed]
          · by_cases same : first = next
            · simp [feed, List.isPrefixOf?, same, step]
            · simp [feed, List.isPrefixOf?, same]

theorem afterSpace?_withReturns (text : Text) :
    afterSpace? (withReturns text) = (afterSpace? text).map withReturns := by
  cases text with
  | nil => rfl
  | cons first rest =>
      by_cases feed : first = '\n'
      · have spaces : isSpace '\r' ∧ isSpace '\n' := by decide
        have trimmed : trimLeft ('\n' :: withReturns rest) = trimLeft (withReturns rest) :=
          List.dropWhile_cons_of_pos spaces.2
        simp [feed, afterSpace?, spaces, trimmed, trimLeft_withReturns]
      · by_cases space : isSpace first <;> simp [feed, afterSpace?, space, trimLeft_withReturns]

end Text

namespace Reader

open Text

variable {α β : Type}

/-- A reader is blind to carriage returns if it finds the same with them and leaves them behind. -/
def Blind (read : Reader α) : Prop :=
  ∀ text, read (withReturns text) = (read text).map (Prod.map id withReturns)

theorem Blind.bind {read : Reader α} (blind : read.Blind) {next : α → Reader β}
    (nextBlind : ∀ value, (next value).Blind) :
    Blind fun text => (read text).bind fun found => next found.1 found.2 := by
  intro text
  simp only [blind text]
  cases read text with
  | none => rfl
  | some found => exact nextBlind found.1 found.2

theorem Blind.map {read : Reader α} (blind : read.Blind) (make : α → β) :
    Blind fun text => (read text).map (Prod.map make id) := by
  intro text
  simp only [blind text, Option.map_map]
  rfl

theorem Blind.trimLeft {read : Reader α} (blind : read.Blind) :
    Blind fun text => read (trimLeft text) := by
  intro text
  simp only [trimLeft_withReturns, blind (Text.trimLeft text)]

/-- A search goes through the same line starts with carriage returns as without. -/
theorem values_withReturns {read : Reader α} (lawful : read.Lawful) (adapt : α → α)
    (answers : ∀ text, read.answer (withReturns text) = (read.answer text).map adapt) (text : Text) :
    read.values (withReturns text) = (read.values text).map adapt := by
  rw [values_eq lawful, values_eq lawful, lineTails_withReturns, List.filterMap_map,
    List.map_filterMap]
  exact List.filterMap_congr fun tail _ => answers tail

theorem Blind.answer_eq {read : Reader α} (blind : read.Blind) (text : Text) :
    read.answer (withReturns text) = read.answer text := by
  rw [answer, blind text, Option.map_map]
  rfl

theorem Blind.values_eq {read : Reader α} (blind : read.Blind) (lawful : read.Lawful) (text : Text) :
    read.values (withReturns text) = read.values text := by
  rw [values_withReturns lawful id (fun text => by simp [blind.answer_eq]), List.map_id]

end Reader

open Text

theorem Text.identifier?_blind : Reader.Blind identifier? := by
  intro text
  cases text with
  | nil => rfl
  | cons first rest =>
      by_cases feed : first = '\n'
      · have starts : isIdentifierStart '\r' = false ∧ isIdentifierStart '\n' = false := by decide
        simp [feed, identifier?, starts]
      · have ends : isIdentifierPart '\r' = isIdentifierPart '\n' := by decide
        have single : '\n' ∉ rest.takeWhile isIdentifierPart := fun member =>
          absurd (List.mem_takeWhile_imp member) (by decide)
        by_cases start : isIdentifierStart first
        · simp [feed, identifier?, start, takeWhile_withReturns ends, dropWhile_withReturns ends,
            withReturns_of_single single]
        · simp [feed, identifier?, start]

/-- The inside of an opened list up to its closing parenthesis. -/
def Text.closing? : Reader Text := fun text =>
  (after? [')'] (text.dropWhile isInside)).map fun closed => (text.takeWhile isInside, closed)

theorem Text.closing?_cons (first : Char) (rest : Text) :
    closing? (first :: rest) =
      if first = ')' then some ([], rest) else if first = '\n' then none
      else (closing? rest).map (Prod.map (first :: ·) id) := by
  by_cases closes : first = ')'
  · simp [closing?, closes, isInside, after?, List.isPrefixOf?]
  · by_cases feed : first = '\n'
    · simp [closing?, feed, isInside, after?, List.isPrefixOf?]
    · have inside : isInside first := by simp [isInside, closes, feed]
      simp [closing?, closes, feed, inside, Function.comp_def]

/-- A list that is still open at the end of its line is not closed by the carriage return. -/
theorem Text.closing?_blind : closing?.Blind := by
  intro text
  induction text with
  | nil => rfl
  | cons first rest inductionHypothesis =>
      by_cases feed : first = '\n'
      · simp [feed, closing?_cons]
      · rw [withReturns_cons feed, closing?_cons, closing?_cons, inductionHypothesis]
        split
        · rfl
        · rw [Option.map_map, Option.map_map]
          rfl

theorem Text.parenthesised?_blind : Reader.Blind parenthesised? := by
  intro text
  have split : ∀ text, parenthesised? text = (after? ['('] text).bind closing? := by
    intro text
    rw [parenthesised?_eq]
    congr 1
    funext opened
    exact Option.map_eq_bind.symm
  rw [split, split, after?_withReturns ['('] (by decide)]
  cases after? ['('] text with
  | none => rfl
  | some opened => exact closing?_blind opened

theorem Text.colon?_blind {α : Type} (value : α) : (colon? value).Blind := by
  intro text
  simp only [colon?, after?_withReturns [':'] (by decide)]
  cases after? [':'] text <;> rfl

theorem Text.heading?_blind {keyword : Text} (plain : '\r' ∉ keyword ∧ '\n' ∉ keyword) :
    (heading? keyword).Blind := by
  intro text
  simp only [heading?, after?_withReturns keyword plain]
  cases after? keyword text with
  | none => rfl
  | some spaced =>
      simp only [Option.map_some, Option.bind_some, afterSpace?_withReturns]
      cases afterSpace? spaced with
      | none => rfl
      | some named => exact identifier?_blind named

namespace Signature

theorem parameters?_blind : Reader.Blind parameters? := by
  rw [funext parameters?_eq]
  exact parenthesised?_blind.trimLeft.bind fun inside => (colon?_blind inside).trimLeft

theorem read?_blind : Signature.read?.Blind := by
  rw [funext read?_eq]
  exact (heading?_blind (by decide)).bind fun name => parameters?_blind.map (Signature.mk name)

end Signature

namespace ClassText

theorem opening?_blind : opening?.Blind := by
  intro text
  cases opened : trimLeft text with
  | nil =>
      have trimmed : trimLeft (withReturns text) = [] := by simp [trimLeft_withReturns, opened]
      rw [opening?_eq_none (by simp [trimmed]), opening?_eq_none (by simp [opened])]
      rfl
  | cons first rest =>
      by_cases opens : first = '('
      · subst opens
        have trimmed : trimLeft (withReturns text) = '(' :: withReturns rest := by
          simp [trimLeft_withReturns, opened]
        rw [opening?_bases opened, opening?_bases trimmed]
        exact (Signature.parameters?_blind.map some) text
      · have closed : Stops (· == '(') (trimLeft text) := by simpa [opened] using opens
        have closed' : Stops (· == '(') (trimLeft (withReturns text)) := by
          rw [trimLeft_withReturns, opened]
          by_cases feed : first = '\n'
          · simp [feed]
          · simpa [feed] using opens
        rw [opening?_of_closed closed, opening?_of_closed closed']
        exact (colon?_blind none).trimLeft text

theorem indented?_withReturns (text : Text) :
    indented? (withReturns text) = (indented? text).map withReturns := by
  cases text with
  | nil => rfl
  | cons first rest =>
      by_cases feed : first = '\n'
      · have blanks : isBlank '\r' = false ∧ isBlank '\n' = false := by decide
        simp [feed, indented?, blanks]
      · have same : isBlank '\r' = isBlank '\n' := by decide
        by_cases blank : isBlank first <;> simp [feed, indented?, blank, dropWhile_withReturns same]

theorem constructor?_blind : constructor?.Blind := by
  intro text
  simp only [constructor?_eq, indented?_withReturns]
  cases indented? text with
  | none => rfl
  | some word =>
      simp only [Option.map_some, Option.bind_some, after?_withReturns Signature.keyword (by decide)]
      cases after? Signature.keyword word with
      | none => rfl
      | some spaced =>
          simp only [Option.map_some, Option.bind_some, reserved?, afterSpace?_withReturns]
          cases afterSpace? spaced with
          | none => rfl
          | some named =>
              simp only [Option.map_some, Option.bind_some, after?_withReturns constructorName (by decide)]
              cases after? constructorName named with
              | none => rfl
              | some unread => exact Signature.parameters?_blind unread

theorem first?_constructor?_withReturns (body : Text) :
    constructor?.first? (withReturns body) = constructor?.first? body := by
  rw [Reader.first?, constructor?_blind.values_eq constructor?_lawful]
  rfl

end ClassText

end Outline
