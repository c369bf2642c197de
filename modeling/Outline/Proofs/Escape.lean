/-
This file states that written strings and numbers can be told apart from what follows them: the escapes
of a string delimit themselves, and a number ends where its digits end.
-/

import Outline.Json
import Outline.Proofs.Text
import Mathlib.Algebra.Group.Nat.Defs

namespace Outline

namespace Text

/-- A way of writing delimits itself if the text behind it cannot blur what is written. -/
def SelfDelimiting {α : Type} (write : α → Text) : Prop :=
  ∀ {value other : α} {rest rest' : Text}, write value ++ rest = write other ++ rest' →
    value = other ∧ rest = rest'

theorem digitChar_inj {digit other : Nat} (fits : digit < 16) (fits' : other < 16)
    (same : digit.digitChar = other.digitChar) : digit = other := by
  have table : ∀ digit < 16, ∀ other < 16, digit.digitChar = other.digitChar → digit = other := by decide
  exact table digit fits other fits' same

/-- The last hexadecimal digit stands behind the other ones, zeros included. -/
theorem hexadecimal_succ {width : Nat} (positive : 0 < width) (number : Nat) :
    hexadecimal (width + 1) number =
      hexadecimal width (number / 16) ++ [(number % 16).digitChar] := by
  by_cases small : number < 16
  · have quotient : number / 16 = 0 := by omega
    have remainder : number % 16 = number := by omega
    obtain ⟨others, rfl⟩ : ∃ others, width = others + 1 := ⟨width - 1, by omega⟩
    simp [hexadecimal, Nat.toDigits_of_lt_base small, quotient, remainder, List.replicate_succ']
  · simp [hexadecimal, Nat.toDigits_of_base_le (by decide : 1 < 16) (by omega : 16 ≤ number)]

theorem length_hexadecimal {width number : Nat} (positive : 0 < width) (fits : number < 16 ^ width) :
    (hexadecimal width number).length = width := by
  have short := (Nat.length_toDigits_le_iff (by decide : 1 < 16) positive).mpr fits
  simp only [hexadecimal, List.length_append, List.length_replicate]
  omega

/-- Numbers of the same width have different hexadecimal digits. -/
theorem hexadecimal_inj {width number other : Nat} (fits : number < 16 ^ width)
    (fits' : other < 16 ^ width) (same : hexadecimal width number = hexadecimal width other) :
    number = other := by
  induction width generalizing number other with
  | zero =>
      rw [Nat.pow_zero] at fits fits'
      omega
  | succ width inductionHypothesis =>
      rw [Nat.pow_succ] at fits fits'
      cases width with
      | zero =>
          have small : number < 16 := by omega
          have small' : other < 16 := by omega
          simp only [hexadecimal, Nat.toDigits_of_lt_base small, Nat.toDigits_of_lt_base small'] at same
          exact digitChar_inj small small' (by simpa using same)
      | succ width =>
          rw [hexadecimal_succ (by omega) number, hexadecimal_succ (by omega) other] at same
          obtain ⟨front, last⟩ := List.append_inj' same rfl
          have quotients := inductionHypothesis (by omega) (by omega) front
          have remainders := digitChar_inj (by omega) (by omega) (List.singleton_inj.mp last)
          omega

/-- A decimal number ends where its digits end. -/
theorem decimal_append_inj {number other : Nat} {rest rest' : Text} (stops : Stops Char.isDigit rest)
    (stops' : Stops Char.isDigit rest') (same : decimal number ++ rest = decimal other ++ rest') :
    number = other ∧ rest = rest' := by
  have digits : ∀ number, ∀ c ∈ decimal number, c.isDigit := fun _ _ =>
    Nat.isDigit_of_mem_toDigits (by decide) (by decide)
  have taken := congrArg (List.takeWhile Char.isDigit) same
  have dropped := congrArg (List.dropWhile Char.isDigit) same
  rw [takeWhile_run (digits number) stops, takeWhile_run (digits other) stops'] at taken
  rw [dropWhile_run (digits number) stops, dropWhile_run (digits other) stops'] at dropped
  have numbers := congrArg (fun text => Nat.ofDigitChars 10 text 0) taken
  simp only [decimal, Nat.ofDigitChars_ten_toDigits] at numbers
  exact ⟨numbers, dropped⟩

/-- Written characters end at the first ending that no written character holds. -/
theorem flatMap_append_inj {write : Char → Text} {ending : Char} (delimits : SelfDelimiting write)
    (starts : ∀ character, ∃ first more, write character = first :: more ∧ first ≠ ending)
    {text other rest rest' : Text}
    (same : text.flatMap write ++ ending :: rest = other.flatMap write ++ ending :: rest') :
    text = other ∧ rest = rest' := by
  induction text generalizing other with
  | nil =>
      cases other with
      | nil => simpa using same
      | cons first other =>
          obtain ⟨start, more, written, different⟩ := starts first
          simp only [List.flatMap_nil, List.flatMap_cons, written, List.nil_append, List.cons_append,
            List.cons.injEq] at same
          exact absurd same.1.symm different
  | cons first text inductionHypothesis =>
      cases other with
      | nil =>
          obtain ⟨start, more, written, different⟩ := starts first
          simp only [List.flatMap_nil, List.flatMap_cons, written, List.nil_append, List.cons_append,
            List.cons.injEq] at same
          exact absurd same.1 different
      | cons first' other =>
          simp only [List.flatMap_cons, List.append_assoc] at same
          obtain ⟨firsts, later⟩ := delimits same
          obtain ⟨texts, rests⟩ := inductionHypothesis later
          exact ⟨by rw [firsts, texts], rests⟩

/-- How a character is written between quotes: by a sign and a letter, as it is, or by its number. -/
inductive Escaped (quote : Char) (letters : List (Char × Char)) (code : Char → Text) (character : Char) :
    Text → Prop where
  | letter {letter : Char} (listed : (character, letter) ∈ letters) :
      Escaped quote letters code character ['\\', letter]
  | plain (noSign : character ≠ '\\') (noQuote : character ≠ quote) :
      Escaped quote letters code character [character]
  | code : Escaped quote letters code character (code character)

/-- The letters tell characters apart, and no letter is the one that stands in front of a number. -/
structure Escapes (letters : List (Char × Char)) (code : Char → Text) : Prop where
  letters_inj : ∀ pair ∈ letters, ∀ pair' ∈ letters, pair.2 = pair'.2 → pair.1 = pair'.1
  code_eq_cons : ∀ character, ∃ letter digits, code character = '\\' :: letter :: digits ∧
    ∀ pair ∈ letters, pair.2 ≠ letter
  delimits : SelfDelimiting code

section

variable {quote : Char} {letters : List (Char × Char)} {code write : Char → Text}

theorem Escapes.selfDelimiting (escapes : Escapes letters code)
    (written : ∀ character, Escaped quote letters code character (write character)) :
    SelfDelimiting write := by
  intro character other rest rest' same
  have first := written character
  have second := written other
  obtain ⟨mark, digits, coded, fresh⟩ := escapes.code_eq_cons character
  obtain ⟨mark', digits', coded', fresh'⟩ := escapes.code_eq_cons other
  generalize write character = spelled at first same
  generalize write other = spelled' at second same
  -- Where the two are not written in the same way, their first or their second characters differ.
  cases first with
  | letter listed =>
      cases second with
      | letter listed' =>
          simp only [List.cons_append, List.nil_append, List.cons.injEq, true_and] at same
          exact ⟨escapes.letters_inj _ listed _ listed' same.1, same.2⟩
      | plain noSign' _ =>
          simp only [List.cons_append, List.cons.injEq] at same
          exact absurd same.1.symm noSign'
      | code =>
          simp only [coded', List.cons_append, List.cons.injEq, true_and] at same
          exact absurd same.1 (fresh' _ listed)
  | plain noSign _ =>
      cases second with
      | letter listed' =>
          simp only [List.cons_append, List.cons.injEq] at same
          exact absurd same.1 noSign
      | plain _ _ => simpa using same
      | code =>
          simp only [coded', List.cons_append, List.cons.injEq] at same
          exact absurd same.1 noSign
  | code =>
      cases second with
      | letter listed' =>
          simp only [coded, List.cons_append, List.cons.injEq, true_and] at same
          exact absurd same.1.symm (fresh _ listed')
      | plain noSign' _ =>
          simp only [coded, List.cons_append, List.cons.injEq] at same
          exact absurd same.1.symm noSign'
      | code => exact escapes.delimits same

/-- No written character starts with the quote. -/
theorem Escapes.exists_start (escapes : Escapes letters code) (sign : '\\' ≠ quote)
    (written : ∀ character, Escaped quote letters code character (write character)) (character : Char) :
    ∃ first more, write character = first :: more ∧ first ≠ quote := by
  have shape := written character
  obtain ⟨mark, digits, coded, _⟩ := escapes.code_eq_cons character
  generalize write character = spelled at shape
  cases shape with
  | letter listed => exact ⟨_, _, rfl, sign⟩
  | plain _ noQuote => exact ⟨_, _, rfl, noQuote⟩
  | code => exact ⟨_, _, coded, sign⟩

end

/-- The letters of the escapes by a number, and how many digits follow them. -/
def codeWidths : List (Char × Nat) := [('x', 2), ('u', 4), ('U', 8)]

theorem exists_codeEscape (character : Char) :
    ∃ letter width, (letter, width) ∈ codeWidths ∧ 0 < width ∧ character.toNat < 16 ^ width ∧
      codeEscape character.toNat = '\\' :: letter :: hexadecimal width character.toNat := by
  have bound : character.toNat < 0x110000 := by
    have valid := character.valid
    simp only [UInt32.isValidChar, Nat.isValidChar] at valid
    exact valid.elim (fun below => Nat.lt_trans below (by decide)) fun above => above.2
  unfold codeEscape
  split
  · rename_i small
    exact ⟨'x', 2, by decide, by decide, small, rfl⟩
  · split
    · rename_i small
      exact ⟨'u', 4, by decide, by decide, small, rfl⟩
    · exact ⟨'U', 8, by decide, by decide, Nat.lt_trans bound (by decide), rfl⟩

theorem codeEscape_selfDelimiting : SelfDelimiting fun character : Char => codeEscape character.toNat := by
  intro character other rest rest' same
  obtain ⟨letter, width, listed, positive, fits, written⟩ := exists_codeEscape character
  obtain ⟨letter', width', listed', positive', fits', written'⟩ := exists_codeEscape other
  simp only [written, written', List.cons_append, List.cons.injEq, true_and] at same
  have widths : ∀ pair ∈ codeWidths, ∀ pair' ∈ codeWidths, pair.1 = pair'.1 → pair.2 = pair'.2 := by decide
  obtain rfl : width = width' := widths _ listed _ listed' same.1
  have lengths : (hexadecimal width character.toNat).length = (hexadecimal width other.toNat).length := by
    rw [length_hexadecimal positive fits, length_hexadecimal positive' fits']
  obtain ⟨digits, rests⟩ := List.append_inj same.2 lengths
  exact ⟨Char.toNat_inj.mp (hexadecimal_inj fits fits' digits), rests⟩

/-- The characters that are escaped by a letter between quotes, and their letters. -/
def quoteLetters (quote : Char) : List (Char × Char) :=
  [(quote, quote), ('\\', '\\'), ('\t', 't'), ('\n', 'n'), ('\r', 'r')]

theorem escaped_quotedCharacter (quote character : Char) :
    Escaped quote (quoteLetters quote) (fun character => codeEscape character.toNat) character
      (quotedCharacter quote character) := by
  by_cases self : character = quote ∨ character = '\\'
  · have written : quotedCharacter quote character = ['\\', character] := by simp [quotedCharacter, self]
    have listed : (character, character) ∈ quoteLetters quote := by
      rcases self with rfl | rfl <;> simp [quoteLetters]
    exact written ▸ .letter listed
  · rw [not_or] at self
    by_cases blank : character ∈ ['\t', '\n', '\r']
    · have letter : ∃ letter, (character, letter) ∈ quoteLetters quote ∧
          quotedCharacter quote character = ['\\', letter] := by
        simp only [List.mem_cons, List.not_mem_nil, or_false] at blank
        rcases blank with rfl | rfl | rfl
        · exact ⟨'t', by simp [quoteLetters], by simp [quotedCharacter, self.1]⟩
        · exact ⟨'n', by simp [quoteLetters], by simp [quotedCharacter, self.1]⟩
        · exact ⟨'r', by simp [quoteLetters], by simp [quotedCharacter, self.1]⟩
      obtain ⟨letter, listed, written⟩ := letter
      exact written ▸ .letter listed
    · simp only [List.mem_cons, List.not_mem_nil, or_false, not_or] at blank
      by_cases printable : isPrintable character
      · have written : quotedCharacter quote character = [character] := by
          simp [quotedCharacter, self, blank, printable]
        exact written ▸ .plain self.2 self.1
      · have written : quotedCharacter quote character = codeEscape character.toNat := by
          simp [quotedCharacter, self, blank, printable]
        exact written ▸ .code

/-- The two quotes are told apart from every letter. -/
theorem escapes_quoteLetters {quote : Char} (isQuote : quote = '\x27' ∨ quote = '\x22') :
    Escapes (quoteLetters quote) fun character => codeEscape character.toNat where
  letters_inj := by rcases isQuote with rfl | rfl <;> decide
  code_eq_cons := by
    intro character
    obtain ⟨letter, width, listed, _, _, written⟩ := exists_codeEscape character
    have fresh : ∀ pair ∈ quoteLetters quote, ∀ code ∈ codeWidths, pair.2 ≠ code.1 := by
      rcases isQuote with rfl | rfl <;> decide
    exact ⟨letter, _, written, fun pair member => fresh pair member _ listed⟩
  delimits := codeEscape_selfDelimiting

theorem quoteFor_cases (text : Text) : quoteFor text = '\x27' ∨ quoteFor text = '\x22' := by
  rw [quoteFor]
  split
  · exact Or.inr rfl
  · exact Or.inl rfl

/-- A text can be read off the text between quotes that is written for it. -/
theorem quoted_selfDelimiting : SelfDelimiting quoted := by
  intro text other rest rest' same
  simp only [quoted, List.cons_append, List.append_assoc, List.nil_append, List.cons.injEq] at same
  obtain ⟨quotes, same⟩ := same
  rw [← quotes] at same
  have escapes := escapes_quoteLetters (quoteFor_cases text)
  have written := escaped_quotedCharacter (quoteFor text)
  have sign : '\\' ≠ quoteFor text := by rcases quoteFor_cases text with isQuote | isQuote <;> simp [isQuote]
  exact flatMap_append_inj (escapes.selfDelimiting written) (escapes.exists_start sign written) same

end Text

namespace Json

open Text

/-- The escapes of two units are told apart by their digits. -/
theorem unitEscape_append_inj {unit other : Nat} {rest rest' : Text} (fits : unit < 0x10000)
    (fits' : other < 0x10000) (same : unitEscape unit ++ rest = unitEscape other ++ rest') :
    unit = other ∧ rest = rest' := by
  have widths : (hexadecimal 4 unit).length = (hexadecimal 4 other).length := by
    rw [length_hexadecimal (by decide) fits, length_hexadecimal (by decide) fits']
  simp only [unitEscape, List.append_assoc, List.append_cancel_left_eq] at same
  obtain ⟨digits, rests⟩ := List.append_inj same widths
  exact ⟨hexadecimal_inj fits fits' digits, rests⟩

theorem unitEscape_eq_cons (unit : Nat) : unitEscape unit = '\\' :: 'u' :: hexadecimal 4 unit := rfl

theorem codeEscape_eq_cons (code : Nat) : ∃ digits, codeEscape code = '\\' :: 'u' :: digits := by
  unfold codeEscape
  split
  · exact ⟨_, unitEscape_eq_cons code⟩
  · rw [unitEscape_eq_cons, List.cons_append, List.cons_append]
    exact ⟨_, rfl⟩

/-- A character is no surrogate. -/
theorem toNat_bounds (character : Char) :
    character.toNat < 0xD800 ∨ 0xDFFF < character.toNat ∧ character.toNat < 0x110000 := character.valid

theorem codeEscape_append_inj {character other : Char} {rest rest' : Text}
    (same : codeEscape character.toNat ++ rest = codeEscape other.toNat ++ rest') :
    character = other ∧ rest = rest' := by
  have bounds := toNat_bounds character
  have bounds' := toNat_bounds other
  have enough : character.toNat = other.toNat → character = other := Char.toNat_inj.mp
  -- The first unit of a pair is a surrogate, and so the number of no character.
  by_cases basic : character.toNat < 0x10000 <;> by_cases basic' : other.toNat < 0x10000 <;>
    simp only [codeEscape, basic, basic', if_true, if_false, List.append_assoc] at same
  · obtain ⟨units, rests⟩ := unitEscape_append_inj basic basic' same
    exact ⟨enough units, rests⟩
  · obtain ⟨units, _⟩ := unitEscape_append_inj basic (by omega) same
    omega
  · obtain ⟨units, _⟩ := unitEscape_append_inj (by omega) basic' same
    omega
  · obtain ⟨highs, lower⟩ := unitEscape_append_inj (by omega) (by omega) same
    obtain ⟨lows, rests⟩ := unitEscape_append_inj (by omega) (by omega) lower
    exact ⟨enough (by omega), rests⟩

/-- The characters that are escaped by a letter, and their letters. -/
def letterEscapes : List (Char × Char) :=
  [('\x22', '\x22'), ('\\', '\\'), ('\n', 'n'), ('\r', 'r'), ('\t', 't'), ('\x0c', 'f'), ('\x08', 'b')]

theorem escaped_escapedCharacter (character : Char) :
    Escaped '\x22' letterEscapes (fun character => codeEscape character.toNat) character
      (escapedCharacter character) := by
  by_cases listed : character ∈ letterEscapes.map Prod.fst
  · have letter : ∃ letter, (character, letter) ∈ letterEscapes ∧
        escapedCharacter character = ['\\', letter] := by
      simp only [letterEscapes, List.map_cons, List.map_nil, List.mem_cons, List.not_mem_nil,
        or_false] at listed
      rcases listed with rfl | rfl | rfl | rfl | rfl | rfl | rfl <;> exact ⟨_, by decide, rfl⟩
    obtain ⟨letter, listed, written⟩ := letter
    exact written ▸ .letter listed
  · simp only [letterEscapes, List.map_cons, List.map_nil, List.mem_cons, List.not_mem_nil,
      or_false, not_or] at listed
    by_cases plain : ' ' ≤ character && character ≤ '~'
    · have written : escapedCharacter character = [character] := by simp [escapedCharacter, listed, plain]
      exact written ▸ .plain listed.2.1 listed.1
    · have written : escapedCharacter character = codeEscape character.toNat := by
        simp [escapedCharacter, listed, plain]
      exact written ▸ .code

theorem escapes_letterEscapes : Escapes letterEscapes fun character => codeEscape character.toNat where
  letters_inj := by decide
  code_eq_cons := by
    intro character
    obtain ⟨digits, written⟩ := codeEscape_eq_cons character.toNat
    exact ⟨'u', digits, written, by decide⟩
  delimits := codeEscape_append_inj

theorem renderString_selfDelimiting : SelfDelimiting renderString := by
  intro text other rest rest' same
  simp only [renderString, List.append_assoc, List.cons_append, List.nil_append, List.cons.injEq,
    true_and] at same
  exact flatMap_append_inj (escapes_letterEscapes.selfDelimiting escaped_escapedCharacter)
    (escapes_letterEscapes.exists_start (by decide) escaped_escapedCharacter) same

/-- A written number starts with a digit or with the sign. -/
theorem decimal_eq_cons (number : Nat) : ∃ first more, decimal number = first :: more ∧ first.isDigit := by
  cases digits : decimal number with
  | nil => exact absurd digits Nat.toDigits_ne_nil
  | cons first more =>
      have member : first ∈ Nat.toDigits 10 number := by
        rw [← decimal, digits]
        exact List.mem_cons_self
      exact ⟨first, more, rfl, Nat.isDigit_of_mem_toDigits (by decide) (by decide) member⟩

theorem renderNumber_append_inj {value other : Int} {rest rest' : Text}
    (stops : Stops Char.isDigit rest) (stops' : Stops Char.isDigit rest')
    (same : renderNumber value ++ rest = renderNumber other ++ rest') : value = other ∧ rest = rest' := by
  cases value with
  | ofNat magnitude =>
      cases other with
      | ofNat magnitude' =>
          obtain ⟨magnitudes, rests⟩ := decimal_append_inj stops stops' same
          exact ⟨congrArg Int.ofNat magnitudes, rests⟩
      | negSucc magnitude' =>
          obtain ⟨first, more, written, digit⟩ := decimal_eq_cons magnitude
          simp only [renderNumber, written, List.cons_append, List.cons.injEq] at same
          rw [same.1] at digit
          exact absurd digit (by decide)
  | negSucc magnitude =>
      cases other with
      | ofNat magnitude' =>
          obtain ⟨first, more, written, digit⟩ := decimal_eq_cons magnitude'
          simp only [renderNumber, written, List.cons_append, List.cons.injEq] at same
          rw [← same.1] at digit
          exact absurd digit (by decide)
      | negSucc magnitude' =>
          simp only [renderNumber, List.cons_append, List.cons.injEq, true_and] at same
          obtain ⟨magnitudes, rests⟩ := decimal_append_inj stops stops' same
          exact ⟨by rw [Nat.succ.inj magnitudes], rests⟩

end Json

end Outline
