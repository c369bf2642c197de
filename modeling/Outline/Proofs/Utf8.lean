/-
This file states that decoding is strict: the octets that decode to a text are exactly its encoding.
-/

import Outline.Text.Utf8
import Mathlib.Data.List.Forall2

namespace Outline.Utf8

/-- The octets lie in the ranges, one by one. -/
def Fits (needed : List (Nat × Nat)) (following : List UInt8) : Prop :=
  List.Forall₂ (fun range octet => range.1 ≤ octet.toNat ∧ octet.toNat ≤ range.2) needed following

/-- Each following octet adds six bits. -/
def addBits (code : Nat) (following : List UInt8) : Nat :=
  following.foldl (fun code octet => code * 0x40 + (octet.toNat - 0x80)) code

theorem addBits_cons (code : Nat) (octet : UInt8) (following : List UInt8) :
    addBits code (octet :: following) = addBits (code * 0x40 + (octet.toNat - 0x80)) following :=
  List.foldl_cons ..

theorem add_length_cons (position : Nat) (octet : UInt8) (following : List UInt8) :
    position + (octet :: following).length = position + 1 + following.length := by
  rw [List.length_cons]
  omega

/-- The octets of one character are a first one and the ones that it asks for. -/
inductive Spells : List UInt8 → Nat → Prop where
  | intro {first : UInt8} {following : List UInt8} {code bits : Nat} {needed : List (Nat × Nat)}
      (start : lead? first.toNat = some (bits, needed)) (fits : Fits needed following)
      (number : code = addBits bits following) : Spells (first :: following) code

/-- What is decoded behind a character that has been read in part, or in full. -/
def Continues (position : Nat) (read : Pending) (octets : List UInt8) (text : Text) : Prop :=
  if read.needed = [] then
    ∃ later, decodeFrom position none octets = .ok later ∧ text = Char.ofNat read.code :: later
  else decodeFrom position (some read) octets = .ok text

theorem decodeFrom_cons_iff {position : Nat} {pending : Option Pending} {octet : UInt8}
    {rest : List UInt8} {text : Text} :
    decodeFrom position pending (octet :: rest) = .ok text ↔
      ∃ read, Pending.add position octet pending = .ok read ∧ Continues (position + 1) read rest text := by
  rw [decodeFrom]
  cases added : Pending.add position octet pending with
  | error fault => simp [bind, Except.bind]
  | ok read =>
      by_cases finished : read.needed = []
      · cases decoded : decodeFrom (position + 1) none rest <;>
          simp [Continues, finished, decoded, bind, Except.bind, pure, Except.pure, eq_comm]
      · simp [Continues, finished, bind, Except.bind]

theorem add_none_eq_ok_iff {position : Nat} {octet : UInt8} {read : Pending} :
    Pending.add position octet none = .ok read ↔
      ∃ bits needed, lead? octet.toNat = some (bits, needed) ∧ read = ⟨position, [octet], bits, needed⟩ := by
  rw [Pending.add]
  cases lead? octet.toNat with
  | none => simp
  | some start =>
      obtain ⟨bits, needed⟩ := start
      constructor
      · intro added
        exact ⟨bits, needed, rfl, (Except.ok.inj added).symm⟩
      · rintro ⟨_, _, ⟨⟩, rfl⟩
        rfl

theorem add_some_eq_ok_iff {position : Nat} {octet : UInt8} {read : Pending} {start : Nat}
    {octets : List UInt8} {code : Nat} {range : Nat × Nat} {needed : List (Nat × Nat)} :
    Pending.add position octet (some ⟨start, octets, code, range :: needed⟩) = .ok read ↔
      (range.1 ≤ octet.toNat ∧ octet.toNat ≤ range.2) ∧
        read = ⟨start, octets ++ [octet], code * 0x40 + (octet.toNat - 0x80), needed⟩ := by
  simp only [Pending.add]
  by_cases inRange : range.1 ≤ octet.toNat ∧ octet.toNat ≤ range.2
  · rw [if_pos (by simpa using inRange)]
    constructor
    · intro added
      exact ⟨inRange, (Except.ok.inj added).symm⟩
    · rintro ⟨_, rfl⟩
      rfl
  · rw [if_neg (by simpa using inRange)]
    simp [inRange]

theorem continues_cons_iff {position : Nat} {octet : UInt8} {start : Nat} {front octets : List UInt8}
    {code : Nat} {range : Nat × Nat} {needed : List (Nat × Nat)} {text : Text} :
    Continues position ⟨start, front, code, range :: needed⟩ (octet :: octets) text ↔
      (range.1 ≤ octet.toNat ∧ octet.toNat ≤ range.2) ∧
        Continues (position + 1) ⟨start, front ++ [octet], code * 0x40 + (octet.toNat - 0x80), needed⟩
          octets text := by
  rw [Continues, if_neg (List.cons_ne_nil _ _), decodeFrom_cons_iff]
  simp only [add_some_eq_ok_iff]
  constructor
  · rintro ⟨read, ⟨inRange, rfl⟩, continued⟩
    exact ⟨inRange, continued⟩
  · rintro ⟨inRange, continued⟩
    exact ⟨_, ⟨inRange, rfl⟩, continued⟩

/-- A character takes the octets that it needs, and decoding starts anew behind them. -/
theorem continues_iff {position : Nat} {read : Pending} {octets : List UInt8} {text : Text} :
    Continues position read octets text ↔
      ∃ following rest later, octets = following ++ rest ∧ Fits read.needed following ∧
        decodeFrom (position + following.length) none rest = .ok later ∧
        text = Char.ofNat (addBits read.code following) :: later := by
  obtain ⟨start, front, code, needed⟩ := read
  -- The induction is on the ranges that are still needed; what has been read only travels along.
  induction needed generalizing position front code octets with
  | nil => simp [Continues, Fits, addBits]
  | cons range needed inductionHypothesis =>
      cases octets with
      | nil => simp [Continues, decodeFrom, Fits]
      | cons octet octets =>
          rw [continues_cons_iff, inductionHypothesis]
          constructor
          · rintro ⟨inRange, following, rest, later, rfl, fits, decoded, rfl⟩
            refine ⟨octet :: following, rest, later, rfl, .cons inRange fits, ?_, ?_⟩
            · rw [add_length_cons]
              exact decoded
            · rw [addBits_cons]
          · rintro ⟨following, rest, later, split, fits, decoded, rfl⟩
            cases fits with
            | cons inRange fits =>
                obtain ⟨rfl, rfl⟩ := List.cons.inj split
                rw [add_length_cons] at decoded
                exact ⟨inRange, _, rest, later, rfl, fits, decoded, by rw [addBits_cons]⟩

/-- Decoding takes one character after the other. -/
theorem decodeFrom_none_iff {position : Nat} {octet : UInt8} {octets : List UInt8} {text : Text} :
    decodeFrom position none (octet :: octets) = .ok text ↔
      ∃ front rest code later, octet :: octets = front ++ rest ∧ Spells front code ∧
        decodeFrom (position + front.length) none rest = .ok later ∧ text = Char.ofNat code :: later := by
  simp only [decodeFrom_cons_iff, add_none_eq_ok_iff, continues_iff]
  constructor
  · rintro ⟨read, ⟨bits, needed, start, rfl⟩, following, rest, later, rfl, fits, decoded, rfl⟩
    refine ⟨octet :: following, rest, _, later, rfl, .intro start fits rfl, ?_, rfl⟩
    rw [add_length_cons]
    exact decoded
  · rintro ⟨front, rest, code, later, split, ⟨start, fits, rfl⟩, decoded, rfl⟩
    obtain ⟨rfl, rfl⟩ := List.cons.inj split
    rw [add_length_cons] at decoded
    exact ⟨_, ⟨_, _, start, rfl⟩, _, rest, later, rfl, fits, decoded, rfl⟩

theorem toNat_ofNat {code : Nat} (valid : code.isValidChar) : (Char.ofNat code).toNat = code := by
  rw [Char.ofNat, dif_pos valid]
  rfl

theorem lead?_one {first : Nat} (small : first < 0x80) : lead? first = some (first, []) := by
  simp [lead?, small]

theorem lead?_two {first : Nat} (low : 0xC2 ≤ first) (high : first < 0xE0) :
    lead? first = some (first - 0xC0, [(0x80, 0xBF)]) := by
  have large : ¬first < 0x80 := by omega
  have proper : ¬first < 0xC2 := by omega
  simp [lead?, large, proper, high]

/-- The second octet is narrowed so that three octets spell no surrogate and nothing that two spell. -/
theorem lead?_three {first : Nat} (low : 0xE0 ≤ first) (high : first < 0xF0) :
    ∃ range : Nat × Nat, lead? first = some (first - 0xE0, [range, (0x80, 0xBF)]) ∧
      ∀ second, range.1 ≤ second ∧ second ≤ range.2 ↔
        (0x80 ≤ second ∧ second ≤ 0xBF) ∧ 0x20 ≤ (first - 0xE0) * 0x40 + (second - 0x80) ∧
          ((first - 0xE0) * 0x40 + (second - 0x80) < 0x360 ∨
            0x380 ≤ (first - 0xE0) * 0x40 + (second - 0x80)) := by
  have large : ¬first < 0x80 := by omega
  have proper : ¬first < 0xC2 := by omega
  have longer : ¬first < 0xE0 := by omega
  by_cases least : first = 0xE0
  · subst least
    exact ⟨(0xA0, 0xBF), rfl, fun second => by dsimp only; omega⟩
  · by_cases surrogate : first = 0xED
    · subst surrogate
      exact ⟨(0x80, 0x9F), rfl, fun second => by dsimp only; omega⟩
    · refine ⟨(0x80, 0xBF), ?_, fun second => by dsimp only; omega⟩
      simp [lead?, large, proper, longer, least, surrogate, high]

/-- The second octet is narrowed so that four octets spell nothing that three spell and no number
that is too large. -/
theorem lead?_four {first : Nat} (low : 0xF0 ≤ first) (high : first < 0xF5) :
    ∃ range : Nat × Nat, lead? first = some (first - 0xF0, [range, (0x80, 0xBF), (0x80, 0xBF)]) ∧
      ∀ second, range.1 ≤ second ∧ second ≤ range.2 ↔
        (0x80 ≤ second ∧ second ≤ 0xBF) ∧ 0x10 ≤ (first - 0xF0) * 0x40 + (second - 0x80) ∧
          (first - 0xF0) * 0x40 + (second - 0x80) < 0x110 := by
  by_cases least : first = 0xF0
  · subst least
    exact ⟨(0x90, 0xBF), rfl, fun second => by dsimp only; omega⟩
  · by_cases greatest : first = 0xF4
    · subst greatest
      exact ⟨(0x80, 0x8F), rfl, fun second => by dsimp only; omega⟩
    · refine ⟨(0x80, 0xBF), ?_, fun second => by dsimp only; omega⟩
      have between : first = 0xF1 ∨ first = 0xF2 ∨ first = 0xF3 := by omega
      rcases between with rfl | rfl | rfl <;> rfl

theorem lead?_none {first : Nat} (improper : 0x80 ≤ first ∧ first < 0xC2 ∨ 0xF5 ≤ first) :
    lead? first = none := by
  rcases improper with ⟨large, small⟩ | high
  · simp (disch := omega) only [lead?, if_neg, if_pos]
  · simp (disch := omega) only [lead?, if_neg]

/-- The octets behind the first one start alike. -/
def IsTail (octet : UInt8) : Prop := 0x80 ≤ octet.toNat ∧ octet.toNat ≤ 0xBF

/-- A number is laid out over as few octets as hold it, and surrogates are left out. -/
inductive LaidOut (code : Nat) : List UInt8 → Prop where
  | one {first : UInt8} (number : code = first.toNat) (greatest : code < 0x80) : LaidOut code [first]
  | two {first second : UInt8} (lead : 0xC0 ≤ first.toNat ∧ first.toNat < 0xE0)
      (tail : IsTail second) (number : code = (first.toNat - 0xC0) * 0x40 + (second.toNat - 0x80))
      (least : 0x80 ≤ code) : LaidOut code [first, second]
  | three {first second third : UInt8} (lead : 0xE0 ≤ first.toNat ∧ first.toNat < 0xF0)
      (tail : IsTail second) (tail' : IsTail third)
      (number : code = ((first.toNat - 0xE0) * 0x40 + (second.toNat - 0x80)) * 0x40
        + (third.toNat - 0x80))
      (least : 0x800 ≤ code) (proper : code < 0xD800 ∨ 0xDFFF < code) :
      LaidOut code [first, second, third]
  | four {first second third fourth : UInt8} (lead : 0xF0 ≤ first.toNat ∧ first.toNat < 0xF8)
      (tail : IsTail second) (tail' : IsTail third) (tail'' : IsTail fourth)
      (number : code = (((first.toNat - 0xF0) * 0x40 + (second.toNat - 0x80)) * 0x40
        + (third.toNat - 0x80)) * 0x40 + (fourth.toNat - 0x80))
      (least : 0x10000 ≤ code) (greatest : code < 0x110000) :
      LaidOut code [first, second, third, fourth]

theorem LaidOut.isValidChar {code : Nat} {octets : List UInt8} (laidOut : LaidOut code octets) :
    code.isValidChar := by
  cases laidOut with
  | one number greatest => exact Or.inl (by omega)
  | two lead tail number least =>
      unfold IsTail at tail
      exact Or.inl (by omega)
  | three lead tail tail' number least proper =>
      unfold IsTail at tail tail'
      rcases proper with below | above
      · exact Or.inl below
      · exact Or.inr ⟨above, by omega⟩
  | four lead tail tail' tail'' number least greatest => exact Or.inr ⟨by omega, greatest⟩

theorem LaidOut.eq_encodeChar {character : Char} {octets : List UInt8}
    (laidOut : LaidOut character.toNat octets) : String.utf8EncodeChar character = octets := by
  rw [String.utf8EncodeChar.eq_1, Char.toNat_val]
  cases laidOut with
  | one number greatest =>
      rw [if_pos (by omega)]
      simp only [List.cons.injEq, and_true, ← UInt8.toNat_inj, UInt8.toNat_ofNat']
      omega
  | two lead tail number least =>
      unfold IsTail at tail
      rw [if_neg (by omega), if_pos (by omega)]
      simp only [List.cons.injEq, and_true, ← UInt8.toNat_inj, UInt8.toNat_ofNat']
      omega
  | three lead tail tail' number least proper =>
      unfold IsTail at tail tail'
      rw [if_neg (by omega), if_neg (by omega), if_pos (by omega)]
      simp only [List.cons.injEq, and_true, ← UInt8.toNat_inj, UInt8.toNat_ofNat']
      omega
  | four lead tail tail' tail'' number least greatest =>
      unfold IsTail at tail tail' tail''
      rw [if_neg (by omega), if_neg (by omega), if_neg (by omega)]
      simp only [List.cons.injEq, and_true, ← UInt8.toNat_inj, UInt8.toNat_ofNat']
      omega

theorem laidOut_encodeChar (character : Char) :
    LaidOut character.toNat (String.utf8EncodeChar character) := by
  have valid : character.toNat < 0xD800 ∨ 0xDFFF < character.toNat ∧ character.toNat < 0x110000 :=
    character.valid
  rw [String.utf8EncodeChar.eq_1, Char.toNat_val]
  generalize character.toNat = code at valid
  split_ifs with one two three
  · exact .one (by simp only [UInt8.toNat_ofNat']; omega) (by omega)
  · refine .two ?_ ?_ ?_ (by omega) <;> simp only [IsTail, UInt8.toNat_ofNat'] <;> omega
  · refine .three ?_ ?_ ?_ ?_ (by omega) (by omega) <;> simp only [IsTail, UInt8.toNat_ofNat'] <;> omega
  · refine .four ?_ ?_ ?_ ?_ ?_ (by omega) (by omega) <;>
      simp only [IsTail, UInt8.toNat_ofNat'] <;> omega

theorem Spells.laidOut {octets : List UInt8} {code : Nat} (spelled : Spells octets code) :
    LaidOut code octets := by
  obtain @⟨first, following, _, bits, needed, start, fits, number⟩ := spelled
  have forms : first.toNat < 0x80 ∨ (0xC2 ≤ first.toNat ∧ first.toNat < 0xE0) ∨
      (0xE0 ≤ first.toNat ∧ first.toNat < 0xF0) ∨ (0xF0 ≤ first.toNat ∧ first.toNat < 0xF5) ∨
      (0x80 ≤ first.toNat ∧ first.toNat < 0xC2 ∨ 0xF5 ≤ first.toNat) := by omega
  rcases forms with small | ⟨low, high⟩ | ⟨low, high⟩ | ⟨low, high⟩ | improper
  · rw [lead?_one small] at start
    obtain ⟨rfl, rfl⟩ := Prod.mk.inj (Option.some.inj start)
    cases fits
    exact .one number (by rw [number]; exact small)
  · rw [lead?_two low high] at start
    obtain ⟨rfl, rfl⟩ := Prod.mk.inj (Option.some.inj start)
    simp only [Fits, List.forall₂_cons_left_iff, List.forall₂_nil_left_iff] at fits
    obtain ⟨second, _, tail, rfl, rfl⟩ := fits
    simp only [addBits, List.foldl] at number
    exact .two ⟨by omega, high⟩ tail number (by omega)
  · obtain ⟨range, lead, narrowed⟩ := lead?_three low high
    rw [lead] at start
    obtain ⟨rfl, rfl⟩ := Prod.mk.inj (Option.some.inj start)
    simp only [Fits, List.forall₂_cons_left_iff, List.forall₂_nil_left_iff] at fits
    obtain ⟨second, _, inRange, ⟨third, _, tail', rfl, rfl⟩, rfl⟩ := fits
    obtain ⟨tail, least, proper⟩ := (narrowed second.toNat).mp inRange
    simp only [addBits, List.foldl] at number
    exact .three ⟨low, high⟩ tail tail' number (by omega) (by omega)
  · obtain ⟨range, lead, narrowed⟩ := lead?_four low high
    rw [lead] at start
    obtain ⟨rfl, rfl⟩ := Prod.mk.inj (Option.some.inj start)
    simp only [Fits, List.forall₂_cons_left_iff, List.forall₂_nil_left_iff] at fits
    obtain ⟨second, _, inRange, ⟨third, _, tail', ⟨fourth, _, tail'', rfl, rfl⟩, rfl⟩, rfl⟩ := fits
    obtain ⟨tail, least, greatest⟩ := (narrowed second.toNat).mp inRange
    simp only [addBits, List.foldl] at number
    exact .four ⟨low, by omega⟩ tail tail' tail'' number (by omega) (by omega)
  · rw [lead?_none improper] at start
    exact absurd start (by simp)

theorem LaidOut.spells {octets : List UInt8} {code : Nat} (laidOut : LaidOut code octets) :
    Spells octets code := by
  cases laidOut with
  | one number greatest => exact .intro (lead?_one (by omega)) .nil number
  | two lead tail number least =>
      unfold IsTail at tail
      exact .intro (lead?_two (by omega) lead.2) (.cons tail .nil) number
  | three lead tail tail' number least proper =>
      obtain ⟨range, start, narrowed⟩ := lead?_three lead.1 lead.2
      unfold IsTail at tail tail'
      exact .intro start (.cons ((narrowed _).mpr ⟨tail, by omega, by omega⟩) (.cons tail' .nil)) number
  | four lead tail tail' tail'' number least greatest =>
      unfold IsTail at tail tail' tail''
      obtain ⟨range, start, narrowed⟩ := lead?_four lead.1 (by omega)
      exact .intro start
        (.cons ((narrowed _).mpr ⟨tail, by omega, by omega⟩) (.cons tail' (.cons tail'' .nil))) number

theorem encode_cons (character : Char) (text : Text) :
    encode (character :: text) = String.utf8EncodeChar character ++ encode text := List.flatMap_cons

theorem encode_of_decodeFrom {position : Nat} {octets : List UInt8} {text : Text}
    (decoded : decodeFrom position none octets = .ok text) : encode text = octets := by
  induction text generalizing position octets with
  | nil =>
      cases octets with
      | nil => rfl
      | cons octet octets =>
          obtain ⟨_, _, _, _, _, _, _, nonempty⟩ := decodeFrom_none_iff.mp decoded
          exact absurd nonempty (List.cons_ne_nil _ _).symm
  | cons character text inductionHypothesis =>
      cases octets with
      | nil => simp [decodeFrom] at decoded
      | cons octet octets =>
          obtain ⟨front, rest, code, later, split, spelled, decoded, same⟩ :=
            decodeFrom_none_iff.mp decoded
          obtain ⟨rfl, rfl⟩ := List.cons.inj same
          have laidOut := spelled.laidOut
          rw [← toNat_ofNat laidOut.isValidChar] at laidOut
          rw [split, encode_cons, laidOut.eq_encodeChar, inductionHypothesis decoded]

theorem decodeFrom_encode (position : Nat) (text : Text) :
    decodeFrom position none (encode text) = .ok text := by
  induction text generalizing position with
  | nil => rfl
  | cons character text inductionHypothesis =>
      have spelled := (laidOut_encodeChar character).spells
      obtain ⟨octet, octets, front⟩ := List.exists_cons_of_ne_nil
        (String.utf8EncodeChar_ne_nil (c := character))
      rw [encode_cons, front, List.cons_append, decodeFrom_none_iff]
      rw [front] at spelled
      exact ⟨_, encode text, _, text, rfl, spelled, inductionHypothesis _,
        by rw [Char.ofNat_toNat]⟩

/-- The octets that decode to a text are exactly its encoding. -/
theorem decode_eq_ok_iff {octets : List UInt8} {text : Text} :
    decode octets = .ok text ↔ encode text = octets := by
  constructor
  · exact encode_of_decodeFrom
  · rintro rfl
    exact decodeFrom_encode 0 text

/-- Decoding fails for the octets that encode no text. -/
theorem exists_decode_eq_error_iff {octets : List UInt8} :
    (∃ fault, decode octets = .error fault) ↔ ∀ text, encode text ≠ octets := by
  cases decoded : decode octets with
  | error fault =>
      simp only [Except.error.injEq, exists_eq', true_iff]
      intro text encoded
      simp [decode_eq_ok_iff.mpr encoded] at decoded
  | ok text =>
      simp only [reduceCtorEq, exists_false, false_iff]
      exact fun none => none text (decode_eq_ok_iff.mp decoded)

/-- The pieces in which octets are taken matter only to the faults. -/
theorem decodePieces_eq_ok_iff {octets : List UInt8} {text : Text} :
    decodePieces octets = .ok text ↔ encode text = octets := by
  rw [decodePieces, ← decode_eq_ok_iff]
  cases decode octets with
  | error fault => simp [Except.mapError]
  | ok decoded => simp [Except.mapError]

theorem exists_decodePieces_eq_error_iff {octets : List UInt8} :
    (∃ fault, decodePieces octets = .error fault) ↔ ∀ text, encode text ≠ octets := by
  rw [decodePieces, ← exists_decode_eq_error_iff]
  cases decode octets with
  | error fault => simp [Except.mapError]
  | ok decoded => simp [Except.mapError]

end Outline.Utf8
