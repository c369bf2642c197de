/-
This file encodes texts as UTF-8 and decodes octets strictly.
-/

import Outline.Text.Quoted

namespace Outline.Utf8

/-- Why the octets of a fault are no character. -/
inductive Reason where
  | invalidStart
  | invalidContinuation
  | unexpectedEnd
  deriving Repr, DecidableEq

/-- The first octets that are no character, and where they start. -/
structure Fault where
  start : Nat
  octets : List UInt8
  reason : Reason
  deriving Repr, DecidableEq

def Reason.message : Reason → String
  | invalidStart => "invalid start byte"
  | invalidContinuation => "invalid continuation byte"
  | unexpectedEnd => "unexpected end of data"

def Fault.place (fault : Fault) : Text :=
  match fault.octets with
  | [octet] =>
      "byte 0x".toList ++ Text.hexadecimal 2 octet.toNat ++ " in position ".toList
        ++ Text.decimal fault.start
  | octets =>
      "bytes in position ".toList ++ Text.decimal fault.start ++ ['-']
        ++ Text.decimal (fault.start + octets.length - 1)

def Fault.message (fault : Fault) : Text :=
  "\x27utf-8\x27 codec can\x27t decode ".toList ++ fault.place ++ [':', ' ']
    ++ fault.reason.message.toList

/-- The bits that a first octet gives, and the ranges of the octets that must follow it. The second
octet is narrowed where it would spell a surrogate, a number too large, or a longer form of a
shorter character. -/
def lead? (octet : Nat) : Option (Nat × List (Nat × Nat)) :=
  let following := (0x80, 0xBF)
  if octet < 0x80 then some (octet, [])
  else if octet < 0xC2 then none
  else if octet < 0xE0 then some (octet - 0xC0, [following])
  else if octet = 0xE0 then some (0x0, [(0xA0, 0xBF), following])
  else if octet = 0xED then some (0xD, [(0x80, 0x9F), following])
  else if octet < 0xF0 then some (octet - 0xE0, [following, following])
  else if octet = 0xF0 then some (0x0, [(0x90, 0xBF), following, following])
  else if octet < 0xF4 then some (octet - 0xF0, [following, following, following])
  else if octet = 0xF4 then some (0x4, [(0x80, 0x8F), following, following])
  else none

/-- A character that has been read in part. -/
structure Pending where
  start : Nat
  octets : List UInt8
  code : Nat
  needed : List (Nat × Nat)
  deriving Repr, DecidableEq

/-- One more octet starts a character, continues the pending one, or fits neither. -/
def Pending.add (position : Nat) (octet : UInt8) : Option Pending → Except Fault Pending
  | none =>
      match lead? octet.toNat with
      | some (code, needed) => .ok ⟨position, [octet], code, needed⟩
      | none => .error ⟨position, [octet], .invalidStart⟩
  | some pending =>
      match pending.needed with
      | [] => .error ⟨pending.start, pending.octets, .invalidContinuation⟩
      | range :: needed =>
          if range.1 ≤ octet.toNat && octet.toNat ≤ range.2 then
            .ok ⟨pending.start, pending.octets ++ [octet],
              pending.code * 0x40 + (octet.toNat - 0x80), needed⟩
          else .error ⟨pending.start, pending.octets, .invalidContinuation⟩

def decodeFrom (position : Nat) (pending : Option Pending) : List UInt8 → Except Fault Text
  | [] =>
      match pending with
      | none => .ok []
      | some cut => .error ⟨cut.start, cut.octets, .unexpectedEnd⟩
  | octet :: rest => do
      let read ← Pending.add position octet pending
      if read.needed.isEmpty then
        let text ← decodeFrom (position + 1) none rest
        return Char.ofNat read.code :: text
      else decodeFrom (position + 1) (some read) rest

/-- The text that the octets spell, or the first fault in them. -/
def decode (octets : List UInt8) : Except Fault Text := decodeFrom 0 none octets

def encode (text : Text) : List UInt8 := text.flatMap String.utf8EncodeChar

/-- The octets of a fault stand at the end and could be the start of a character, where half a
surrogate counts as one. -/
def Fault.isUnfinished (fault : Fault) (octets : List UInt8) : Bool :=
  fault.reason == .unexpectedEnd
    || (match octets.drop fault.start with
      | [first, second] => first == 0xED && 0xA0 ≤ second && second ≤ 0xBF
      | _ => false)

/-- A reader that takes the octets in pieces keeps an unfinished character back, and so counts from
its first octet. -/
def decodePieces (octets : List UInt8) : Except Fault Text :=
  (decode octets).mapError fun fault =>
    if fault.isUnfinished octets then { fault with start := 0 } else fault

end Outline.Utf8
