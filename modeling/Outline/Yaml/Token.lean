/-
This file defines the tokens of a document and reads the ones with a text of their own.
-/

import Outline.Text.Utf8
import Outline.Yaml.Scalar

namespace Outline.Yaml

inductive Directive where
  | version (major : Nat)
  | tag (handle stem : Text)
  | other
  deriving Repr, DecidableEq

inductive Token where
  | directive (value : Directive)
  | documentStart
  | documentEnd
  | blockSequence
  | blockMapping
  | blockEnd
  | flowSequence
  | flowSequenceEnd
  | flowMapping
  | flowMappingEnd
  | itemMark
  | commaMark
  | keyMark
  | valueMark
  | alias (name : Text)
  | anchor (name : Text)
  | tag (handle : Option Text) (suffix : Text)
  | scalar (text : Text) (plain : Bool)
  deriving Repr, DecidableEq

namespace Token

def isNamePart (character : Char) : Bool :=
  character.isAlphanum || character == '-' || character == '_'

/-- A name is not empty, and what may follow it is given. -/
def name (ends : Text → Bool) (text : Text) : Read :=
  let unread := text.dropWhile isNamePart
  if unread.length < text.length && ends unread then .ok (text.takeWhile isNamePart, unread)
  else .error .malformed

def afterName : Text := ['?', ':', ',', ']', '}', '%', '@', '\x60']

/-- The name of an anchor or an alias. -/
def anchorName (text : Text) : Read :=
  name (fun unread => endsWord unread || unread.head?.any afterName.contains) text

def uriMarks : Text := "-;/?:@&=+$,_.!~*\x27()[]%".toList

def isUriPart (character : Char) : Bool := character.isAlphanum || uriMarks.contains character

/-- The octets of a text in which a percent sign and two digits spell one octet. -/
def uriOctets : Text → Except ReadFault (List UInt8)
  | [] => .ok []
  | '%' :: high :: low :: rest =>
      match Quoted.number? [high, low] with
      | some number => do return number.toUInt8 :: (← uriOctets rest)
      | none => .error .malformed
  | character :: rest =>
      if character = '%' then .error .malformed
      else do return String.utf8EncodeChar character ++ (← uriOctets rest)

def uri (text : Text) : Read := do
  let octets ← uriOctets (text.takeWhile isUriPart)
  if octets.isEmpty then throw .malformed
  let value ← (Utf8.decode octets).mapError fun _ => .malformed
  return (value, text.dropWhile isUriPart)

/-- A handle stands between exclamation marks. -/
def handle : Text → Read
  | '!' :: rest =>
      if rest.head? = some ' ' then .ok (['!'], rest)
      else
        match rest.dropWhile isNamePart with
        | '!' :: unread => .ok (['!'] ++ rest.takeWhile isNamePart ++ ['!'], unread)
        | _ => .error .malformed
  | _ => .error .malformed

/-- The handle and the suffix of a tag, from the mark that starts it. -/
def tagParts (text : Text) : Except ReadFault (Option Text × Text × Text) :=
  match text.drop 1 with
  | '<' :: rest => do
      let (value, unread) ← uri rest
      match unread with
      | '>' :: unread => return (none, value, unread)
      | _ => throw .malformed
  | rest =>
      if endsWord rest then return (none, ['!'], rest)
      else if (rest.takeWhile fun character => !endsProperty [character]).contains '!' then do
        let (handle, rest) ← handle text
        let (value, unread) ← uri rest
        return (some handle, value, unread)
      else do
        let (value, unread) ← uri rest
        return (some ['!'], value, unread)

def readTag (text : Text) : Except ReadFault (Token × Text) := do
  let (handle, suffix, unread) ← tagParts text
  if !endsProperty unread then throw .malformed
  return (.tag handle suffix, unread)

def decimalNumber (text : Text) : Except ReadFault (Nat × Text) :=
  let digits := text.takeWhile Char.isDigit
  if digits.isEmpty then .error .malformed
  else .ok (digits.foldl (fun number digit => 10 * number + (digit.toNat - '0'.toNat)) 0,
    text.dropWhile Char.isDigit)

def versionDirective (text : Text) : Except ReadFault (Directive × Text) := do
  let (major, rest) ← decimalNumber (text.dropWhile (· == ' '))
  match rest with
  | '.' :: rest =>
      let (_, unread) ← decimalNumber rest
      if !endsProperty unread then throw .malformed
      return (.version major, unread)
  | _ => throw .malformed

def tagDirective (text : Text) : Except ReadFault (Directive × Text) := do
  let (handle, rest) ← handle (text.dropWhile (· == ' '))
  if rest.head? ≠ some ' ' then throw .malformed
  let (stem, unread) ← uri (rest.dropWhile (· == ' '))
  if !endsProperty unread then throw .malformed
  return (.tag handle stem, unread)

/-- A directive fills its line, from behind the percent sign. -/
def readDirective (text : Text) : Except ReadFault (Token × Text) := do
  let (word, rest) ← name endsProperty text
  let (value, unread) ←
    if word = "YAML".toList then versionDirective rest
    else if word = "TAG".toList then tagDirective rest
    else pure (.other, rest.dropWhile (!isBreak ·))
  return (.directive value, ← Block.restOfLine unread)

end Token

end Outline.Yaml
