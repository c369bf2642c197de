/-
This file says which scalars with the tag of a number, or of octets, stand for none.
-/

import Outline.Text.Quoted

namespace Outline.Yaml.Numeral

def digit? (character : Char) : Option Nat :=
  if character.isDigit then some (character.toNat - '0'.toNat)
  else if character.isAlpha then some (character.toLower.toNat - 'a'.toNat + 10)
  else none

def unsigned : Text → Text
  | '-' :: rest => rest
  | '+' :: rest => rest
  | text => text

/-- Underscores between the digits are passed over, and a sign in front is set aside. -/
def bare (text : Text) : Text := unsigned (text.filter (· != '_'))

def empty : Text := "string index out of range".toList

/-- The letter that stands for a base behind a zero. -/
def baseLetter? : Nat → Option Char
  | 2 => some 'b'
  | 8 => some 'o'
  | 16 => some 'x'
  | _ => none

/-- The digits may say their base once more. -/
def withoutBase (base : Nat) : Text → Text
  | '0' :: letter :: digit :: rest =>
      if baseLetter? base == some letter.toLower then digit :: rest else '0' :: letter :: digit :: rest
  | text => text

def isInteger (base : Nat) (text : Text) : Bool :=
  let digits := withoutBase base (unsigned (Text.trim text))
  !digits.isEmpty && digits.all fun character => (digit? character).any (· < base)

def digitsFailure? (base : Nat) (digits : Text) : Option Text :=
  if isInteger base digits then none
  else some ("invalid literal for int() with base ".toList ++ Text.decimal base ++ [':', ' ']
    ++ Text.quoted digits)

/-- The base is told by a zero in front and the letter behind it. Without them, colons divide digits of
base sixty. -/
def integerFailure? (text : Text) : Option Text :=
  match bare text with
  | [] => some empty
  | ['0'] => none
  | '0' :: 'b' :: digits => digitsFailure? 2 digits
  | '0' :: 'x' :: digits => digitsFailure? 16 digits
  | '0' :: digits => digitsFailure? 8 ('0' :: digits)
  | digits => (digits.splitOn ':').findSome? (digitsFailure? 10)

/-- An integer that is not tagged has digits, unless underscores stand where they should. -/
def lacksDigits (text : Text) : Bool :=
  match unsigned text with
  | '0' :: letter :: rest =>
      (letter == 'b' || letter == 'x') && !rest.isEmpty && rest.all (· == '_')
  | _ => false

/-- Digits with a point among them, and an exponent that may be left out. -/
def isFloat (text : Text) : Bool :=
  let number := unsigned (Text.trim text)
  let mantissa := number.takeWhile (· != 'e')
  let digits := mantissa.filter (· != '.')
  !digits.isEmpty && digits.all Char.isDigit && mantissa.length ≤ digits.length + 1
    && (match number.dropWhile (· != 'e') with
      | [] => true
      | _ :: exponent => isInteger 10 exponent)

def endless : List Text := [".inf", ".nan", "inf", "infinity", "nan"].map String.toList

def floatFailure? (text : Text) : Option Text :=
  match bare (text.map Char.toLower) with
  | [] => some empty
  | digits =>
      (digits.splitOn ':').findSome? fun part =>
        if isFloat part || endless.contains part then none
        else some ("could not convert string to float: ".toList ++ Text.quoted part)

def isBinaryDigit (character : Char) : Bool :=
  character.isAlphanum || character == '+' || character == '/'

/-- Four digits make three octets. The last digits are filled up with signs, behind which nothing counts;
characters of other kinds are passed over. -/
def fillsUp : Nat → Nat → Text → Bool
  | place, _, [] => place == 0
  | place, signs, character :: rest =>
      if character = '=' then
        if 2 ≤ place && 4 ≤ place + (signs + 1) then true
        else fillsUp place (if 2 ≤ place then signs + 1 else signs) rest
      else if isBinaryDigit character then fillsUp ((place + 1) % 4) 0 rest
      else fillsUp place signs rest

def isBinary (text : Text) : Bool :=
  text.all (fun character => character.toNat < 0x80) && fillsUp 0 0 text

end Outline.Yaml.Numeral
