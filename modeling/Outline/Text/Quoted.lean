/-
This file writes a text between quotes, with escapes for what cannot be printed.
-/

import Outline.Text.Printable

namespace Outline.Text

/-- The hexadecimal digits of a number, in lower case and padded with zeros to a width. -/
def hexadecimal (width number : Nat) : Text :=
  let digits := Nat.toDigits 16 number
  List.replicate (width - digits.length) '0' ++ digits

def decimal (number : Nat) : Text := Nat.toDigits 10 number

/-- The escape of a code point is as short as its number allows: two, four or eight digits. -/
def codeEscape (code : Nat) : Text :=
  if code < 0x100 then ['\\', 'x'] ++ hexadecimal 2 code
  else if code < 0x10000 then ['\\', 'u'] ++ hexadecimal 4 code
  else ['\\', 'U'] ++ hexadecimal 8 code

def quotedCharacter (quote character : Char) : Text :=
  if character = quote || character = '\\' then ['\\', character]
  else if character = '\t' then ['\\', 't']
  else if character = '\n' then ['\\', 'n']
  else if character = '\r' then ['\\', 'r']
  else if isPrintable character then [character]
  else codeEscape character.toNat

/-- Double quotes are used only around a text that holds a single quote and no double one. -/
def quoteFor (text : Text) : Char :=
  if text.contains '\x27' && !text.contains '\x22' then '\x22' else '\x27'

def quoted (text : Text) : Text :=
  let quote := quoteFor text
  quote :: text.flatMap (quotedCharacter quote) ++ [quote]

end Outline.Text
