/-
This file defines line breaks, and positions in a text.
-/

import Outline.Text.Basic

namespace Outline.Yaml

/-- A text that is no single document cannot be read. -/
inductive ReadFault where
  | malformed
  deriving Repr, DecidableEq

/-- A document may also have contents that do not fit their tags, or a scalar that stands for no value of
its tag, such as a date that the calendar does not have. -/
inductive Fault where
  | malformed
  | failed (message : Text)
  deriving Repr, DecidableEq

def ReadFault.fault : ReadFault → Fault
  | malformed => .malformed

def isBreak (character : Char) : Bool :=
  character == '\n' || character == '\x85' || character == '\u2028' || character == '\u2029'

/-- The next-line character is read as a line feed. -/
def breakValue (character : Char) : Char := if character == '\x85' then '\n' else character

/-- A word ends at the end of the text, at a blank and at a break. -/
def endsWord : Text → Bool
  | [] => true
  | character :: _ => Text.isBlank character || isBreak character

def endsLine : Text → Bool
  | [] => true
  | character :: _ => isBreak character

/-- A property ends where a line ends or a space stands; a tab does not end it. -/
def endsProperty : Text → Bool
  | [] => true
  | character :: _ => character == ' ' || isBreak character

def documentStart : Text := ['-', '-', '-']

def documentEnd : Text := ['.', '.', '.']

/-- The marker stands in front as a word of its own. -/
def startsWith (marker text : Text) : Bool :=
  marker.isPrefixOf text && endsWord (text.drop marker.length)

def atMarker (text : Text) : Bool := startsWith documentStart text || startsWith documentEnd text

/-- A position knows the text behind it, how much was read, and its line and column. -/
structure Cursor where
  rest : Text
  index : Nat := 0
  line : Nat := 0
  column : Nat := 0
  deriving Repr, DecidableEq

namespace Cursor

def byteOrderMark : Char := '\ufeff'

/-- A byte order mark takes no column. -/
def step (cursor : Cursor) : Cursor :=
  match cursor.rest with
  | [] => cursor
  | character :: rest =>
      if isBreak character then ⟨rest, cursor.index + 1, cursor.line + 1, 0⟩
      else if character = byteOrderMark then ⟨rest, cursor.index + 1, cursor.line, cursor.column⟩
      else ⟨rest, cursor.index + 1, cursor.line, cursor.column + 1⟩

def advance (cursor : Cursor) : Nat → Cursor
  | 0 => cursor
  | count + 1 => cursor.step.advance count

/-- The position in front of a text that ends the text behind the cursor. -/
def moveTo (cursor : Cursor) (rest : Text) : Cursor :=
  cursor.advance (cursor.rest.length - rest.length)

end Cursor

end Outline.Yaml
