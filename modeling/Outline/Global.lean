/-
This file finds the global variables of a source text.
-/

import Outline.Class

namespace Outline

/-- A global variable is known by its name, its type hint and the text assigned to it. -/
structure GlobalEntry where
  name : Text
  hint : Option Text := none
  value : Text := []
  deriving Repr, DecidableEq

namespace GlobalEntry

def isHintStart (character : Char) : Bool :=
  Text.isIdentifierPart character || character == '[' || character == ']' || character == '.'

def isHintPart (character : Char) : Bool :=
  isHintStart character || character == ',' || character == ' '

def isHintEnd (character : Char) : Bool :=
  Text.isIdentifierPart character || character == ']' || character == '.'

/-- A type hint is one character, or more of which the last does not open a bracket. -/
def isHint : Text → Bool
  | [] => false
  | first :: rest =>
      isHintStart first
        && (match rest.getLast? with
          | none => true
          | some last => rest.dropLast.all isHintPart && isHintEnd last)

/-- The type hint and the assigned text that follow a name and its blanks. -/
def assigned? : Text → Option (Option Text × Text)
  | '=' :: value => some (none, value)
  | ':' :: rest =>
      let hint := Text.trimBlanks (rest.takeWhile (· != '='))
      match rest.dropWhile (· != '=') with
      | _ :: value => if isHint hint then some (some hint, value) else none
      | [] => none
  | _ => none

/-- An assignment fills its line, and at least one character follows the equals sign. -/
def ofLine? (line : Text) : Option GlobalEntry := do
  let (name, rest) ← Text.identifier? line
  let (hint, value) ← assigned? (rest.dropWhile Text.isBlank)
  if value.isEmpty then none else some ⟨name, hint, Text.trim value⟩

def read? : Reader GlobalEntry := fun text =>
  (ofLine? (text.takeWhile (· != '\n'))).map fun entry => (entry, text.dropWhile (· != '\n'))

def decorator : Text := ['@']

/-- A line is at the top level if it is not empty, starts with no white space, and starts neither
with a keyword nor with a decorator. -/
def isTopLevel (line : Text) : Bool :=
  match line with
  | [] => false
  | first :: _ =>
      !Text.isSpace first && !Signature.keyword.isPrefixOf line
        && !ClassText.keyword.isPrefixOf line && !decorator.isPrefixOf line

/-- The top-level lines alone, put together again. -/
def topLevel (source : Text) : Text := ['\n'].intercalate ((source.splitOn '\n').filter isTopLevel)

def listOf (source : Text) : List GlobalEntry := read?.values (topLevel source)

def render (entry : GlobalEntry) : Text :=
  entry.name
    ++ (match entry.hint with
      | none => []
      | some hint => [':', ' '] ++ hint)
    ++ [' ', '=', ' '] ++ entry.value

end GlobalEntry

end Outline
