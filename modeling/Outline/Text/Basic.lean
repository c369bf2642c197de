/-
This file defines texts, their white space, and the ways to trim and cut them.
-/

namespace Outline

/-- A text is the list of its characters, which are the scalar values of Unicode: no text holds half a
surrogate pair. -/
abbrev Text := List Char

namespace Text

/-- White space is the tab and its line-ending neighbours, the four separators, the space, and
the wider spaces of Unicode. -/
def spaceRanges : List (Nat × Nat) :=
  [(0x09, 0x0D), (0x1C, 0x20), (0x85, 0x85), (0xA0, 0xA0), (0x1680, 0x1680), (0x2000, 0x200A),
    (0x2028, 0x2029), (0x202F, 0x202F), (0x205F, 0x205F), (0x3000, 0x3000)]

def inRanges (ranges : List (Nat × Nat)) (code : Nat) : Bool :=
  ranges.any fun range => range.1 ≤ code && code ≤ range.2

def isSpace (character : Char) : Bool := inRanges spaceRanges character.toNat

/-- A blank is a space or a tab, the white space that indents a line. -/
def isBlank (character : Char) : Bool := character == ' ' || character == '\t'

def trimLeft (text : Text) : Text := text.dropWhile isSpace

/-- This function drops the longest run at the end that satisfies the test. -/
def dropWhileRight (test : Char → Bool) (text : Text) : Text :=
  (text.reverse.dropWhile test).reverse

def trimRight (text : Text) : Text := dropWhileRight isSpace text

def trim (text : Text) : Text := trimRight (trimLeft text)

def trimBlanks (text : Text) : Text := dropWhileRight isBlank (text.dropWhile isBlank)

/-- The comma-separated pieces are trimmed, and an empty piece is dropped. -/
def commaPieces (text : Text) : List Text :=
  ((text.splitOn ',').map trim).filter fun piece => !piece.isEmpty

/-- The text after the given word, if the text starts with it. -/
def after? (word text : Text) : Option Text := word.isPrefixOf? text

/-- The text after its first white space, of which there is at least one character. -/
def afterSpace? : Text → Option Text
  | [] => none
  | character :: rest => if isSpace character then some (trimLeft rest) else none

def isIdentifierStart (character : Char) : Bool := character.isAlpha || character == '_'

def isIdentifierPart (character : Char) : Bool := character.isAlphanum || character == '_'

/-- An identifier has ASCII letters, digits and underscores, and no digit in front. -/
def isIdentifier : Text → Bool
  | [] => false
  | first :: rest => isIdentifierStart first && rest.all isIdentifierPart

/-- This function reads the longest identifier in front and returns what follows it. -/
def identifier? : Text → Option (Text × Text)
  | [] => none
  | first :: rest =>
      if isIdentifierStart first then
        some (first :: rest.takeWhile isIdentifierPart, rest.dropWhile isIdentifierPart)
      else none

/-- A parenthesised list is closed on the line that opens it. -/
def parenthesised? (text : Text) : Option (Text × Text) := do
  let opened ← after? ['('] text
  let inside := fun character => character != ')' && character != '\n'
  let closed ← after? [')'] (opened.dropWhile inside)
  return (opened.takeWhile inside, closed)

end Text

end Outline
