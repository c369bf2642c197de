/-
This file finds the classes of a source text.
-/

import Outline.Function

namespace Outline

/-- A class is known by its name, its bases as written, and the arguments of its constructor. -/
structure ClassEntry where
  name : Text
  bases : List Text := []
  constructorArguments : List Argument := []
  deriving Repr, DecidableEq

/-- A class text is a class header with its bases uninterpreted and its indented body. -/
structure ClassText where
  name : Text
  bases : Option Text
  body : Text
  deriving Repr, DecidableEq

namespace ClassText

def keyword : Text := ['c', 'l', 'a', 's', 's']

def constructorName : Text := ['_', '_', 'i', 'n', 'i', 't', '_', '_']

/-- The bases are optional, and white space may follow them. -/
def bases? (text : Text) : Option (Option Text × Text) :=
  match text with
  | '(' :: _ => (Text.parenthesised? text).map fun read => (some read.1, Text.trimLeft read.2)
  | _ => some (none, text)

/-- The text after the last line feed of the gap, if the gap has one. -/
def afterGap? (gap rest : Text) : Option Text :=
  if gap.contains '\n' then some ((gap.reverse.takeWhile (· != '\n')).reverse ++ rest) else none

/-- The body starts on a new line: after the comment that is next, or else after the last line feed
of the white space in front. -/
def headerEnd? (text : Text) : Option Text :=
  let gap := text.takeWhile Text.isSpace
  let rest := text.dropWhile Text.isSpace
  match rest with
  | '#' :: comment =>
      match comment.dropWhile (· != '\n') with
      | _ :: body => some body
      | [] => afterGap? gap rest
  | _ => afterGap? gap rest

/-- A line of the body is empty or starts with a blank, so its first character decides. -/
def startsBodyLine (first : Char) : Bool := Text.isBlank first || first == '\n'

/-- The body is the longest run of body lines in front; what follows it is returned too. -/
def splitBody (lineStart : Bool) : Text → Text × Text
  | [] => ([], [])
  | character :: rest =>
      if lineStart && !startsBodyLine character then ([], character :: rest)
      else
        let (body, after) := splitBody (character == '\n') rest
        (character :: body, after)

def read? : Reader ClassText := fun text => do
  let named ← Text.afterSpace? (← Text.after? keyword text)
  let (name, rest) ← Text.identifier? named
  let (bases, rest) ← bases? (Text.trimLeft rest)
  let (body, rest) := splitBody true (← headerEnd? (← Text.after? [':'] rest))
  return (⟨name, bases, body⟩, rest)

/-- A constructor is an indented function of the reserved name; its parameters are kept. -/
def constructor? : Reader Text := fun text => do
  let word ← match text with
    | first :: rest => if Text.isBlank first then some (rest.dropWhile Text.isBlank) else none
    | [] => none
  let named ← Text.afterSpace? (← Text.after? Signature.keyword word)
  let rest ← Text.after? constructorName named
  Signature.parameters? rest

/-- The parameters of the first constructor in the body, or no text if the body has none. -/
def constructorParameters (text : ClassText) : Text := (constructor?.first? text.body).getD []

def toClass (text : ClassText) : ClassEntry where
  name := text.name
  bases := Text.commaPieces (text.bases.getD [])
  constructorArguments := Argument.listOf text.constructorParameters

end ClassText

namespace ClassEntry

def listOf (source : Text) : List ClassEntry :=
  (ClassText.read?.values source).map ClassText.toClass

def renderHeader (entry : ClassEntry) : Text :=
  "class ".toList ++ entry.name
    ++ (if entry.bases.isEmpty then [] else ['('] ++ [',', ' '].intercalate entry.bases ++ [')'])
    ++ [':']

/-- Only a class with bases is written with its constructor. -/
def render (entry : ClassEntry) : Text :=
  if entry.bases.isEmpty || entry.constructorArguments.isEmpty then entry.renderHeader
  else entry.renderHeader ++ "\n    def __init__(".toList
    ++ Argument.renderList entry.constructorArguments ++ "):\n        pass".toList

end ClassEntry

end Outline
