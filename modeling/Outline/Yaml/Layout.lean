/-
This file cuts a text into tokens, among them those that only its layout spells.
-/

import Outline.Yaml.Token

namespace Outline.Yaml

/-- A token that may turn out to be a key, when a colon follows it on its line. A required key has
to: nothing else may stand where it does. -/
structure PossibleKey where
  number : Nat
  required : Bool
  index : Nat
  line : Nat
  column : Nat
  deriving Repr, DecidableEq

/-- The state of the cut. The column of the innermost block collection is one less than `indent`,
so that none is zero. The tokens are held in reverse. -/
structure Layout where
  cursor : Cursor
  depth : Nat := 0
  indent : Nat := 0
  outer : List Nat := []
  keyAllowed : Bool := true
  keys : List (Nat × PossibleKey) := []
  tokens : List Token := []
  deriving Repr, DecidableEq

namespace Layout

def keyReach : Nat := 1024

def inFlow (layout : Layout) : Bool := 0 < layout.depth

def push (layout : Layout) (token : Token) : Layout :=
  { layout with tokens := token :: layout.tokens }

def moveTo (layout : Layout) (rest : Text) : Layout :=
  { layout with cursor := layout.cursor.moveTo rest }

def allowKey (layout : Layout) (allowed : Bool) : Layout := { layout with keyAllowed := allowed }

/-- A token that is put in front of the one with the given number. -/
def insert (layout : Layout) (number : Nat) (token : Token) : Layout :=
  let later := layout.tokens.length - number
  { layout with tokens := layout.tokens.take later ++ token :: layout.tokens.drop later }

/-- A possible key is given up; that is an error if it is required. -/
def giveUp (key : PossibleKey) : Except ReadFault Unit :=
  if key.required then .error .malformed else .ok ()

def isStale (layout : Layout) (key : PossibleKey) : Bool :=
  key.line != layout.cursor.line || layout.cursor.index - key.index > keyReach

/-- Keys of earlier lines, and keys too far behind, are given up. -/
def dropStale (layout : Layout) : Except ReadFault Layout := do
  for (_, key) in layout.keys do
    if layout.isStale key then giveUp key
  return { layout with keys := layout.keys.filter fun entry => !layout.isStale entry.2 }

/-- The possible key of this depth is given up. -/
def forgetKey (layout : Layout) : Except ReadFault Layout := do
  if let some key := layout.keys.lookup layout.depth then giveUp key
  return { layout with keys := layout.keys.filter fun entry => entry.1 != layout.depth }

/-- The next token may be a key. -/
def markKey (layout : Layout) : Except ReadFault Layout := do
  if !layout.keyAllowed then return layout
  let cursor := layout.cursor
  let layout ← layout.forgetKey
  let key : PossibleKey :=
    { number := layout.tokens.length
      required := !layout.inFlow && layout.indent == cursor.column + 1
      index := cursor.index, line := cursor.line, column := cursor.column }
  return { layout with keys := (layout.depth, key) :: layout.keys }

/-- Block collections that are indented as far as the limit or further end here. -/
def closeBlocks (limit : Nat) (layout : Layout) : Nat → Layout
  | 0 => layout
  | fuel + 1 =>
      if layout.inFlow || layout.indent ≤ limit then layout
      else
        closeBlocks limit ({ layout with
          indent := layout.outer.headD 0, outer := layout.outer.tail }.push .blockEnd) fuel

def unwind (layout : Layout) (limit : Nat) : Layout :=
  closeBlocks limit layout (layout.outer.length + 1)

/-- A block collection starts at a column that is deeper than the ones around it. -/
def opens (layout : Layout) (column : Nat) : Bool := layout.indent ≤ column

def openBlock (layout : Layout) (column : Nat) : Layout :=
  { layout with indent := column + 1, outer := layout.indent :: layout.outer }

/-- The white space and the comments in front are skipped. The flag says whether a line ended. -/
def skip (comment crossed : Bool) : Text → Text × Bool
  | [] => ([], crossed)
  | character :: rest =>
      if isBreak character then skip false true rest
      else if comment || character = ' ' then skip comment crossed rest
      else if character = '#' then skip true crossed rest
      else (character :: rest, crossed)

def skipSpace (layout : Layout) : Layout :=
  let text :=
    match layout.cursor.rest with
    | character :: rest =>
        if layout.cursor.index = 0 && character = Cursor.byteOrderMark then rest
        else character :: rest
    | [] => []
  let (rest, crossed) := skip false false text
  let layout := layout.moveTo rest
  if crossed && !layout.inFlow then layout.allowKey true else layout

/-- A mark of one character. -/
def mark (layout : Layout) (token : Token) : Layout :=
  { layout with cursor := layout.cursor.step }.push token

def marker (layout : Layout) (token : Token) : Except ReadFault Layout := do
  let layout ← (layout.unwind 0).forgetKey
  return ({ layout with cursor := layout.cursor.advance 3 }.allowKey false).push token

def directive (layout : Layout) (rest : Text) : Except ReadFault Layout := do
  let layout ← (layout.unwind 0).forgetKey
  let (token, unread) ← Token.readDirective rest
  return ((layout.moveTo unread).allowKey false).push token

def openFlow (layout : Layout) (token : Token) : Except ReadFault Layout := do
  let layout ← layout.markKey
  return ({ layout with depth := layout.depth + 1 }.allowKey true).mark token

/-- A bracket that closes nothing is an error. -/
def closeFlow (layout : Layout) (token : Token) : Except ReadFault Layout := do
  if !layout.inFlow then throw .malformed
  let layout ← layout.forgetKey
  return ({ layout with depth := layout.depth - 1 }.allowKey false).mark token

def comma (layout : Layout) : Except ReadFault Layout := do
  return ((← layout.forgetKey).allowKey true).mark .commaMark

/-- A block collection of the given kind starts here, unless one at this column has started. -/
def startBlock (layout : Layout) (token : Token) : Except ReadFault Layout :=
  if layout.inFlow then .ok layout
  else if !layout.keyAllowed then .error .malformed
  else if layout.opens layout.cursor.column then
    .ok ((layout.openBlock layout.cursor.column).push token)
  else .ok layout

def item (layout : Layout) : Except ReadFault Layout := do
  let layout ← layout.startBlock .blockSequence
  return ((← layout.forgetKey).allowKey true).mark .itemMark

def explicitKey (layout : Layout) : Except ReadFault Layout := do
  let layout ← layout.startBlock .blockMapping
  return ((← layout.forgetKey).allowKey (!layout.inFlow)).mark .keyMark

/-- The colon makes a key of the possible key in front of it, if there is one. -/
def value (layout : Layout) : Except ReadFault Layout := do
  match layout.keys.lookup layout.depth with
  | some key =>
      let layout :=
        { layout with keys := layout.keys.filter fun entry => entry.1 != layout.depth }
      let layout := layout.insert key.number .keyMark
      let layout :=
        if !layout.inFlow && layout.opens key.column then
          (layout.openBlock key.column).insert key.number .blockMapping
        else layout
      return (layout.allowKey false).mark .valueMark
  | none =>
      let layout ← layout.startBlock .blockMapping
      return ((← layout.forgetKey).allowKey (!layout.inFlow)).mark .valueMark

/-- A token that may be a key, read from behind the cursor. -/
def property (layout : Layout) (read : Except ReadFault (Token × Text)) :
    Except ReadFault Layout := do
  let layout ← layout.markKey
  let (token, unread) ← read
  return ((layout.moveTo unread).allowKey false).push token

def quoted (layout : Layout) (read : Read) : Except ReadFault Layout :=
  layout.property (read.map fun found => (.scalar found.1 false, found.2))

def block (layout : Layout) (folded : Bool) (rest : Text) : Except ReadFault Layout := do
  let layout ← layout.forgetKey
  let (text, unread) ← Block.scalar folded (max 1 layout.indent) rest
  return ((layout.moveTo unread).allowKey true).push (.scalar text false)

def plain (layout : Layout) : Except ReadFault Layout := do
  let layout ← layout.markKey
  let rest := layout.cursor.rest
  let (text, unread, ended) :=
    Plain.scalar layout.inFlow layout.indent [] (rest.length + 1) rest
  return ((layout.moveTo unread).allowKey ended).push (.scalar text true)

def indicators : Text := "-?:,[]\x7b\x7d#&*!|>\x27\x22%@\x60".toList

/-- A plain scalar starts with no indicator, or with one of three that a word follows. -/
def startsPlain (layout : Layout) (character : Char) (rest : Text) : Bool :=
  (!endsWord [character] && !indicators.contains character)
    || (!endsWord rest
      && (character == '-' || (!layout.inFlow && (character == '?' || character == ':'))))

/-- The token that starts with the given character is read. -/
def token (layout : Layout) (character : Char) (rest : Text) : Except ReadFault Layout :=
  let text := character :: rest
  let lineStart := layout.cursor.column = 0
  let isMark := layout.inFlow || endsWord rest
  if character = '%' && lineStart then layout.directive rest
  else if lineStart && startsWith documentStart text then layout.marker .documentStart
  else if lineStart && startsWith documentEnd text then layout.marker .documentEnd
  else if character = '[' then layout.openFlow .flowSequence
  else if character = '{' then layout.openFlow .flowMapping
  else if character = ']' then layout.closeFlow .flowSequenceEnd
  else if character = '}' then layout.closeFlow .flowMappingEnd
  else if character = ',' then layout.comma
  else if character = '-' && endsWord rest then layout.item
  else if character = '?' && isMark then layout.explicitKey
  else if character = ':' && isMark then layout.value
  else if character = '*' then
    layout.property ((Token.anchorName rest).map fun found => (.alias found.1, found.2))
  else if character = '&' then
    layout.property ((Token.anchorName rest).map fun found => (.anchor found.1, found.2))
  else if character = '!' then layout.property (Token.readTag text)
  else if character = '|' && !layout.inFlow then layout.block false rest
  else if character = '>' && !layout.inFlow then layout.block true rest
  else if character = '\x27' then layout.quoted (Quoted.single (text.length + 1) rest)
  else if character = '\x22' then layout.quoted (Quoted.double (text.length + 1) rest)
  else if layout.startsPlain character rest then layout.plain
  else .error .malformed

/-- Every token takes at least one character, so the fuel that starts as the length suffices. -/
def run (layout : Layout) : Nat → Except ReadFault (List Token)
  | 0 => .error .malformed
  | fuel + 1 => do
      let layout ← layout.skipSpace.dropStale
      let layout := layout.unwind (layout.cursor.column + 1)
      match layout.cursor.rest with
      | [] => return (← (layout.unwind 0).forgetKey).tokens.reverse
      | character :: rest => (← layout.token character rest).run fuel

end Layout

/-- A text is written in characters that may stand in a document. -/
def isAllowed (character : Char) : Bool :=
  Text.inRanges [(0x09, 0x0A), (0x0D, 0x0D), (0x20, 0x7E), (0x85, 0x85), (0xA0, 0xFFFD),
    (0x10000, 0x10FFFF)] character.toNat

def Token.listOf (text : Text) : Except ReadFault (List Token) :=
  if text.all isAllowed then ({ cursor := { rest := text } } : Layout).run (text.length + 1)
  else .error .malformed

end Outline.Yaml
