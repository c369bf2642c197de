/-
This file reads the texts of scalars: plain, quoted and block.
-/

import Outline.Yaml.Cursor

namespace Outline.Yaml

/-- What is read is the value, and what follows it. -/
abbrev Read := Except ReadFault (Text × Text)

/-- A single line feed between two lines is folded into a space; any other break is kept. -/
def fold (first : Char) (later : Text) : Text :=
  if breakValue first ≠ '\n' then breakValue first :: later
  else if later.isEmpty then [' '] else later

namespace Quoted

/-- The breaks of the empty lines in front. No document marker may stand at the start of a line. -/
def breaks (lineStart : Bool) : Text → Read
  | [] => .ok ([], [])
  | character :: rest =>
      if lineStart && atMarker (character :: rest) then .error .malformed
      else if Text.isBlank character then breaks false rest
      else if isBreak character then do
        let (later, unread) ← breaks true rest
        return (breakValue character :: later, unread)
      else .ok ([], character :: rest)

/-- White space inside quotes is kept on a line and folded at its end. -/
def space (text : Text) : Read :=
  match text.dropWhile Text.isBlank with
  | [] => .error .malformed
  | character :: rest =>
      if isBreak character then do
        let (later, unread) ← breaks true rest
        return (fold character later, unread)
      else .ok (text.takeWhile Text.isBlank, character :: rest)

def hexDigit? (character : Char) : Option Nat :=
  if character.isDigit then some (character.toNat - '0'.toNat)
  else if 'a' ≤ character && character ≤ 'f' then some (character.toNat - 'a'.toNat + 10)
  else if 'A' ≤ character && character ≤ 'F' then some (character.toNat - 'A'.toNat + 10)
  else none

def number? (digits : Text) : Option Nat :=
  digits.foldlM (fun number digit => (hexDigit? digit).map (16 * number + ·)) 0

/-- A code is spelled with a fixed number of hexadecimal digits. -/
def code (width : Nat) (text : Text) : Read :=
  match number? (text.take width) with
  | some number =>
      if width ≤ text.length && number < 0x110000 then .ok ([Char.ofNat number], text.drop width)
      else .error .malformed
  | none => .error .malformed

def replacements : List (Char × Char) :=
  [('0', '\x00'), ('a', '\x07'), ('b', '\x08'), ('t', '\t'), ('\t', '\t'), ('n', '\n'),
    ('v', '\x0b'), ('f', '\x0c'), ('r', '\r'), ('e', '\x1b'), (' ', ' '), ('\x22', '\x22'),
    ('\\', '\\'), ('/', '/'), ('N', '\x85'), ('_', '\xa0'), ('L', '\u2028'), ('P', '\u2029')]

/-- An escape is one character, a code, or a break that joins two lines. -/
def escape : Text → Read
  | [] => .error .malformed
  | character :: rest =>
      match replacements.lookup character with
      | some value => .ok ([value], rest)
      | none =>
          if character = 'x' then code 2 rest
          else if character = 'u' then code 4 rest
          else if character = 'U' then code 8 rest
          else if isBreak character then breaks true rest
          else .error .malformed

/-- The text between double quotes, which knows escapes. -/
def double : Nat → Text → Read
  | 0, _ => .error .malformed
  | _, [] => .error .malformed
  | fuel + 1, character :: rest =>
      if character = '\x22' then .ok ([], rest)
      else do
        let (value, unread) ←
          if character = '\\' then escape rest
          else if Text.isBlank character || isBreak character then space (character :: rest)
          else .ok ([character], rest)
        let (later, unread) ← double fuel unread
        return (value ++ later, unread)

/-- The text between single quotes, in which two of them are one. -/
def single : Nat → Text → Read
  | 0, _ => .error .malformed
  | _, [] => .error .malformed
  | fuel + 1, '\x27' :: '\x27' :: rest => do
      let (later, unread) ← single fuel rest
      return ('\x27' :: later, unread)
  | fuel + 1, character :: rest =>
      if character = '\x27' then .ok ([], rest)
      else do
        let (value, unread) ←
          if Text.isBlank character || isBreak character then space (character :: rest)
          else .ok ([character], rest)
        let (later, unread) ← single fuel unread
        return (value ++ later, unread)

end Quoted

namespace Plain

def flowMarks : Text := [',', '[', ']', '{', '}']

/-- The longest run that neither white space nor a mark ends. -/
def word (flow : Bool) : Text → Text
  | [] => []
  | character :: rest =>
      if endsWord (character :: rest)
          || (character == ':'
            && (endsWord rest || (flow && rest.head?.any flowMarks.contains)))
          || (flow && (character == '?' || flowMarks.contains character)) then []
      else character :: word flow rest

/-- White space between two words: its value, what follows it, whether it ends a line, and the
column behind it. -/
structure Space where
  value : Text
  unread : Text
  endsLine : Bool
  column : Nat

/-- The breaks of the empty lines in front, unless a document marker follows one. -/
def breaks (column : Nat) : Text → Option Text × Text × Nat
  | [] => (some [], [], column)
  | character :: rest =>
      if character = ' ' then breaks (column + 1) rest
      else if isBreak character then
        if atMarker rest then (none, rest, 0)
        else
          let (later, unread, column) := breaks 0 rest
          (later.map (breakValue character :: ·), unread, column)
      else (some [], character :: rest, column)

def space (text : Text) : Space :=
  match text.dropWhile (· == ' ') with
  | [] => ⟨text, [], false, 0⟩
  | character :: rest =>
      if isBreak character then
        if atMarker rest then ⟨[], rest, true, 0⟩
        else
          let (later, unread, column) := breaks 0 rest
          ⟨(later.map (fold character)).getD [], unread, true, column⟩
      else ⟨text.takeWhile (· == ' '), character :: rest, false, 0⟩

/-- A plain scalar goes on over white space as long as its lines are indented enough. The last
part says whether a line has ended behind it. -/
def scalar (flow : Bool) (indent : Nat) (space : Text) : Nat → Text → Text × Text × Bool
  | 0, text => ([], text, false)
  | fuel + 1, text =>
      let next := word flow text
      if text.head? = some '#' || next.isEmpty then ([], text, false)
      else
        let gap := Plain.space (text.drop next.length)
        if gap.value.isEmpty || gap.unread.head? = some '#'
            || (!flow && gap.endsLine && gap.column < indent) then
          (space ++ next, gap.unread, gap.endsLine)
        else
          let (later, unread, ended) := scalar flow indent gap.value fuel gap.unread
          (space ++ next ++ later, unread, if later.isEmpty then gap.endsLine else ended)

end Plain

namespace Block

/-- What happens to the breaks at the end of a block. -/
inductive Chomping where
  | strip
  | clip
  | keep
  deriving Repr, DecidableEq

def chomping? : Text → Option (Chomping × Text)
  | '+' :: rest => some (.keep, rest)
  | '-' :: rest => some (.strip, rest)
  | _ => none

def increment? : Text → Option (Nat × Text)
  | character :: rest =>
      if character.isDigit then some (character.toNat - '0'.toNat, rest) else none
  | [] => none

/-- The header of a block names its chomping and its indentation, in either order. -/
def header (text : Text) : Except ReadFault (Chomping × Option Nat × Text) := do
  let (chomping, increment, rest) :=
    match chomping? text with
    | some (chomping, rest) =>
        match increment? rest with
        | some (increment, rest) => (chomping, some increment, rest)
        | none => (chomping, none, rest)
    | none =>
        match increment? text with
        | some (increment, rest) =>
            match chomping? rest with
            | some (chomping, rest) => (chomping, some increment, rest)
            | none => (.clip, some increment, rest)
        | none => (.clip, none, text)
  if increment = some 0 || !endsProperty rest then throw .malformed
  return (chomping, increment, rest)

/-- The rest of a line that may hold a comment and nothing else. -/
def restOfLine (text : Text) : Except ReadFault Text :=
  let text := text.dropWhile (· == ' ')
  let text := if text.head? = some '#' then text.dropWhile (!isBreak ·) else text
  match text with
  | [] => .ok []
  | character :: rest => if isBreak character then .ok rest else .error .malformed

/-- The empty lines in front, the widest indentation seen, and the column and text behind. -/
def leading (column widest : Nat) : Text → Text × Nat × Nat × Text
  | [] => ([], widest, column, [])
  | character :: rest =>
      if character = ' ' then leading (column + 1) (max widest (column + 1)) rest
      else if isBreak character then
        let (later, found) := leading 0 widest rest
        (breakValue character :: later, found)
      else ([], widest, column, character :: rest)

/-- The empty lines in front, when the indentation is known, and the column and text behind. -/
def breaks (indent column : Nat) : Text → Text × Nat × Text
  | [] => ([], column, [])
  | character :: rest =>
      if character = ' ' && column < indent then breaks indent (column + 1) rest
      else if isBreak character then
        let (later, found) := breaks indent 0 rest
        (breakValue character :: later, found)
      else ([], column, character :: rest)

def startsBlank (text : Text) : Bool := text.head?.any Text.isBlank

/-- The lines of a block, each in front of its break and the empty lines behind it. -/
def content (folded : Bool) (chomping : Chomping) (indent : Nat) :
    Nat → Text → Nat → Text → Text × Text
  | 0, _, _, text => ([], text)
  | fuel + 1, before, column, text =>
      if column ≠ indent || text.isEmpty then
        (if chomping = .keep then before else [], text)
      else
        let line := text.takeWhile (!isBreak ·)
        let ending := ((text.dropWhile (!isBreak ·)).take 1).map breakValue
        let (later, column, unread) := breaks indent 0 ((text.dropWhile (!isBreak ·)).drop 1)
        if column = indent && !unread.isEmpty then
          let joint :=
            if folded && ending == ['\n'] && !startsBlank text && !startsBlank unread then
              if later.isEmpty then [' '] else []
            else ending
          let (value, rest) := content folded chomping indent fuel later column unread
          (before ++ line ++ joint ++ value, rest)
        else
          (before ++ line ++ (if chomping = .strip then [] else ending)
            ++ (if chomping = .keep then later else []), unread)

/-- A block is at least one column deeper than the collection around it. -/
def scalar (folded : Bool) (least : Nat) (text : Text) : Read := do
  let (chomping, increment, rest) ← header text
  let text ← restOfLine rest
  match increment with
  | none =>
      let (before, widest, column, unread) := leading 0 0 text
      return content folded chomping (max least widest) (text.length + 1) before column unread
  | some increment =>
      let indent := least + increment - 1
      let (before, column, unread) := breaks indent 0 text
      return content folded chomping indent (text.length + 1) before column unread

end Block

end Outline.Yaml
