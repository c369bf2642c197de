/-
This file defines JSON values and the text they are written as.
-/

import Outline.Text.Quoted

namespace Outline

/-- The fields of an object keep their order. Numbers may be of any type; those of the records that
are written are integers. -/
inductive Json (ν : Type := Int) where
  | null
  | bool (value : Bool)
  | number (value : ν)
  | string (text : Text)
  | array (items : List (Json ν))
  | object (fields : List (Text × Json ν))
  deriving Repr, Inhabited

namespace Json

section

variable {ν : Type}

def isNull : Json ν → Bool
  | null => true
  | _ => false

mutual

/-- Every field that is null is dropped, at every depth; a null in an array stays. -/
def dropNulls : Json ν → Json ν
  | array items => array (dropNullsItems items)
  | object fields => object (dropNullsFields fields)
  | value => value

def dropNullsItems : List (Json ν) → List (Json ν)
  | [] => []
  | item :: rest => dropNulls item :: dropNullsItems rest

def dropNullsFields : List (Text × Json ν) → List (Text × Json ν)
  | [] => []
  | (key, value) :: rest =>
      if value.isNull then dropNullsFields rest
      else (key, dropNulls value) :: dropNullsFields rest

end

end

/-- The escape of one UTF-16 unit. -/
def unitEscape (unit : Nat) : Text := ['\\', 'u'] ++ Text.hexadecimal 4 unit

/-- A code point above the basic plane is escaped as a pair of surrogates. -/
def codeEscape (code : Nat) : Text :=
  if code < 0x10000 then unitEscape code
  else
    unitEscape (0xD800 + (code - 0x10000) / 0x400) ++ unitEscape (0xDC00 + (code - 0x10000) % 0x400)

/-- Only printable ASCII is written as it is. -/
def escapedCharacter (character : Char) : Text :=
  if character = '\x22' then ['\\', '\x22']
  else if character = '\\' then ['\\', '\\']
  else if character = '\n' then ['\\', 'n']
  else if character = '\r' then ['\\', 'r']
  else if character = '\t' then ['\\', 't']
  else if character = '\x0c' then ['\\', 'f']
  else if character = '\x08' then ['\\', 'b']
  else if ' ' ≤ character && character ≤ '~' then [character]
  else codeEscape character.toNat

def renderString (text : Text) : Text := ['\x22'] ++ text.flatMap escapedCharacter ++ ['\x22']

def renderNumber (value : Int) : Text :=
  match value with
  | .ofNat magnitude => Text.decimal magnitude
  | .negSucc magnitude => '-' :: Text.decimal (magnitude + 1)

/-- A new line is indented by two spaces for each level. -/
def newLine (level : Nat) : Text := '\n' :: List.replicate (2 * level) ' '

mutual

/-- Each item and each field of a container has a line of its own; an empty container has none. -/
def renderAt (level : Nat) : Json → Text
  | null => "null".toList
  | bool true => "true".toList
  | bool false => "false".toList
  | number value => renderNumber value
  | string text => renderString text
  | array [] => ['[', ']']
  | array (item :: rest) =>
      ['['] ++ newLine (level + 1) ++ renderAt (level + 1) item ++ renderItems (level + 1) rest
        ++ newLine level ++ [']']
  | object [] => ['{', '}']
  | object ((key, value) :: rest) =>
      ['{'] ++ newLine (level + 1) ++ renderString key ++ [':', ' '] ++ renderAt (level + 1) value
        ++ renderFields (level + 1) rest ++ newLine level ++ ['}']

def renderItems (level : Nat) : List Json → Text
  | [] => []
  | item :: rest => [','] ++ newLine level ++ renderAt level item ++ renderItems level rest

def renderFields (level : Nat) : List (Text × Json) → Text
  | [] => []
  | (key, value) :: rest =>
      [','] ++ newLine level ++ renderString key ++ [':', ' '] ++ renderAt level value
        ++ renderFields level rest

end

def render (value : Json) : Text := renderAt 0 value

end Json

end Outline
