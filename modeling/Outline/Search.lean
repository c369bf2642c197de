/-
This file searches a text for the constructs that start at the beginning of a line.
-/

import Outline.Text.Basic

namespace Outline

/-- A reader recognises a construct in front of a text and returns it with what follows. -/
abbrev Reader (α : Type) := Text → Option (α × Text)

/-- A hit is a construct with the span of the text that spells it. -/
structure Hit (α : Type) where
  start : Nat
  stop : Nat
  value : α
  deriving Repr, DecidableEq

namespace Reader

variable {α : Type}

/-- The search tries each line start that no earlier hit covers. The second number counts the
characters of the last hit that are still in front. -/
def hitsFrom (read : Reader α) : Nat → Nat → Bool → Text → List (Hit α)
  | _, _, _, [] => []
  | position, covered + 1, _, character :: rest =>
      hitsFrom read (position + 1) covered (character == '\n') rest
  | position, 0, false, character :: rest =>
      hitsFrom read (position + 1) 0 (character == '\n') rest
  | position, 0, true, character :: rest =>
      match read (character :: rest) with
      | none => hitsFrom read (position + 1) 0 (character == '\n') rest
      | some (value, unread) =>
          let length := (character :: rest).length - unread.length
          ⟨position, position + length, value⟩
            :: hitsFrom read (position + 1) (length - 1) (character == '\n') rest

/-- The hits are found from left to right, and none overlaps the one before it. -/
def hits (read : Reader α) (text : Text) : List (Hit α) := hitsFrom read 0 0 true text

def values (read : Reader α) (text : Text) : List α := (read.hits text).map Hit.value

def first? (read : Reader α) (text : Text) : Option α := (read.values text).head?

end Reader

end Outline
