/-
This file defines patterns, the search that matches them with backtracking, and the patterns of the
constructs that are found in sources.
-/

import Outline.Global

namespace Outline

/-- Of two alternatives the first is tried first, and a repetition goes on as long as it can. A group
captures the text that its body matches. -/
inductive Pattern where
  | empty
  | one (test : Char → Bool)
  | seq (first second : Pattern)
  | alt (first second : Pattern)
  | many (body : Pattern)
  | group (index : Nat) (body : Pattern)
  | textStart
  | lineStart
  | lineEnd
  | textEnd
  | finalLineEnd

namespace Pattern

/-- A state of the search: what has been passed, what is left, and what the groups have captured, where the
last capture comes first. -/
structure State where
  passed : Text
  rest : Text
  groups : List (Nat × Text) := []
  deriving Repr, DecidableEq

def State.captured? (state : State) (index : Nat) : Option Text := state.groups.lookup index

def State.captured (state : State) (index : Nat) : Text := (state.captured? index).getD []

/-- A line starts at the start of the text and behind every line feed. -/
def startsLine (passed : Text) : Bool := passed.getLast?.all (· == '\n')

/-- A line ends at the end of the text and in front of every line feed. -/
def endsLine (rest : Text) : Bool := rest.head?.all (· == '\n')

/-- The last line ends at the end of the text, and in front of a line feed that ends the text. -/
def endsLastLine (rest : Text) : Bool := rest == [] || rest == ['\n']

section

variable {β : Type}

/-- A body is repeated while it reads something, and what comes next is tried after the longest repetition
first. The number bounds the repetitions. -/
def iterate (body : (State → Option β) → State → Option β) (next : State → Option β) :
    Nat → State → Option β
  | 0, state => next state
  | fuel + 1, state =>
      let again := fun after : State =>
        if after.rest.length < state.rest.length then iterate body next fuel after else none
      (body again state).or (next state)

/-- The search tries what comes next in every state that the pattern can lead to, in the order of preference,
until it succeeds. -/
def run : Pattern → (State → Option β) → State → Option β
  | empty, next, state => next state
  | one test, next, state =>
      match state.rest with
      | [] => none
      | character :: rest =>
          if test character then next { state with passed := state.passed ++ [character], rest := rest }
          else none
  | seq first second, next, state => first.run (second.run next) state
  | alt first second, next, state => (first.run next state).or (second.run next state)
  | many body, next, state => iterate body.run next state.rest.length state
  | group index body, next, state =>
      body.run (fun after => next { after with
        groups := (index, after.passed.drop state.passed.length) :: after.groups }) state
  | textStart, next, state => if state.passed.isEmpty then next state else none
  | lineStart, next, state => if startsLine state.passed then next state else none
  | lineEnd, next, state => if endsLine state.rest then next state else none
  | textEnd, next, state => if state.rest.isEmpty then next state else none
  | finalLineEnd, next, state => if endsLastLine state.rest then next state else none

end

/-- The match in front of a text, with what has been passed before it. -/
def match? (pattern : Pattern) (passed text : Text) : Option State := pattern.run some ⟨passed, text, []⟩

/-- The search goes on behind every match. The number counts the characters of the last match that are still in
front. -/
def hitsFrom (pattern : Pattern) : Nat → Text → Text → List (Hit State)
  | _, passed, [] =>
      ((pattern.match? passed []).map fun found => ⟨passed.length, passed.length, found⟩).toList
  | covered + 1, passed, character :: rest => pattern.hitsFrom covered (passed ++ [character]) rest
  | 0, passed, character :: rest =>
      match pattern.match? passed (character :: rest) with
      | none => pattern.hitsFrom 0 (passed ++ [character]) rest
      | some found =>
          let length := (character :: rest).length - found.rest.length
          ⟨passed.length, passed.length + length, found⟩
            :: pattern.hitsFrom (length - 1) (passed ++ [character]) rest

/-- The matches of a pattern that reads something, from left to right; none overlaps the one before it. -/
def hits (pattern : Pattern) (text : Text) : List (Hit State) := pattern.hitsFrom 0 [] text

def sequence : List Pattern → Pattern
  | [] => empty
  | first :: rest => seq first (sequence rest)

def sign (character : Char) : Pattern := one (· == character)

def word (text : Text) : Pattern := sequence (text.map sign)

def optional (body : Pattern) : Pattern := alt body empty

def repeated (body : Pattern) : Pattern := seq body (many body)

def space : Pattern := one Text.isSpace

def blank : Pattern := one Text.isBlank

def inLine : Pattern := one (· != '\n')

def identifier : Pattern := seq (one Text.isIdentifierStart) (many (one Text.isIdentifierPart))

/-- Between parentheses stands anything but a closing one, on one line. -/
def enclosed : Pattern := many (one fun character => character != ')' && character != '\n')

/-- A header starts a line with its keyword and a name. -/
def heading (keyword : Text) : List Pattern :=
  [lineStart, word keyword, repeated space, group 1 identifier]

def parameters (index : Nat) : List Pattern :=
  [many space, sign '(', group index enclosed, sign ')', many space, sign ':']

def functionHeader : Pattern := sequence (heading Signature.keyword ++ parameters 2)

def constructorHeader : Pattern :=
  sequence ([lineStart, repeated blank, word Signature.keyword, repeated space, word ClassText.constructorName]
    ++ parameters 1)

/-- A line of a class body is blank or indented; the last one need not be ended. -/
def bodyLine : Pattern :=
  alt (sequence [lineStart, many blank, sign '\n'])
    (sequence [lineStart, repeated blank, many inLine, alt (sign '\n') textEnd])

def bases : List Pattern :=
  [many space, optional (sequence [sign '(', group 2 enclosed, sign ')', many space]), sign ':']

def classBody : List Pattern :=
  [many space, optional (seq (sign '#') (many inLine)), sign '\n', group 3 (many bodyLine)]

def classHeader : Pattern := sequence (heading ClassText.keyword ++ (bases ++ classBody))

def globalHint : Pattern :=
  seq (one GlobalEntry.isHintStart)
    (optional (seq (many (one GlobalEntry.isHintPart)) (one GlobalEntry.isHintEnd)))

def globalAssignment : Pattern :=
  sequence [lineStart, group 1 identifier, many blank,
    optional (sequence [sign ':', many blank, group 2 globalHint, many blank]), sign '=', many blank,
    group 3 (repeated inLine), lineEnd]

def argumentHint : Pattern :=
  let visible := one fun character => character != '=' && !Text.isSpace character
  seq visible (optional (seq (many (one (· != '='))) visible))

def argumentFragment : Pattern :=
  sequence [textStart, group 1 (optional (seq (sign '*') (optional (sign '*')))), many space,
    group 2 identifier, many space, optional (sequence [sign ':', many space, group 3 argumentHint, many space]),
    optional (sequence [sign '=', many space, repeated inLine]), finalLineEnd]

end Pattern

end Outline
