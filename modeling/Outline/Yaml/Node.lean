/-
This file builds the nodes of a document from its tokens.
-/

import Outline.Yaml.Layout

namespace Outline.Yaml

/-- The anchor of a node, and its tag with the handle spelled out. -/
structure Properties where
  anchor : Option Text := none
  tag : Option Text := none
  deriving Repr, DecidableEq

inductive Node where
  | alias (name : Text)
  | scalar (properties : Properties) (text : Text) (plain : Bool)
  | sequence (properties : Properties) (items : List Node)
  | mapping (properties : Properties) (entries : List (Node × Node))
  deriving Repr

/-- A document is its root, with the nodes that its aliases stand for. Its size is at least the number of
its nodes. -/
structure Document where
  root : Node
  anchored : List (Text × Node)
  size : Nat
  deriving Repr

namespace Node

/-- A node that is not written. -/
def empty : Node := .scalar {} [] true

def standardStem : Text := "tag:yaml.org,2002:".toList

/-- What the handles of tags stand for. -/
abbrev Handles := List (Text × Text)

def standardHandles : Handles := [(['!'], ['!']), (['!', '!'], standardStem)]

/-- The tokens that are left, the anchors met so far, and the anchored nodes that are complete. -/
structure State where
  tokens : List Token
  known : List Text := []
  anchored : List (Text × Node) := []
  deriving Repr

abbrev Build := StateT State (Except ReadFault)

def fail {α : Type} : Build α := throw ReadFault.malformed

def peek? : Build (Option Token) := do return (← get).tokens.head?

def advance : Build Unit := modify fun state => { state with tokens := state.tokens.tail }

/-- The next token is taken if it is the given one. -/
def accept (token : Token) : Build Bool := do
  if (← peek?) == some token then
    advance
    return true
  else return false

def expect (token : Token) : Build Unit := do
  if !(← accept token) then fail

def nextIsOneOf (tokens : List Token) : Build Bool := do
  return (← peek?).any tokens.contains

def anchor? : Build (Option Text) := do
  match ← peek? with
  | some (.anchor name) =>
      advance
      return some name
  | _ => return none

def tag? (handles : Handles) : Build (Option Text) := do
  match ← peek? with
  | some (.tag none suffix) =>
      advance
      return some suffix
  | some (.tag (some handle) suffix) =>
      advance
      match handles.lookup handle with
      | some stem => return some (stem ++ suffix)
      | none => fail
  | _ => return none

/-- The anchor and the tag stand in either order. An anchor names one node only. -/
def properties (handles : Handles) : Build Properties := do
  let first ← anchor?
  let tag ← tag? handles
  let anchor ← if first.isSome then pure first else anchor?
  if let some name := anchor then
    if (← get).known.contains name then fail
    modify fun state => { state with known := name :: state.known }
  return ⟨anchor, tag⟩

/-- A node that is complete can be found by its anchor. -/
def complete (properties : Properties) (node : Node) : Build Node := do
  if let some name := properties.anchor then
    modify fun state => { state with anchored := (name, node) :: state.anchored }
  return node

mutual

/-- A node of a block or of a flow; in a mapping the items of a sequence may stand without a block
of their own. -/
def build (handles : Handles) (block bare : Bool) : Nat → Build Node
  | 0 => fail
  | fuel + 1 => do
      if let some (.alias name) ← peek? then
        advance
        if (← get).known.contains name then return .alias name else fail
      let properties ← properties handles
      match ← peek? with
      | some (.scalar text plain) =>
          advance
          complete properties (.scalar properties text plain)
      | some .flowSequence =>
          advance
          complete properties (.sequence properties (← flowItems handles true fuel))
      | some .flowMapping =>
          advance
          complete properties (.mapping properties (← flowEntries handles true fuel))
      | some .itemMark =>
          if !bare then fail
          complete properties (.sequence properties (← bareItems handles fuel))
      | some .blockSequence =>
          if !block then fail
          advance
          complete properties (.sequence properties (← blockItems handles fuel))
      | some .blockMapping =>
          if !block then fail
          advance
          complete properties (.mapping properties (← blockEntries handles fuel))
      | _ =>
          if properties == {} then fail
          complete properties (.scalar properties [] true)

/-- A node that is empty in front of the given tokens. -/
def buildUnless (handles : Handles) (block bare : Bool) (ends : List Token) : Nat → Build Node
  | 0 => fail
  | fuel + 1 => do
      if ← nextIsOneOf ends then return empty else build handles block bare fuel

def blockItems (handles : Handles) : Nat → Build (List Node)
  | 0 => fail
  | fuel + 1 => do
      if ← accept .itemMark then
        let item ← buildUnless handles true false [.itemMark, .blockEnd] fuel
        return item :: (← blockItems handles fuel)
      expect .blockEnd
      return []

def bareItems (handles : Handles) : Nat → Build (List Node)
  | 0 => fail
  | fuel + 1 => do
      if ← accept .itemMark then
        let item ← buildUnless handles true false [.itemMark, .keyMark, .valueMark, .blockEnd] fuel
        return item :: (← bareItems handles fuel)
      return []

def blockEntries (handles : Handles) : Nat → Build (List (Node × Node))
  | 0 => fail
  | fuel + 1 => do
      let ends := [.keyMark, .valueMark, .blockEnd]
      if ← accept .keyMark then
        let key ← buildUnless handles true true ends fuel
        let value ← value handles true ends fuel
        return (key, value) :: (← blockEntries handles fuel)
      expect .blockEnd
      return []

/-- The value of an entry is empty without its mark. -/
def value (handles : Handles) (block : Bool) (ends : List Token) : Nat → Build Node
  | 0 => fail
  | fuel + 1 => do
      if ← accept .valueMark then buildUnless handles block block ends fuel else return empty

def flowItems (handles : Handles) (first : Bool) : Nat → Build (List Node)
  | 0 => fail
  | fuel + 1 => do
      if ← accept .flowSequenceEnd then return []
      if !first then expect .commaMark
      if ← accept .flowSequenceEnd then return []
      let ends := [.commaMark, .flowSequenceEnd]
      if ← accept .keyMark then
        let key ← buildUnless handles false false (.valueMark :: ends) fuel
        let value ← value handles false ends fuel
        return .mapping {} [(key, value)] :: (← flowItems handles false fuel)
      let item ← build handles false false fuel
      return item :: (← flowItems handles false fuel)

def flowEntries (handles : Handles) (first : Bool) : Nat → Build (List (Node × Node))
  | 0 => fail
  | fuel + 1 => do
      if ← accept .flowMappingEnd then return []
      if !first then expect .commaMark
      if ← accept .flowMappingEnd then return []
      let ends := [.commaMark, .flowMappingEnd]
      if ← accept .keyMark then
        let key ← buildUnless handles false false (.valueMark :: ends) fuel
        let value ← value handles false ends fuel
        return (key, value) :: (← flowEntries handles false fuel)
      let key ← build handles false false fuel
      return (key, empty) :: (← flowEntries handles false fuel)

end

/-- The handles that the directives declare, none of them twice, and a version that is known. -/
def declared (versioned : Bool) (handles : Handles) : Nat → Build Handles
  | 0 => fail
  | fuel + 1 => do
      match ← peek? with
      | some (.directive (.version major)) =>
          if versioned || major ≠ 1 then fail
          advance
          declared true handles fuel
      | some (.directive (.tag handle stem)) =>
          if (handles.lookup handle).isSome then fail
          advance
          declared versioned ((handle, stem) :: handles) fuel
      | some (.directive .other) =>
          advance
          declared versioned handles fuel
      | _ => return handles ++ standardHandles

/-- A document whose start is marked may have directives, and may be empty. -/
def marked (fuel : Nat) : Build Node := do
  let handles ← declared false [] fuel
  expect .documentStart
  match ← peek? with
  | none => return empty
  | some .documentStart => return empty
  | some .documentEnd => return empty
  | some (.directive _) => return empty
  | _ => build handles true false fuel

def single? (fuel : Nat) : Build (Option Node) := do
  match ← peek? with
  | none => return none
  | some .documentStart => return some (← marked fuel)
  | some (.directive _) => return some (← marked fuel)
  | _ => return some (← build standardHandles true false fuel)

end Node

/-- The tokens spell one document at most, and nothing but its end follows. Three steps a token
are enough. -/
def Document.ofTokens? (tokens : List Token) : Except ReadFault (Option Document) := do
  let (root, state) ← (Node.single? (3 * tokens.length + 3)).run { tokens := tokens }
  if state.tokens.all (· == .documentEnd) then
    return root.map fun root => ⟨root, state.anchored, 3 * tokens.length + 3⟩
  else throw .malformed

end Outline.Yaml
