/-
This file checks the contents of a document and looks switches up in it.
-/

import Outline.Yaml.Node
import Outline.Yaml.Numeral
import Outline.Yaml.Timestamp

namespace Outline.Yaml

/-- The tags that a document may use. A number that is not tagged is taken for a text if it has a value,
for a document is only searched for switches. -/
inductive Tag where
  | text
  | boolean
  | timestamp
  | integer
  | float
  | binary
  | other
  | mergeKey
  | valueKey
  | sequence
  | mapping
  | set
  | pairs
  | unknown
  deriving Repr, DecidableEq

namespace Tag

def standard : List (String × Tag) :=
  [("str", .text), ("bool", .boolean), ("timestamp", .timestamp), ("null", .other),
    ("int", .integer), ("float", .float), ("binary", .binary), ("merge", .mergeKey), ("value", .valueKey),
    ("seq", .sequence), ("map", .mapping), ("set", .set), ("omap", .pairs), ("pairs", .pairs)]

def ofName (name : Text) : Tag :=
  match Text.after? Node.standardStem name with
  | some suffix => (standard.lookup (String.ofList suffix)).getD .unknown
  | none => .unknown

def switches : List (Text × Bool) :=
  [("yes", true), ("no", false), ("true", true), ("false", false), ("on", true),
    ("off", false)].map fun entry => (entry.1.toList, entry.2)

/-- A switch is written in lower case, in upper case or with a capital. -/
def isSwitch (text : Text) : Bool :=
  switches.any fun entry =>
    text == entry.1 || text == entry.1.map Char.toUpper
      || text == (match entry.1 with
        | [] => []
        | first :: rest => first.toUpper :: rest)

/-- The tag that a text has of itself. -/
def ofPlain (text : Text) : Tag :=
  if isSwitch text then .boolean
  else if text = ['<', '<'] then .mergeKey
  else if text = ['='] then .valueKey
  else if Timestamp.isPlain text then .timestamp
  else if Numeral.lacksDigits text then .integer
  else .text

end Tag

namespace Node

/-- A tag that is only an exclamation mark leaves the choice to the node. -/
def chosenTag (properties : Properties) (otherwise unmarked : Tag) : Tag :=
  match properties.tag with
  | none => otherwise
  | some name => if name = ['!'] then unmarked else Tag.ofName name

def tag : Node → Tag
  | .alias _ => .other
  | .scalar properties text plain =>
      let unmarked := Tag.ofPlain text
      chosenTag properties (if plain then unmarked else .text) unmarked
  | .sequence properties _ => chosenTag properties .sequence .sequence
  | .mapping properties _ => chosenTag properties .mapping .mapping

def switch? (node : Node) : Option Bool :=
  match node with
  | .scalar _ text _ =>
      if node.tag = .boolean then Tag.switches.lookup (text.map Char.toLower) else none
  | _ => none

end Node

namespace Document

/-- The node that an alias stands for. -/
def resolve (document : Document) (node : Node) : Node :=
  match node with
  | .alias name => (document.anchored.lookup name).getD node
  | _ => node

/-- The entries of the mappings that are merged in. Of a list the first mapping counts most. -/
def merged (document : Document) (entriesOf : Node → Except Fault (List (Node × Node)))
    (node : Node) : Except Fault (List (Node × Node)) := do
  match document.resolve node with
  | .sequence _ items => return (← items.reverse.mapM entriesOf).flatten
  | _ => entriesOf node

/-- The entries of a mapping, behind those that are merged into it. An alias that was followed on the way
adds nothing. The fuel bounds how deep mappings are merged. -/
def entriesFrom (document : Document) : Nat → List Text → Node → Except Fault (List (Node × Node))
  | fuel + 1, seen, .alias name =>
      if seen.contains name then .ok []
      else document.entriesFrom fuel (name :: seen) (document.resolve (.alias name))
  | fuel + 1, seen, .mapping _ entries => do
      let isMerge := fun entry : Node × Node => (document.resolve entry.1).tag == .mergeKey
      let added ← (entries.filter isMerge).mapM fun entry =>
        document.merged (document.entriesFrom fuel seen) entry.2
      return added.flatten ++ entries.filter fun entry => !isMerge entry
  | _, _, _ => .error .malformed

/-- A merge goes from an alias to a node, and from a node to an alias or to a node inside it. -/
def entries (document : Document) (node : Node) : Except Fault (List (Node × Node)) :=
  document.entriesFrom (2 * document.size + 2) [] node

/-- A scalar fails if its text stands for no value of its tag. -/
def failUnless (failure : Option Text) : Except Fault Unit :=
  match failure with
  | none => .ok ()
  | some message => .error (.failed message)

def checkScalar (tag : Tag) (text : Text) : Except Fault Unit :=
  match tag with
  | .text => .ok ()
  | .other => .ok ()
  | .boolean =>
      let lower := text.map Char.toLower
      failUnless (if (Tag.switches.lookup lower).isSome then none else some (Text.quoted lower))
  | .timestamp => failUnless (Timestamp.failure? text)
  | .integer => failUnless (Numeral.integerFailure? text)
  | .float => failUnless (Numeral.floatFailure? text)
  | .binary => if Numeral.isBinary text then .ok () else .error .malformed
  | _ => .error .malformed

def isCollection (tag : Tag) : Bool := [Tag.sequence, .mapping, .set, .pairs].contains tag

/-- A scalar is checked at once, and a collection is put off. An alias was checked where its node
stands. -/
def visit (node : Node) : Except Fault (List Node) :=
  if isCollection node.tag then .ok [node]
  else
    match node with
    | .alias _ => .ok []
    | .scalar _ text _ => do
        checkScalar node.tag text
        return []
    | _ => .error .malformed

/-- A key is a scalar. -/
def visitKey (document : Document) (key : Node) : Except Fault (List Node) :=
  match document.resolve key with
  | .scalar _ text _ => do
      let tag := (document.resolve key).tag
      checkScalar (if tag = .valueKey then .text else tag) text
      return []
  | _ => .error .malformed

/-- The keys and the values of a mapping, with the collections in it put off. -/
def visitEntries (document : Document) (node : Node) : Except Fault (List Node) := do
  let entries ← document.entries node
  let found ← entries.mapM fun entry => do
    return (← document.visitKey entry.1) ++ (← visit entry.2)
  return found.flatten

/-- An item of a list of pairs is a mapping with one entry. -/
def visitPair (document : Document) (node : Node) : Except Fault (List Node) :=
  match document.resolve node with
  | .mapping _ [(key, value)] => do return (← visit key) ++ (← visit value)
  | _ => .error .malformed

/-- The contents of a collection, which has to be of the kind that its tag says. -/
def visitInside (document : Document) (node : Node) : Except Fault (List Node) :=
  match node, node.tag with
  | .sequence _ items, .sequence => do return (← items.mapM visit).flatten
  | .sequence _ items, .pairs => do return (← items.mapM document.visitPair).flatten
  | .mapping _ _, .mapping => document.visitEntries node
  | .mapping _ _, .set => document.visitEntries node
  | _, _ => .error .malformed

/-- The collections are checked level by level. -/
def checkLevels (document : Document) : Nat → List Node → Except Fault Unit
  | _, [] => .ok ()
  | 0, _ => .ok ()
  | fuel + 1, nodes => do
      let found ← nodes.mapM document.visitInside
      document.checkLevels fuel found.flatten

/-- The first fault in the contents, for a document that has at most the given depth. -/
def check (document : Document) (depth : Nat) : Except Fault Unit := do
  document.checkLevels depth (← visit document.root)

/-- A text that holds no document, but perhaps comments, gives none. -/
def ofText? (text : Text) : Except Fault (Option Document) := do
  let tokens ← (Token.listOf text).mapError ReadFault.fault
  match ← (Document.ofTokens? tokens).mapError ReadFault.fault with
  | some document =>
      document.check (tokens.length + 1)
      return some document
  | none => return none

/-- The entries of a mapping whose keys are texts. -/
def namedEntries (document : Document) (node : Node) : Option (List (Text × Node)) :=
  if node.tag = .mapping then
    (document.entries node).toOption.map fun entries =>
      entries.filterMap fun entry =>
        match document.resolve entry.1 with
        | .scalar properties text plain =>
            if (Node.scalar properties text plain).tag = .text then some (text, entry.2) else none
        | _ => none
  else none

end Document

end Outline.Yaml
