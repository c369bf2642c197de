/-
This file finds the functions of a source text.
-/

import Outline.Argument
import Outline.Search

namespace Outline

/-- A function is known by its name and its arguments. -/
structure FunctionEntry where
  name : Text
  arguments : List Argument := []
  deriving Repr, DecidableEq

/-- A signature is the uninterpreted text of a function header. -/
structure Signature where
  name : Text
  parameters : Text
  deriving Repr, DecidableEq

namespace Signature

def keyword : Text := ['d', 'e', 'f']

/-- The parenthesised parameters are followed by a colon. -/
def parameters? (text : Text) : Option (Text × Text) := do
  let (parameters, rest) ← Text.parenthesised? (Text.trimLeft text)
  let rest ← Text.after? [':'] (Text.trimLeft rest)
  return (parameters, rest)

/-- A signature may run over several lines, but its parameters stand on one. -/
def read? : Reader Signature := fun text => do
  let named ← Text.afterSpace? (← Text.after? keyword text)
  let (name, rest) ← Text.identifier? named
  let (parameters, rest) ← parameters? rest
  return (⟨name, parameters⟩, rest)

def toFunction (signature : Signature) : FunctionEntry :=
  ⟨signature.name, Argument.listOf signature.parameters⟩

end Signature

namespace FunctionEntry

def listOf (source : Text) : List FunctionEntry :=
  (Signature.read?.values source).map Signature.toFunction

def render (function : FunctionEntry) : Text :=
  "def ".toList ++ function.name ++ ['('] ++ Argument.renderList function.arguments ++ [')', ':']

end FunctionEntry

end Outline
