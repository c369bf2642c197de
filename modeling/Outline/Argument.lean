/-
This file reads and writes the arguments of a signature.
-/

import Outline.Text.Basic

namespace Outline

/-- An argument keeps its stars on the name, and its type hint as written. -/
structure Argument where
  name : Text
  hint : Option Text := none
  deriving Repr, DecidableEq

namespace Argument

/-- The stars in front of a text, two at most, and what follows them. -/
def stars : Text → Text × Text
  | '*' :: '*' :: rest => (['*', '*'], rest)
  | '*' :: rest => (['*'], rest)
  | text => ([], text)

/-- The type hint that fills the rest of a head: nothing, or a colon and a text. -/
def hint? : Text → Option (Option Text)
  | [] => some none
  | ':' :: rest =>
      let hint := Text.trim rest
      if hint.isEmpty then none else some (some hint)
  | _ => none

/-- The head of a fragment is all that stands before its first equals sign. -/
def ofHead? (head : Text) : Option Argument := do
  let (stars, named) := stars head
  let (name, rest) ← Text.identifier? (Text.trimLeft named)
  let hint ← hint? (Text.trimLeft rest)
  return ⟨stars ++ name, hint⟩

/-- A default value starts on the line of its first character that is not white space and ends on
that line. -/
def isDefault (value : Text) : Bool := !value.isEmpty && !(Text.trimLeft value).contains '\n'

/-- The argument that a trimmed fragment spells, if it spells one. -/
def ofFragment? (fragment : Text) : Option Argument :=
  match fragment.dropWhile (· != '=') with
  | [] => ofHead? fragment
  | _ :: value => if isDefault value then ofHead? (fragment.takeWhile (· != '=')) else none

/-- A fragment that spells no argument is kept whole as a name. -/
def ofFragment (fragment : Text) : Argument := (ofFragment? fragment).getD ⟨fragment, none⟩

/-- A list of arguments is cut at every comma, also at one inside brackets or quotes. -/
def listOf (text : Text) : List Argument := (Text.commaPieces text).map ofFragment

def render (argument : Argument) : Text :=
  match argument.hint with
  | none => argument.name
  | some hint => argument.name ++ [':', ' '] ++ hint

def renderList (arguments : List Argument) : Text := [',', ' '].intercalate (arguments.map render)

end Argument

end Outline
