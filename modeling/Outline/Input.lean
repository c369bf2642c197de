/-
This file says what happens when a caller hands over something else than a text.
-/

import Outline.Text.Basic

namespace Outline

/-- The kinds of value that are not texts. -/
inductive Kind where
  | nothing
  | boolean
  | integer
  | fraction
  | sequence
  | mapping
  | octets
  deriving Repr, DecidableEq

def Kind.name : Kind → Text
  | .nothing => "NoneType".toList
  | .boolean => "bool".toList
  | .integer => "int".toList
  | .fraction => "float".toList
  | .sequence => "list".toList
  | .mapping => "dict".toList
  | .octets => "bytes".toList

/-- An input is a text, or a value of another kind. -/
inductive Input where
  | text (value : Text)
  | other (kind : Kind)
  deriving Repr, DecidableEq

namespace Input

/-- What an operation expects a text for. -/
inductive Role where
  | arguments
  | source
  deriving Repr, DecidableEq

/-- A value that stands where a text is expected. -/
structure Mismatch where
  role : Role
  kind : Kind
  deriving Repr, DecidableEq

def Role.name : Role → Text
  | .arguments => "raw_text".toList
  | .source => "source_code".toList

def Mismatch.message (mismatch : Mismatch) : Text :=
  mismatch.role.name ++ " must be str, not ".toList ++ mismatch.kind.name

def asText (role : Role) : Input → Except Mismatch Text
  | text value => .ok value
  | other kind => .error ⟨role, kind⟩

end Input

end Outline
