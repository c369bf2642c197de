/-
This file defines what the program can be asked for.
-/

import Outline.Text.Basic

namespace Outline.Command

/-- What the command line asks for. -/
inductive Request where
  | nothing
  | help
  | version
  | scan (file : Text) (json : Bool)
  | outline (file : Text)
  | find (file name : Text) (base : Bool)
  deriving Repr, DecidableEq

/-- A request, and whether notes are to be shown. -/
structure Invocation where
  request : Request
  verbose : Bool := false
  deriving Repr, DecidableEq

end Outline.Command
