/-
This file turns every line ending into a line feed.
-/

import Outline.Text.Basic

namespace Outline.Text

/-- A carriage return ends a line, alone or with the line feed behind it. -/
def unifyNewlines : Text → Text
  | [] => []
  | '\r' :: '\n' :: rest => '\n' :: unifyNewlines rest
  | character :: rest => (if character = '\r' then '\n' else character) :: unifyNewlines rest

end Outline.Text
