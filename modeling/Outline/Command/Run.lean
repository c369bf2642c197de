/-
This file runs the command line in the current directory of a disk.
-/

import Outline.Command.Answer
import Outline.Command.Arguments
import Outline.Disk.Host

namespace Outline.Command

/-- A command line that is used wrongly, or settings that cannot be loaded, give no output. -/
inductive Failure where
  | usage (cause : Usage)
  | settings (cause : Settings.Fault)
  deriving Repr, DecidableEq

structure Run where
  outcome : Except Failure Output
  notes : List Note := []
  ignoredSettings : Bool := false

def run (disk : Disk) (arguments : List Text) : Run :=
  match Invocation.ofArguments arguments with
  | .error usage => { outcome := .error (.usage usage) }
  | .ok invocation =>
      let answer := perform disk invocation
      { outcome := answer.outcome.mapError .settings
        notes := answer.notes
        ignoredSettings := answer.ignoredSettings }

end Outline.Command
