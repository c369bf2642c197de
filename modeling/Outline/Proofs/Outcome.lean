/-
This file states how a command on a file ends: the causes of failure are looked for in one order, and the
first that applies is reported. Nothing else is printed, but for tables that were drawn before the console
failed.
-/

import Outline.Command.Answer
import Outline.Proofs.SourceFile

namespace Outline.Command

/-- The file that a request is about. -/
def Request.file? : Request → Option Text
  | .scan file _ => some file
  | .outline file => some file
  | .find file _ _ => some file
  | _ => none

/-- What a request prints about a summary. -/
def Request.output (host : Host) (settings : Settings) (summary : Summary) : Request → Output
  | .scan _ json => scanOutput host json settings summary
  | .outline _ => outlineOutput settings summary
  | .find file name base => findOutput file name base settings summary
  | _ => {}

/-- The tables that a request gives to the console. -/
def Request.tables (settings : Settings) (summary : Summary) : Request → List Table
  | .scan _ false => Table.ofSummary settings (settings.apply summary)
  | _ => []

/-- A look-up finds nothing if no entry has the name, or no class the base. -/
def Request.FindsNothing (summary : Summary) : Request → Prop
  | .find _ name false =>
      (∀ function ∈ summary.functions, function.name ≠ name) ∧ ∀ entry ∈ summary.classes, entry.name ≠ name
  | .find _ name true => ∀ entry ∈ summary.classes, name ∉ entry.bases
  | _ => False

section Drawing

variable {host : Host}

end Drawing

/-- The causes of failure, in the order in which they are looked for. -/
inductive Cause where
  | refused
  | notFile
  | otherType
  | unreadable
  | notUtf8
  | notFound
  | undrawn
  deriving DecidableEq

namespace Cause

def rank : Cause → Nat
  | refused => 0
  | notFile => 1
  | otherType => 2
  | unreadable => 3
  | notUtf8 => 4
  | notFound => 5
  | undrawn => 6

/-- What the system refuses has an exit code of its own. -/
def exitCode : Cause → Nat
  | refused | unreadable => 2
  | _ => 1

section

variable (host : Host) (settings : Settings) (request : Request) (file : Text)

/-- What the path of the file leads to. -/
def lookUp : Except Disk.Refusal (Option Disk.Item) :=
  host.find (SourceFile.target host.current file)

/-- The file can be read, and holds the octets of a text with the given summary. -/
def Holds (summary : Summary) : Prop :=
  ∃ text, lookUp host file = .ok (some (.file (Utf8.encode text))) ∧
    summary = Summary.scan (Text.unifyNewlines text) file

def Applies : Cause → Prop
  | refused => ∃ cause, lookUp host file = .error cause
  | notFile => ∀ item, lookUp host file = .ok (some item) → item = .directory
  | otherType => ¬Path.NamesSource (SourceFile.target host.current file).name
  | unreadable => ∃ cause, lookUp host file = .ok (some (.locked cause))
  | notUtf8 => ∃ octets, lookUp host file = .ok (some (.file octets)) ∧ ∀ text, Utf8.encode text ≠ octets
  | notFound => ∃ summary, Holds host file summary ∧ request.FindsNothing summary
  | undrawn => ∃ summary, Holds host file summary ∧
      ∃ table ∈ request.tables settings summary, ∃ trace, host.draw table = .error trace

/-- No earlier cause applies. -/
structure IsFirst (cause : Cause) : Prop where
  applies : cause.Applies host settings request file
  earlier : ∀ other : Cause, other.rank < cause.rank → ¬other.Applies host settings request file

end

variable {host : Host} {settings : Settings} {request : Request} {file : Text}

theorem rank_injective : Function.Injective rank := by
  intro cause other same
  cases cause <;> cases other <;> first | rfl | exact absurd same (by decide)

theorem IsFirst.unique {cause other : Cause} (first : cause.IsFirst host settings request file)
    (first' : other.IsFirst host settings request file) : cause = other := by
  apply rank_injective
  apply Nat.le_antisymm
  · exact Nat.le_of_not_lt fun below => first.earlier other below first'.applies
  · exact Nat.le_of_not_lt fun below => first'.earlier cause below first.applies

section

variable {text : Text} (found : lookUp host file = .ok (some (.file (Utf8.encode text))))
  (source : Path.NamesSource (SourceFile.target host.current file).name)

include found source

end

end Cause

section

variable (host : Host) (settings : Settings) (request : Request) (file : Text)

end

section

variable {host : Host} {settings : Settings} {request : Request} {file : Text} {output : Output}
  {loaded : Settings.Loaded}

/-- The settings decide what is printed, and the file alone how a command fails before that. -/
theorem answer_outcome (loads : Settings.load host host.current = .ok loaded)
    (about : request.file? = some file) :
    (answer host request).outcome = .ok (match SourceFile.summary host host.current file with
      | .ok summary => request.output host loaded.settings summary
      | .error fault => .ofFault fault) := by
  cases request with
  | nothing | help | version => exact absurd about (by simp [Request.file?])
  | scan path json =>
      obtain rfl : path = file := Option.some.inj about
      rw [answer, settingsFirst, loads]
      rfl
  | outline path | find path name base =>
      obtain rfl : path = file := Option.some.inj about
      rw [answer, fileFirst, loads]
      cases SourceFile.summary host host.current path <;> rfl

end

end Outline.Command
