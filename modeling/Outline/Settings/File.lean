/-
This file loads the display settings of a directory.
-/

import Outline.Host

namespace Outline.Settings

def fileName : Text := ".pyskim".toList

/-- The failures that the default settings do not stand in for. -/
inductive Fault where
  | refused (cause : Disk.Refusal)
  | undecodable (cause : Utf8.Fault)
  | failed (message : Text)
  deriving Repr, DecidableEq

/-- A disk refuses nothing but names that are too long. -/
@[match_pattern] abbrev Fault.nameTooLong (cause : Disk.Refusal) : Fault := .refused cause

/-- A date that the calendar does not have makes a reader fail. -/
@[match_pattern] abbrev Fault.impossibleDate (message : Text) : Fault := .failed message

def Fault.message : Fault → Text
  | refused cause => cause.message
  | undecodable cause => cause.message
  | failed message => message

/-- The settings, and whether a file was ignored because it cannot be read as a document. -/
structure Loaded where
  settings : Settings := {}
  ignored : Bool := false
  deriving Repr, DecidableEq

def sectionName : Text := "scan".toList

/-- A setting that the document does not switch keeps its default. -/
def ofContent (content : Content) : Settings :=
  let switch := fun (key : String) (default : Bool) =>
    (content.switch? [sectionName, key.toList]).getD default
  let default : Settings := {}
  { hideSelf := switch "hide_self" default.hideSelf
    includeFunctions := switch "include_functions" default.includeFunctions
    includeClasses := switch "include_classes" default.includeClasses
    includeGlobals := switch "include_globals" default.includeGlobals }

/-- A malformed document is ignored; every other failure of its reader is passed on. -/
def ofReading : Reading → Except Fault Loaded
  | .value content => .ok { settings := ofContent content }
  | .malformed => .ok { ignored := true }
  | .undecodable cause => .error (.undecodable cause)
  | .failed message => .error (.failed message)

/-- Without a settings file the settings are the default. What is there and cannot be opened is ignored. -/
def load (host : Host) (directory : Path) : Except Fault Loaded := do
  match ← (host.find ((Path.ofText fileName).inside directory)).mapError .refused with
  | none => return {}
  | some (.file octets) => ofReading (host.reading octets)
  | some _ => return { ignored := true }

end Outline.Settings
