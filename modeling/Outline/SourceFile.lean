/-
This file reads source files.
-/

import Outline.Host
import Outline.Note

namespace Outline.SourceFile

/-- The reasons why a file cannot be summarised. The system may refuse to look it up or to read it. -/
inductive Fault where
  | refused (cause : Disk.Refusal)
  | missing (path : Text)
  | unsupported (path : Text)
  | undecodable (cause : Utf8.Fault)
  deriving Repr, DecidableEq

/-- A disk refuses nothing but names that are too long. -/
@[match_pattern] abbrev Fault.nameTooLong (cause : Disk.Refusal) : Fault := .refused cause

def Fault.message : Fault → Text
  | refused cause => cause.message
  | missing path => "File not found: ".toList ++ path
  | unsupported path => "Unsupported file type: ".toList ++ path
  | undecodable cause => cause.message

/-- The source text of a file, with its line endings unified. The file is read only if its name is one of
a source. -/
def read (host : Host) (directory : Path) (path : Text) : Except Fault Text := do
  let target := (Path.ofText path).inside directory
  match (← (host.find target).mapError .refused).bind Disk.Item.contents? with
  | none => throw (.missing path)
  | some contents =>
      if target.isSource then
        let octets ← contents.mapError .refused
        return Text.unifyNewlines (← (Utf8.decode octets).mapError .undecodable)
      else throw (.unsupported path)

/-- A summary carries the path as it was given. -/
def summary (host : Host) (directory : Path) (path : Text) : Except Fault Summary := do
  return Summary.scan (← read host directory path) path

/-- A file that cannot be read leaves no notes. -/
def notes (host : Host) (directory : Path) (path : Text) : List Note :=
  match read host directory path with
  | .ok source => Note.ofScan source
  | .error _ => []

end Outline.SourceFile
