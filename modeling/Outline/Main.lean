/-
This file is the command line program: it reads the files that the arguments name, and prints.
-/

import Outline.Command.Run

namespace Outline.Program

/-- A file that may not be read. -/
def denied (path : Text) : Disk.Item :=
  .locked ⟨"[Errno 13] Permission denied: ".toList ++ Text.quoted path⟩

/-- The item at a real path. What exists and is no file is taken for a directory. -/
def item? (path : Text) : IO (Option Disk.Item) := do
  try
    return some (.file (← IO.FS.readBinFile (String.ofList path)).toList)
  catch fault =>
    match fault with
    | .inappropriateType .. => return some .directory
    | .permissionDenied .. => return some (denied path)
    | _ => return none

/-- The items on the way that a path takes. -/
def items (path : Path) : IO (List (List Text × Disk.Item)) := do
  let mut found := []
  for stage in path.stages do
    if let some item ← item? stage.render then
      found := (stage.location, item) :: found
  return found

/-- The disk holds the settings file and every file that an argument may name. -/
def disk (arguments : List Text) : IO Disk := do
  let current := Path.ofText (toString (← IO.currentDir)).toList
  let paths := (Settings.fileName :: arguments).map fun text => (Path.ofText text).inside current
  return ⟨current, (← paths.mapM items).flatten⟩

def row (cells : List Text) : Text := Command.line ([' ', '|', ' '].intercalate cells)

def draw : Command.Printed → Text
  | .line text => Command.line text
  | .table table =>
      Command.line table.title ++ row table.columns ++ (table.rows.map row).flatten

def usageMessage : Command.Usage → String
  | .missingArgument => "Missing argument."
  | .unknownOption => "No such option."
  | .valueForFlag => "Option does not take a value."
  | .unexpectedArgument => "Unexpected argument or unknown command."

def write (text : Text) : IO Unit := IO.print (String.ofList text)

def writeError (text : Text) : IO Unit := IO.eprint (String.ofList text)

/-- The outcome is printed, and its exit code is returned. -/
def report : Except Command.Failure Command.Output → IO UInt32
  | .ok output => do
      write (output.stdout ++ output.console.flatMap draw)
      writeError output.stderr
      return output.exitCode.toUInt32
  | .error (.usage cause) => do
      writeError (Command.line (usageMessage cause).toList)
      return 2
  | .error (.settings cause) => do
      writeError (Command.line cause.message)
      return 1

end Outline.Program

def main (arguments : List String) : IO UInt32 := do
  let texts := arguments.map String.toList
  Outline.Program.report (Outline.Command.run (← Outline.Program.disk texts) texts).outcome
