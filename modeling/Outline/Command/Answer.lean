/-
This file answers requests on a host.
-/

import Outline.Command.Report
import Outline.Command.Request
import Outline.Settings.File
import Outline.SourceFile

namespace Outline.Command

/-- What is given to the console. -/
inductive Printed where
  | table (value : Table)
  | line (text : Text)
  deriving Repr, DecidableEq

structure Output where
  exitCode : Nat := 0
  stdout : Text := []
  stderr : Text := []
  console : List Printed := []
  deriving Repr, DecidableEq

/-- Settings that cannot be loaded leave no output. An answer comes with its notes, and with whether a
settings file was ignored on the way. -/
structure Answer where
  outcome : Except Settings.Fault Output
  notes : List Note := []
  ignoredSettings : Bool := false

def versionLine : Text := "pyskim version 0.1.0".toList

def line (text : Text) : Text := text ++ ['\n']

def Output.failure (code : Nat) (message : Text) : Output :=
  { exitCode := code, stderr := line ("Error: ".toList ++ message) }

/-- What the system refuses has an exit code of its own. -/
def faultCode : SourceFile.Fault → Nat
  | .refused _ => 2
  | _ => 1

def Output.ofFault (fault : SourceFile.Fault) : Output := .failure (faultCode fault) fault.message

/-- The tables are drawn in order. A console that fails at one of them ends the run with a trace, and the
tables in front of it stay. -/
def drawTables (host : Host) : List Table → Output
  | [] => {}
  | table :: rest =>
      match host.draw table with
      | .ok () =>
          let later := drawTables host rest
          { later with console := .table table :: later.console }
      | .error trace => { exitCode := 1, stderr := trace }

def scanOutput (host : Host) (json : Bool) (settings : Settings) (summary : Summary) : Output :=
  let shown := settings.apply summary
  if json then { stdout := line (scanReport settings shown).render }
  else drawTables host (Table.ofSummary settings shown)

def outlineOutput (settings : Settings) (summary : Summary) : Output :=
  { stdout := line (settings.apply summary).render }

/-- A look-up hides the receiver if it is to be hidden, but searches all entries. -/
def findOutput (file name : Text) (base : Bool) (settings : Settings) (summary : Summary) :
    Output :=
  let searched := ({ hideSelf := settings.hideSelf } : Settings).apply summary
  match findReport? searched name base with
  | some report => { stdout := line report.render }
  | none => .failure 1 (absence file name base)

/-- The settings are loaded before the file is read. -/
def settingsFirst (host : Host) (file : Text) (output : Settings → Summary → Output) : Answer :=
  match Settings.load host host.current with
  | .error fault => { outcome := .error fault }
  | .ok loaded =>
      { outcome := .ok (match SourceFile.summary host host.current file with
          | .ok summary => output loaded.settings summary
          | .error fault => .ofFault fault)
        notes := SourceFile.notes host host.current file
        ignoredSettings := loaded.ignored }

/-- The file is read before the settings are loaded, so that they do not matter if it fails. -/
def fileFirst (host : Host) (file : Text) (output : Settings → Summary → Output) : Answer :=
  match SourceFile.summary host host.current file with
  | .error fault => { outcome := .ok (.ofFault fault) }
  | .ok summary =>
      let notes := SourceFile.notes host host.current file
      match Settings.load host host.current with
      | .error fault => { outcome := .error fault, notes := notes }
      | .ok loaded =>
          { outcome := .ok (output loaded.settings summary)
            notes := notes, ignoredSettings := loaded.ignored }

/-- The help is laid out by the terminal, and so has no output here. -/
def answer (host : Host) : Request → Answer
  | .nothing => { outcome := .ok {} }
  | .help => { outcome := .ok {} }
  | .version => { outcome := .ok { console := [.line versionLine] } }
  | .scan file json => settingsFirst host file (scanOutput host json)
  | .outline file => fileFirst host file outlineOutput
  | .find file name base => fileFirst host file (findOutput file name base)

def noteLine (note : Note) : Text := line (note.origin ++ [':', ' '] ++ note.message)

/-- The notes are written in front of what else goes to standard error. -/
def Answer.showNotes (answer : Answer) : Answer :=
  { answer with outcome := answer.outcome.map fun output =>
      { output with stderr := answer.notes.flatMap noteLine ++ output.stderr } }

def perform (host : Host) (invocation : Invocation) : Answer :=
  let answer := answer host invocation.request
  if invocation.verbose then answer.showNotes else answer

end Outline.Command
