/-
This file reads the arguments of the command line.
-/

import Outline.Command.Request

namespace Outline.Command

/-- The ways to use the command line wrongly. -/
inductive Usage where
  | missingArgument
  | unknownOption
  | valueForFlag
  | unexpectedArgument
  deriving Repr, DecidableEq

inductive Flag where
  | version
  | verbose
  | help
  | json
  | base
  deriving Repr, DecidableEq

/-- The flags that may be given, by their long names and by their letters. -/
structure Options where
  long : List (Text × Flag)
  short : List (Char × Flag) := []
  deriving Repr, DecidableEq

namespace Options

def separator : Text := ['-', '-']

/-- A dash alone is an argument. -/
def isOption (argument : Text) : Bool := argument.head? == some '-' && 1 < argument.length

def letters (options : Options) : Text → Except Usage (List Flag)
  | [] => .ok []
  | letter :: rest =>
      match options.short.lookup letter with
      | some flag => do return flag :: (← options.letters rest)
      | none => .error .unknownOption

/-- The flags that an option names: one by its long name, or some by their letters. -/
def flags (options : Options) (argument : Text) : Except Usage (List Flag) :=
  match options.long.lookup (argument.takeWhile (· != '=')) with
  | some flag => if argument.contains '=' then .error .valueForFlag else .ok [flag]
  | none =>
      if separator.isPrefixOf argument then .error .unknownOption
      else options.letters (argument.drop 1)

/-- The flags and the other arguments. Behind a separator nothing is an option, and neither is
behind the first argument unless they may be mixed. -/
def split (options : Options) (mixed : Bool) : List Text → Except Usage (List Flag × List Text)
  | [] => .ok ([], [])
  | argument :: rest =>
      if argument = separator then .ok ([], rest)
      else if isOption argument then do
        let named ← options.flags argument
        let (later, arguments) ← options.split mixed rest
        return (named ++ later, arguments)
      else if mixed then do
        let (later, arguments) ← options.split mixed rest
        return (later, argument :: arguments)
      else .ok ([], argument :: rest)

end Options

namespace Request

def helpOption : Text × Flag := ("--help".toList, .help)

def rootOptions : Options where
  long := [("--version".toList, .version), ("--verbose".toList, .verbose), helpOption]
  short := [('v', .version)]

def ofFile (arguments : List Text) (request : Text → Request) : Except Usage Request :=
  match arguments with
  | [] => .error .missingArgument
  | [file] => .ok (request file)
  | _ => .error .unexpectedArgument

def ofFileAndName (arguments : List Text) (request : Text → Text → Request) :
    Except Usage Request :=
  match arguments with
  | [file, name] => .ok (request file name)
  | _ :: _ :: _ => .error .unexpectedArgument
  | _ => .error .missingArgument

/-- The options of a command may stand anywhere among its arguments. -/
def ofCommand (options : List (Text × Flag)) (arguments : List Text)
    (request : List Flag → List Text → Except Usage Request) : Except Usage Request := do
  let (flags, arguments) ← Options.split ⟨helpOption :: options, []⟩ true arguments
  if flags.contains .help then return .help
  request flags arguments

def ofArguments (command : Text) (arguments : List Text) : Except Usage Request :=
  if command = "scan".toList then
    ofCommand [("--json".toList, .json)] arguments fun flags arguments =>
      ofFile arguments fun file => .scan file (flags.contains .json)
  else if command = "show".toList then
    ofCommand [] arguments fun _ arguments => ofFile arguments .outline
  else if command = "find".toList then
    ofCommand [("--base".toList, .base)] arguments fun flags arguments =>
      ofFileAndName arguments fun file name => .find file name (flags.contains .base)
  else .error .unexpectedArgument

/-- The version and the help come before any command, whichever of them is asked for first. -/
def early? (flags : List Flag) : Option Request :=
  match flags.find? fun flag => flag == .version || flag == .help with
  | some .version => some .version
  | some _ => some .help
  | none => none

end Request

/-- The root options stand in front of the command, which takes all that follows. -/
def Invocation.ofArguments (arguments : List Text) : Except Usage Invocation := do
  let (flags, rest) ← Request.rootOptions.split false arguments
  let verbose := flags.contains .verbose
  match Request.early? flags, rest with
  | some request, _ => return ⟨request, verbose⟩
  | none, command :: arguments => return ⟨← Request.ofArguments command arguments, verbose⟩
  | none, [] => return ⟨if arguments.isEmpty then .help else .nothing, verbose⟩

end Outline.Command
