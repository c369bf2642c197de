/-
This file scans a source text and notes down, on the way, what helps to understand the result.
-/

import Outline.Summary
import Outline.Text.Quoted

namespace Outline

/-- A note reports a fragment that was kept as a name, or how much a pass has found. -/
inductive Note where
  | unrecognized (fragment : Text)
  | functions (count : Nat)
  | classes (count : Nat)
  | globals (count : Nat)
  deriving Repr, DecidableEq

namespace Note

/-- The part of the program that writes the note. -/
def origin : Note → Text
  | unrecognized _ => "pyskim.arguments".toList
  | _ => "pyskim.parsers.python_parser".toList

def found (count : Nat) (what : String) : Text :=
  "Found ".toList ++ Text.decimal count ++ [' '] ++ what.toList

def message : Note → Text
  | unrecognized fragment =>
      "Unrecognized argument fragment ".toList ++ Text.quoted fragment
        ++ ", keeping it as a name".toList
  | functions count => found count "top-level functions"
  | classes count => found count "top-level classes"
  | globals count => found count "global variables"

end Note

/-- A value, with the notes that were written on the way to it. -/
structure Noted (α : Type) where
  value : α
  notes : List Note := []
  deriving Repr, DecidableEq

namespace Noted

def write (note : Note) : Noted Unit := ⟨(), [note]⟩

instance : Monad Noted where
  pure value := ⟨value, []⟩
  bind first next := ⟨(next first.value).value, first.notes ++ (next first.value).notes⟩

end Noted

/-- A fragment that spells no argument is noted and kept whole as a name. -/
def Argument.noteFragment (fragment : Text) : Noted Argument :=
  match ofFragment? fragment with
  | some argument => return argument
  | none => do
      Noted.write (.unrecognized fragment)
      return ⟨fragment, none⟩

def Argument.noteList (text : Text) : Noted (List Argument) :=
  (Text.commaPieces text).mapM noteFragment

def FunctionEntry.noteList (source : Text) : Noted (List FunctionEntry) := do
  let functions ← (Signature.read?.values source).mapM fun signature => do
    return FunctionEntry.mk signature.name (← Argument.noteList signature.parameters)
  Noted.write (.functions functions.length)
  return functions

def ClassEntry.noteList (source : Text) : Noted (List ClassEntry) := do
  let classes ← (ClassText.read?.values source).mapM fun text => do
    let arguments ← Argument.noteList text.constructorParameters
    return { text.toClass with constructorArguments := arguments }
  Noted.write (.classes classes.length)
  return classes

def GlobalEntry.noteList (source : Text) : Noted (List GlobalEntry) := do
  let globals := listOf source
  Noted.write (.globals globals.length)
  return globals

/-- The functions are looked for first, then the classes, then the global variables. -/
def Summary.noteScan (source path : Text) : Noted Summary := do
  let functions ← FunctionEntry.noteList source
  let classes ← ClassEntry.noteList source
  let globals ← GlobalEntry.noteList source
  return ⟨path, functions, classes, globals⟩

namespace Note

def ofArguments (text : Text) : List Note := (Argument.noteList text).notes

def ofFunctions (source : Text) : List Note := (FunctionEntry.noteList source).notes

def ofClasses (source : Text) : List Note := (ClassEntry.noteList source).notes

def ofGlobals (source : Text) : List Note := (GlobalEntry.noteList source).notes

/-- No note says which path was scanned. -/
def ofScan (source : Text) : List Note := (Summary.noteScan source []).notes

end Note

end Outline
