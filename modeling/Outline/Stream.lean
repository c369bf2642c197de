/-
This file defines streams, which hand out the entries of a summary once.
-/

import Outline.Lookup
import Outline.Note
import Outline.Record

namespace Outline

/-- An entry is a function, a class or a global variable. -/
inductive Entry where
  | ofFunction (entry : FunctionEntry)
  | ofClass (entry : ClassEntry)
  | ofGlobal (entry : GlobalEntry)
  deriving Repr, DecidableEq

namespace Entry

def name : Entry → Text
  | ofFunction entry => entry.name
  | ofClass entry => entry.name
  | ofGlobal entry => entry.name

def hasBase (base : Option Text) : Entry → Bool
  | ofClass entry => entry.hasBase base
  | _ => false

def toJson : Entry → Json
  | ofFunction entry => entry.toJson
  | ofClass entry => entry.toJson
  | ofGlobal entry => entry.toJson

end Entry

/-- The closing notes are written down when the stream is asked for more than it has. -/
structure Stream where
  remaining : List Entry
  closing : List Note := []
  deriving Repr, DecidableEq

namespace Stream

def ended : Stream := ⟨[], []⟩

def ofFunctions (summary : Summary) : Stream := ⟨summary.functions.map .ofFunction, []⟩

def ofClasses (summary : Summary) : Stream := ⟨summary.classes.map .ofClass, []⟩

def ofGlobals (summary : Summary) : Stream := ⟨summary.globals.map .ofGlobal, []⟩

/-- The global variables of a source are counted only when their stream ends. -/
def ofSource (source : Text) : Stream :=
  ⟨(GlobalEntry.listOf source).map .ofGlobal, Note.ofGlobals source⟩

/-- An answer comes with the stream that is left and the notes written on the way. -/
structure Step (α : Type) where
  answer : α
  stream : Stream
  notes : List Note := []
  deriving Repr, DecidableEq

/-- The next entry for which the test holds; the entries up to it are used up. -/
def find? (test : Entry → Bool) (stream : Stream) : Step (Option Entry) :=
  match stream.remaining.dropWhile fun entry => !test entry with
  | [] => ⟨none, ended, stream.closing⟩
  | entry :: rest => ⟨some entry, ⟨rest, stream.closing⟩, []⟩

def next? (stream : Stream) : Step (Option Entry) := stream.find? fun _ => true

def named? (name : Option Text) (stream : Stream) : Step (Option Entry) :=
  stream.find? fun entry => some entry.name == name

def drain (stream : Stream) : Step (List Entry) := ⟨stream.remaining, ended, stream.closing⟩

def withBase (base : Option Text) (stream : Stream) : Step (List Entry) :=
  ⟨stream.remaining.filter (Entry.hasBase base), ended, stream.closing⟩

end Stream

end Outline
