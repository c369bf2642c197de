/-
This file runs sessions, in which summaries and streams are kept in named slots.
-/

import Outline.Input
import Outline.Settings
import Outline.Stream

namespace Outline

namespace Session

inductive Slot where
  | summary (value : Summary)
  | stream (value : Stream)
  deriving Repr, DecidableEq

/-- The list of a summary that a stream runs over. -/
inductive Field where
  | functions
  | classes
  | globals
  deriving Repr, DecidableEq

inductive Request where
  | scan (slot : Text) (source : Input) (path : Text)
  | openSource (slot : Text) (source : Input)
  | openField (slot origin : Text) (field : Field)
  | next (slot : Text)
  | drain (slot : Text)
  | find (slot : Text) (name : Option Text)
  | findBase (slot : Text) (name : Option Text)
  | apply (slot origin : Text) (settings : Settings)
  | render (slot : Text)
  | rescan (slot origin : Text)
  | record (slot : Text)
  | equal (left right : Text)
  deriving Repr, DecidableEq

inductive Fault where
  | mismatch (cause : Input.Mismatch)
  | unset (slot : Text)
  deriving Repr, DecidableEq

inductive Answer where
  | summary (value : Summary)
  | opened
  | entry (value : Entry)
  | finished
  | absent
  | entries (values : List Entry)
  | text (value : Text)
  | record (value : Json)
  | truth (value : Bool)

def Fault.message : Fault → Text
  | mismatch cause => cause.message
  | unset slot => Text.quoted slot

def Field.stream (summary : Summary) : Field → Stream
  | functions => Stream.ofFunctions summary
  | classes => Stream.ofClasses summary
  | globals => Stream.ofGlobals summary

end Session

/-- A session holds the last value put into each slot. -/
structure Session where
  slots : List (Text × Session.Slot) := []
  deriving Repr, DecidableEq

namespace Session

def slot? (session : Session) (name : Text) : Option Slot := session.slots.lookup name

def set (session : Session) (name : Text) (slot : Slot) : Session :=
  ⟨(name, slot) :: session.slots⟩

def summary (session : Session) (name : Text) : Except Fault Summary :=
  match session.slot? name with
  | some (.summary value) => .ok value
  | _ => .error (.unset name)

def stream (session : Session) (name : Text) : Except Fault Stream :=
  match session.slot? name with
  | some (.stream value) => .ok value
  | _ => .error (.unset name)

def source (input : Input) : Except Fault Text := (input.asText .source).mapError .mismatch

/-- The outcome of a request that succeeds. -/
structure Outcome where
  session : Session
  answer : Answer
  notes : List Note := []

/-- The summary is put into the slot and is the answer. -/
def store (session : Session) (slot : Text) (summary : Summary) (notes : List Note) : Outcome :=
  ⟨session.set slot (.summary summary), .summary summary, notes⟩

/-- The stream of a slot is replaced by what a step leaves of it. -/
def advance {α : Type} (session : Session) (slot : Text) (step : Stream.Step α)
    (answer : α → Answer) : Outcome :=
  ⟨session.set slot (.stream step.stream), answer step.answer, step.notes⟩

def run (session : Session) : Request → Except Fault Outcome
  | .scan slot input path => do
      let text ← source input
      return session.store slot (Summary.scan text path) (Note.ofScan text)
  | .openSource slot input => do
      let text ← source input
      return ⟨session.set slot (.stream (Stream.ofSource text)), .opened, []⟩
  | .openField slot origin field => do
      let summary ← session.summary origin
      return ⟨session.set slot (.stream (field.stream summary)), .opened, []⟩
  | .next slot => do
      let stream ← session.stream slot
      return session.advance slot stream.next? fun entry => entry.elim .finished .entry
  | .drain slot => do
      let stream ← session.stream slot
      return session.advance slot stream.drain .entries
  | .find slot name => do
      let stream ← session.stream slot
      return session.advance slot (stream.named? name) fun entry => entry.elim .absent .entry
  | .findBase slot name => do
      let stream ← session.stream slot
      return session.advance slot (stream.withBase name) .entries
  | .apply slot origin settings => do
      return session.store slot (settings.apply (← session.summary origin)) []
  | .render slot => do
      return ⟨session, .text (← session.summary slot).render, []⟩
  | .rescan slot origin => do
      let text := (← session.summary origin).render
      return session.store slot (Summary.scan text []) (Note.ofScan text)
  | .record slot => do
      return ⟨session, .record (← session.summary slot).toJson.dropNulls, []⟩
  | .equal left right => do
      let first ← session.summary left
      let second ← session.summary right
      return ⟨session, .truth (first == second), []⟩

/-- A request that fails leaves the session as it was. -/
def step (session : Session) (request : Request) : Session × Except Fault Answer × List Note :=
  match session.run request with
  | .ok outcome => (outcome.session, .ok outcome.answer, outcome.notes)
  | .error fault => (session, .error fault, [])

/-- The requests are answered in order, each in the session that the one before it leaves. -/
def answers (session : Session) : List Request → List (Except Fault Answer) × List Note
  | [] => ([], [])
  | request :: rest =>
      let (next, answer, notes) := session.step request
      let (later, laterNotes) := next.answers rest
      (answer :: later, notes ++ laterNotes)

end Session

end Outline
