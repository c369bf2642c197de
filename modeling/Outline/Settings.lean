/-
This file defines the display settings and what they do to a summary.
-/

import Outline.Summary

namespace Outline

/-- The settings choose what is shown; a scan always finds everything. -/
structure Settings where
  hideSelf : Bool := false
  includeFunctions : Bool := true
  includeClasses : Bool := true
  includeGlobals : Bool := true
  deriving Repr, DecidableEq

namespace Settings

/-- The receiver is the argument with the conventional first name of a constructor. -/
def receiver : Text := ['s', 'e', 'l', 'f']

def withoutReceiver : List Argument → List Argument
  | [] => []
  | first :: rest => if first.name = receiver then rest else first :: rest

def hideReceiver (entry : ClassEntry) : ClassEntry :=
  { entry with constructorArguments := withoutReceiver entry.constructorArguments }

def apply (settings : Settings) (summary : Summary) : Summary where
  path := summary.path
  functions := if settings.includeFunctions then summary.functions else []
  classes :=
    if settings.includeClasses then
      if settings.hideSelf then summary.classes.map hideReceiver else summary.classes
    else []
  globals := if settings.includeGlobals then summary.globals else []

end Settings

end Outline
