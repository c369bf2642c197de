/-
This file defines what the commands report of a summary as JSON.
-/

import Outline.Lookup
import Outline.Record
import Outline.Settings

namespace Outline.Command

/-- A kind of entry that is not included has no field. -/
def scanReport (settings : Settings) (summary : Summary) : Json :=
  .record
    ((if settings.includeFunctions then
        [("functions", .array (summary.functions.map fun entry => entry.toJson.dropNulls))]
      else [])
    ++ (if settings.includeClasses then
        [("classes", .array (summary.classes.map fun entry => entry.toJson.dropNulls))]
      else [])
    ++ (if settings.includeGlobals then
        [("globals", .array (summary.globals.map fun entry => entry.toJson.dropNulls))]
      else []))

def functionReport (entry : FunctionEntry) : Json := .record [("function", entry.toJson.dropNulls)]

def classReport (entry : ClassEntry) : Json := .record [("class", entry.toJson.dropNulls)]

/-- A function is found before a class of the same name. -/
def nameReport? (summary : Summary) (name : Text) : Option Json :=
  ((FunctionEntry.named? (some name) summary.functions).map functionReport).or
    ((ClassEntry.named? (some name) summary.classes).map classReport)

def baseReport? (summary : Summary) (name : Text) : Option Json :=
  match ClassEntry.withBase (some name) summary.classes with
  | [] => none
  | classes => some (.array (classes.map classReport))

def findReport? (summary : Summary) (name : Text) (base : Bool) : Option Json :=
  if base then baseReport? summary name else nameReport? summary name

def quoteName (name : Text) : Text := ['\x27'] ++ name ++ ['\x27']

/-- Why nothing was found. -/
def absence (file name : Text) (base : Bool) : Text :=
  if base then
    "No class in ".toList ++ file ++ " inherits from ".toList ++ quoteName name
  else quoteName name ++ " not found in ".toList ++ file

end Outline.Command
