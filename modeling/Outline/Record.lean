/-
This file turns the entries of a summary into JSON records.
-/

import Outline.Json
import Outline.Summary

namespace Outline

namespace Json

def optional : Option Text → Json
  | none => null
  | some text => string text

def record (fields : List (String × Json)) : Json :=
  object (fields.map fun field => (field.1.toList, field.2))

end Json

def Argument.toJson (argument : Argument) : Json :=
  .record [("name", .string argument.name), ("type_annotation", .optional argument.hint)]

def FunctionEntry.toJson (function : FunctionEntry) : Json :=
  .record [("name", .string function.name),
    ("arguments", .array (function.arguments.map Argument.toJson))]

def ClassEntry.toJson (entry : ClassEntry) : Json :=
  .record [("name", .string entry.name),
    ("base_classes", .array (entry.bases.map Json.string)),
    ("constructor_arguments", .array (entry.constructorArguments.map Argument.toJson))]

def GlobalEntry.toJson (entry : GlobalEntry) : Json :=
  .record [("name", .string entry.name),
    ("type_annotation", .optional entry.hint),
    ("value_expression", .string entry.value)]

def Summary.toJson (summary : Summary) : Json :=
  .record [("path", .string summary.path),
    ("functions", .array (summary.functions.map FunctionEntry.toJson)),
    ("classes", .array (summary.classes.map ClassEntry.toJson)),
    ("global_variables", .array (summary.globals.map GlobalEntry.toJson))]

end Outline
