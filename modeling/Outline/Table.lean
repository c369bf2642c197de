/-
This file lays the entries of a summary out in tables.
-/

import Outline.Settings

namespace Outline

/-- A table is given to the console by its cells; how it is drawn is left open. -/
structure Table where
  title : Text
  columns : List Text
  rows : List (List Text)
  deriving Repr, DecidableEq

namespace Table

def commaList (texts : List Text) : Text := [',', ' '].intercalate texts

def ofFunctions (functions : List FunctionEntry) : Table where
  title := "Functions".toList
  columns := ["Name".toList, "Arguments".toList]
  rows := functions.map fun entry => [entry.name, Argument.renderList entry.arguments]

def ofClasses (classes : List ClassEntry) : Table where
  title := "Classes".toList
  columns := ["Name".toList, "Bases".toList, "Constructor".toList]
  rows := classes.map fun entry =>
    [entry.name, commaList entry.bases, Argument.renderList entry.constructorArguments]

def ofGlobals (globals : List GlobalEntry) : Table where
  title := "Globals".toList
  columns := ["Name".toList, "Type".toList, "Value".toList]
  rows := globals.map fun entry => [entry.name, entry.hint.getD [], entry.value]

/-- A kind of entry that is not included has no table. -/
def ofSummary (settings : Settings) (summary : Summary) : List Table :=
  (if settings.includeFunctions then [ofFunctions summary.functions] else [])
    ++ (if settings.includeClasses then [ofClasses summary.classes] else [])
    ++ (if settings.includeGlobals then [ofGlobals summary.globals] else [])

end Table

end Outline
