/-
This file puts the functions, the classes and the global variables of a source text together.
-/

import Outline.Global

namespace Outline

/-- A summary lists what a source text declares at its top level, each kind in source order. -/
structure Summary where
  path : Text
  functions : List FunctionEntry := []
  classes : List ClassEntry := []
  globals : List GlobalEntry := []
  deriving Repr, DecidableEq

namespace Summary

def scan (source path : Text) : Summary where
  path := path
  functions := FunctionEntry.listOf source
  classes := ClassEntry.listOf source
  globals := GlobalEntry.listOf source

/-- The global variables come first, and an empty line stands between two entries. -/
def render (summary : Summary) : Text :=
  ['\n', '\n'].intercalate (summary.globals.map GlobalEntry.render
    ++ summary.functions.map FunctionEntry.render ++ summary.classes.map ClassEntry.render)

end Summary

end Outline
