/-
This file looks entries up by name and by base.
-/

import Outline.Summary

namespace Outline

/-- A name that is absent belongs to no entry. Names are compared as written. -/
def FunctionEntry.named? (name : Option Text) (functions : List FunctionEntry) :
    Option FunctionEntry :=
  functions.find? fun function => some function.name == name

def ClassEntry.named? (name : Option Text) (classes : List ClassEntry) : Option ClassEntry :=
  classes.find? fun entry => some entry.name == name

def ClassEntry.hasBase (name : Option Text) (entry : ClassEntry) : Bool :=
  entry.bases.any fun base => some base == name

def ClassEntry.withBase (name : Option Text) (classes : List ClassEntry) : List ClassEntry :=
  classes.filter (hasBase name)

end Outline
