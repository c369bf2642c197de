/-
This file reads paths and the suffixes of file names.
-/

import Outline.Text.Basic

namespace Outline

/-- The lead of a path is empty if it is relative, and one or two slashes if it is absolute. -/
structure Path where
  lead : Text
  parts : List Text
  deriving Repr, DecidableEq

namespace Path

def here : Text := ['.']

def parent : Text := ['.', '.']

/-- Exactly two slashes in front are kept, and more are one. -/
def leadOf (text : Text) : Text :=
  match (text.takeWhile (· == '/')).length with
  | 0 => []
  | 2 => ['/', '/']
  | _ => ['/']

/-- Empty parts and parts that stay in place are dropped; a step to the parent is kept. -/
def ofText (text : Text) : Path where
  lead := leadOf text
  parts := (text.splitOn '/').filter fun part => !part.isEmpty && part != here

def isAbsolute (path : Path) : Bool := !path.lead.isEmpty

def render (path : Path) : Text :=
  if path.lead.isEmpty && path.parts.isEmpty then here
  else path.lead ++ ['/'].intercalate path.parts

/-- An absolute path is not changed by the directory it is taken from. -/
def inside (path directory : Path) : Path :=
  if path.isAbsolute then path else ⟨directory.lead, directory.parts ++ path.parts⟩

/-- The paths on the way that a path takes, one part longer each. -/
def stages (path : Path) : List Path :=
  (List.range path.parts.length).map fun count => ⟨path.lead, path.parts.take (count + 1)⟩

/-- The parts that are left when every step to a parent is taken. -/
def location (path : Path) : List Text :=
  path.parts.foldl (fun here part => if part = parent then here.dropLast else here ++ [part]) []

def name (path : Path) : Text := path.parts.getLast?.getD []

/-- The suffix of a name starts at its last dot, which is neither its first nor its last
character. -/
def suffixOf (name : Text) : Option Text :=
  let ending := (name.reverse.takeWhile (· != '.')).reverse
  if ending.isEmpty || name.length < ending.length + 2 then none else some ('.' :: ending)

def suffix? (path : Path) : Option Text := suffixOf path.name

def sourceSuffixes : List Text := [".py", ".pyi", ".pyw"].map String.toList

/-- Case does not matter. Only ASCII letters have a lower case among the letters of the suffixes. -/
def isSource (path : Path) : Bool :=
  path.suffix?.any fun suffix => sourceSuffixes.contains (suffix.map Char.toLower)

end Path

end Outline
