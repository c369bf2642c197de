/-
This file models the files that a path can lead to.
-/

import Outline.Path
import Outline.Text.Utf8

namespace Outline

namespace Disk

/-- Why the system refuses to look up a path or to read a file, in its own words. -/
structure Refusal where
  message : Text
  deriving Repr, DecidableEq

/-- What a path leads to. A locked file is found, but refused to every reader. -/
inductive Item where
  | file (octets : List UInt8)
  | locked (cause : Refusal)
  | directory
  deriving Repr, DecidableEq

/-- The contents of a file, or why they are refused. -/
def Item.contents? : Item → Option (Except Refusal (List UInt8))
  | file octets => some (.ok octets)
  | locked cause => some (.error cause)
  | directory => none

/-- A path is refused if it, or one of its parts, has too many octets. -/
def Refusal.tooLong (path : Path) : Refusal :=
  ⟨"[Errno 36] File name too long: ".toList ++ Text.quoted path.render⟩

def partLimit : Nat := 255

def pathLimit : Nat := 4095

end Disk

/-- A disk has a current directory and items at locations, each the parts of an absolute path. -/
structure Disk where
  current : Path
  items : List (List Text × Disk.Item) := []
  deriving Repr, DecidableEq

namespace Disk

/-- A location above an item, or above the current directory, is a directory. -/
def item? (disk : Disk) (location : List Text) : Option Item :=
  match disk.items.lookup location with
  | some item => some item
  | none =>
      if location.isPrefixOf disk.current.parts
          || disk.items.any (fun entry => location.isPrefixOf entry.1) then
        some .directory
      else none

/-- Each step is taken from a directory. The result is nothing where the way ends, and an error
where a part is too long to be looked for. -/
def walk (disk : Disk) (location : List Text) : List Text → Except Unit (Option Item)
  | [] => .ok (disk.item? location)
  | part :: rest =>
      match disk.item? location with
      | some .directory =>
          if part = Path.parent then disk.walk location.dropLast rest
          else if (Utf8.encode part).length > partLimit then .error ()
          else disk.walk (location ++ [part]) rest
      | _ => .ok none

/-- The item that an absolute path leads to. No path holds the character with number zero. -/
def find (disk : Disk) (path : Path) : Except Refusal (Option Item) :=
  let text := path.render
  if text.contains '\x00' then .ok none
  else if (Utf8.encode text).length > pathLimit then .error (.tooLong path)
  else (disk.walk [] path.parts).mapError fun _ => .tooLong path

/-- A directory is named relative to the current one, and is the current one if it is not named. -/
def directory (disk : Disk) (name : Option Text) : Path :=
  match name with
  | none => disk.current
  | some text => (Path.ofText text).inside disk.current

end Disk

end Outline
