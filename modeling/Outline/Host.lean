/-
This file says what the program relies on and does not decide itself.
-/

import Outline.Content
import Outline.Disk
import Outline.Table

namespace Outline

/-- A host finds files, reads documents and draws tables. It may refuse a path, lock a file, fail to read
a document, or fail to draw a table and leave a trace. -/
structure Host where
  current : Path
  find : Path → Except Disk.Refusal (Option Disk.Item)
  reading : List UInt8 → Reading
  draw : Table → Except Text Unit

/-- A host that has a disk for its files and draws every table. -/
def Disk.hostWith (disk : Disk) (reading : List UInt8 → Reading) : Host where
  current := disk.current
  find := disk.find
  reading := reading
  draw := fun _ => .ok ()

end Outline
