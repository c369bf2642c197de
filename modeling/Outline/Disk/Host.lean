/-
This file makes a disk a host, whose documents are written in YAML.
-/

import Outline.Host
import Outline.Yaml.Document

namespace Outline

namespace Yaml.Document

/-- What the document says down to a depth. Of two entries with one key the last one counts. -/
def contentAt (document : Document) : Nat → Node → Content
  | 0, node => (document.resolve node).switch?.elim .other .switch
  | depth + 1, node =>
      let node := document.resolve node
      match node.switch?, document.namedEntries node with
      | some on, _ => .switch on
      | none, some entries =>
          .mapping (entries.reverse.map fun entry => (entry.1, document.contentAt depth entry.2))
      | none, none => .other

/-- Settings are switches in a section of the document. -/
def content (document : Document) : Content := document.contentAt 2 document.root

def reading (text : Text) : Reading :=
  match ofText? text with
  | .ok (some document) => .value document.content
  | .ok none => .value .other
  | .error .malformed => .malformed
  | .error (.failed message) => .failed message

end Yaml.Document

def Disk.host (disk : Disk) : Host := disk.hostWith (Reading.ofOctets Yaml.Document.reading)

instance : Coe Disk Host := ⟨Disk.host⟩

end Outline
