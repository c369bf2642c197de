/-
This file defines what a document of settings says, and what may come of reading one.
-/

import Outline.Text.Newline
import Outline.Text.Utf8

namespace Outline

/-- A document is searched for switches under keys, so all that is neither a switch nor a mapping is alike.
Of a mapping the entries count whose keys are texts. -/
inductive Content where
  | switch (on : Bool)
  | mapping (entries : List (Text × Content))
  | other
  deriving Repr

namespace Content

def value? (key : Text) : Content → Option Content
  | mapping entries => entries.lookup key
  | _ => none

/-- The switch at the end of a path of keys. -/
def switch? (content : Content) : List Text → Option Bool
  | [] =>
      match content with
      | switch on => some on
      | _ => none
  | key :: path => (content.value? key).bind fun value => value.switch? path

end Content

/-- What comes of reading octets as a document. It may be malformed, or the reader may fail in a way that
says nothing of the document. -/
inductive Reading where
  | value (content : Content)
  | malformed
  | undecodable (cause : Utf8.Fault)
  | failed (message : Text)
  deriving Repr

/-- The octets are decoded, and their line endings unified, before the text is read. A reader that takes a long
file in pieces may find it malformed before it comes to octets that cannot be decoded. -/
def Reading.ofOctets (ofText : Text → Reading) (octets : List UInt8) : Reading :=
  match Utf8.decodePieces octets with
  | .ok text => ofText (Text.unifyNewlines text)
  | .error cause => .undecodable cause

end Outline
