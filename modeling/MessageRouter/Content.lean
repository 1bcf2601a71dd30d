import MessageRouter.Json.Writer
import MessageRouter.Stream

/-!
# Contents

The body of a message or one of its attachments: nothing, a text, bytes, a JSON value, or a
stream that may be shared with other contents.
-/

namespace MessageRouter

open Text (Bytes)

/-- What a message carries. -/
inductive Content where
  | empty
  | text (value : String)
  | binary (bytes : Bytes)
  | json (value : Json)
  | stream (id : StreamId)
  deriving Inhabited

namespace Content

/-- The same kind with equal contents; a stream equals only itself. -/
def beq : Content → Content → Bool
  | .empty, .empty => true
  | .text a, .text b => a == b
  | .binary a, .binary b => a == b
  | .json a, .json b => a == b
  | .stream a, .stream b => a == b
  | _, _ => false

instance : BEq Content := ⟨beq⟩

def isEmpty : Content → Bool
  | .empty => true
  | _ => false

/-- The value of a content that is a text. -/
def asText? : Content → Option String
  | .text s => some s
  | _ => none

/-- The content as a text, if it has one without reading a stream. -/
def toText? (c : Content) (streams : Streams) : Option String :=
  match c with
  | .empty => none
  | .text s => some s
  | .binary bytes => Text.utf8? bytes
  | .json j => some j.write
  | .stream id => (streams.buffered? id).bind Text.utf8?

/-- The content can be read more than once. -/
def isReadable (c : Content) (streams : Streams) : Bool :=
  match c with
  | .stream id => (streams.buffered? id).isSome
  | _ => true

/-- Keeps the bytes of a stream, so that the content can be read more than once. -/
def ensureReadable (c : Content) (streams : Streams) : Except StreamError Unit × Streams :=
  match c with
  | .stream id =>
    let (r, streams) := streams.buffer id
    (r.map fun _ => (), streams)
  | _ => (.ok (), streams)

/-! ## Display -/

/-- Stands for bytes that are no text. -/
def bytesText (bytes : Bytes) : String := "<binary " ++ toString bytes.length ++ " bytes>"

/-- The content itself; a stream is kept first. -/
def shown (c : Content) (streams : Streams) : String × Streams :=
  match c with
  | .empty => ("<empty>", streams)
  | .text s => (s, streams)
  | .binary bytes => (bytesText bytes, streams)
  | .json j => (j.write, streams)
  | .stream id =>
    match streams.buffer id with
    | (.ok bytes, streams) => ((Text.utf8? bytes).getD (bytesText bytes), streams)
    | (.error _, streams) => ("<unreadable stream>", streams)

/-- What kind of content it is. -/
def summary (c : Content) (streams : Streams) : String :=
  match c with
  | .empty => "<empty>"
  | .text s => "<text " ++ toString s.length ++ " chars>"
  | .binary bytes => bytesText bytes
  | .json _ => "<json>"
  | .stream id => if (streams.buffered? id).isSome then "<buffered stream>" else "<stream>"

/-- The content or only its kind. -/
def display (c : Content) (full : Bool) (streams : Streams) : String × Streams :=
  if full then c.shown streams else (c.summary streams, streams)

end Content

end MessageRouter
