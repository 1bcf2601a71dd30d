import MessageRouter.Exchange.Basic
import MessageRouter.Router
import MessageRouter.Stored

/-!
# Views

What an observer is told, as JSON: errors, contents, messages and rules.
-/

namespace MessageRouter

/-! ## Scalars -/

namespace Json

def text? (s : Option String) : Json := (s.map .str).getD .null

def texts (ss : List String) : Json := .arr (ss.map .str)

/-- The result of something that gives no value. -/
def ok : Json := .str "ok"

def ofBytes (bytes : Text.Bytes) : Json := .str (Text.hexOfBytes bytes)

end Json

/-! ## Errors -/

/-- An error with its message; the texts of malformed patterns and documents are left out. -/
def RouterError.view (e : RouterError) : Json :=
  let message := ("message", .str e.message)
  let named (more : List (String × Json)) : Json := Json.mkObj (("error", .str e.kind) :: more)
  match e with
  | .invalidPattern pattern _ => named [("pattern", .str pattern)]
  | .invalidReference reason =>
    named (if reason = Reference.Fault.ambiguous.reason then [message] else [])
  | _ => named [message]

def StreamError.view (e : StreamError) : Json :=
  Json.mkObj [("error", .str "Io"), ("kind", .str e.kind), ("message", .str e.message)]

def Failure.view : Failure → Json
  | .router e => e.view
  | .stream e => e.view
  | .other text => Json.mkObj [("error", .str "Other"), ("message", .str text)]

/-- A result or the error in its place. -/
def resultView {ε : Type} (view : ε → Json) (r : Except ε Json) : Json :=
  match r with
  | .ok j => j
  | .error e => view e

/-! ## Messages -/

namespace Content

def kindName : Content → String
  | .empty => "empty"
  | .text _ => "text"
  | .binary _ => "binary"
  | .json _ => "json"
  | .stream _ => "stream"

/-- A content without reading its stream. -/
def view (c : Content) (streams : Streams) : Json :=
  let own := match c with
    | .binary bytes => [("bytes", Json.ofBytes bytes)]
    | .json j => [("json", j)]
    | .stream id =>
      let state := streams.state id
      [("bytes", (state.buffered?.map Json.ofBytes).getD .null),
       ("debug", .str ("StreamContent \x7b state: " ++ Text.quoted state.text ++ " \x7d"))]
    | _ => []
  Json.mkObj ([
    ("kind", .str c.kindName),
    ("text", Json.text? (c.toText? streams)),
    ("as_text", Json.text? c.asText?),
    ("empty", .bool c.isEmpty),
    ("re_readable", .bool (c.isReadable streams))] ++ own)

end Content

/-- A message without reading its streams. -/
def Message.view (m : Message) (streams : Streams) : Json := Json.mkObj [
  ("body", m.body.view streams),
  ("headers", .obj m.headers.entries),
  ("attachments", .obj (m.attachments.entries.map fun (k, c) => (k, c.view streams))),
  ("content_type", Json.text? m.contentType),
  ("content_encoding", Json.text? m.contentEncoding),
  ("subject", (m.subject.map PrincipalSet.toJson).getD .null),
  ("display", .str (m.text streams))]

/-! ## Rules, wires and configurations -/

def QualifiedName.view (q : QualifiedName) : Json := Json.texts [q.space, q.name]

def AccessRule.view (a : AccessRule) : Json :=
  .arr [.str a.kind.name, Json.ofInt a.rank, .str a.endpoint,
    (a.operation.map QualifiedName.view).getD .null, a.principals.toJson]

def Wire.view (w : Wire) : Json := .arr [w.start.toJson, w.target.toJson]

/-- A router for diagnostic output. -/
def Router.quotedText (r : Router) : String :=
  "Nmr \x7b config: " ++ r.config.quotedText ++
  ", endpoints: " ++ toString r.registry.order.length ++
  ", flows: " ++ toString r.flows.length ++
  ", listeners: " ++ toString r.listeners.length ++ " \x7d"

end MessageRouter
