import MessageRouter.Draft

/-!
# Shelves

A shelf holds messages under names, with the store of the streams that they share.  A step on it
is one call on one of its messages, and what the call returns is its answer.  A clone and a body
that is taken out share the streams of the message they come from.
-/

namespace MessageRouter

open Text (Bytes)

/-! ## Contents and details of a message -/

/-- Where a message carries a content. -/
inductive Part where
  | body
  | attachment (id : String)
  deriving DecidableEq

/-- The stream that a content refers to. -/
def Content.stream? : Content → Option StreamId
  | .stream id => some id
  | _ => none

/-- What a message says beside its contents. -/
inductive Detail where
  | header (name : String) (value : Json)
  | contentType (value : Option String)
  | contentEncoding (value : Option String)
  | subject (value : Option PrincipalSet)

namespace Message

def content? (m : Message) : Part → Option Content
  | .body => some m.body
  | .attachment id => m.attachments.get? id

def describe (m : Message) : Detail → Message
  | .header name value => { m with headers := m.headers.insert name value }
  | .contentType contentType => { m with contentType }
  | .contentEncoding contentEncoding => { m with contentEncoding }
  | .subject subject => { m with subject }

/-- Puts a copy of another message in place of this one, which stays if there can be none. -/
def copyFrom (m other : Message) (streams : Streams) :
    Except StreamError Unit × Message × Streams :=
  match other.copy streams with
  | (.ok copy, streams) => (.ok (), copy, streams)
  | (.error e, streams) => (.error e, m, streams)

end Message

/-! ## The shelf -/

/-- Messages by name, and the streams that they share. -/
structure Shelf where
  messages : Dict Message := ∅
  streams : Streams := {}
  deriving Inhabited

namespace Shelf

/-- The message under a name; an empty one if there is none. -/
def get (s : Shelf) (name : String) : Message := (s.messages.get? name).getD {}

def put (s : Shelf) (name : String) (m : Message) : Shelf :=
  { s with messages := s.messages.insert name m }

theorem get_put (s : Shelf) (name other : String) (m : Message) :
    (s.put name m).get other = if other = name then m else s.get other := by
  by_cases h : other = name <;> simp [get, put, Dict.get?_insert, h]

@[simp] theorem get_put_self (s : Shelf) (name : String) (m : Message) :
    (s.put name m).get name = m := by
  simp [get_put]

theorem get_put_ne (s : Shelf) {name other : String} (m : Message) (h : other ≠ name) :
    (s.put name m).get other = s.get other := by
  rw [get_put, if_neg h]

@[simp] theorem get_streams (s : Shelf) (streams : Streams) (name : String) :
    (Shelf.mk s.messages streams).get name = s.get name := rfl

@[simp] theorem streams_put (s : Shelf) (name : String) (m : Message) :
    (s.put name m).streams = s.streams := rfl

def content? (s : Shelf) (name : String) (part : Part) : Option Content :=
  (s.get name).content? part

def stream? (s : Shelf) (name : String) (part : Part) : Option StreamId :=
  (s.content? name part).bind Content.stream?

/-! ## Steps -/

/-- What can be asked about a message without a word to its streams. -/
inductive Look where
  | content (part : Part)
  | text (part : Part)
  | readable (part : Part)
  | header (name : String)
  | equals (other : String)
  | bodyEquals (other : String)

/-- One call on the message `name`. -/
inductive Step where
  | make (name : String) (draft : MessageDraft)
  | clone (name source : String)
  | copy (name source : String)
  | copyFrom (name source : String)
  | moveBody (name source : String)
  | setBody (name : String) (draft : ContentDraft)
  | takeBody (name : String)
  | attach (name id : String) (draft : ContentDraft)
  | detach (name id : String)
  | describe (name : String) (detail : Detail)
  | removeHeader (name header : String)
  | ensure (name : String)
  | display (name : String) (full : Bool)
  | read (name : String) (part : Part)
  | buffer (name : String) (part : Part)
  | look (name : String) (look : Look)

/-- What a call returns. -/
inductive Answer where
  | done
  | result (r : Except StreamError Unit)
  | bytes (r : Except StreamError Bytes)
  | text (t : Option String)
  | content (c : Option Content)
  | header (value : Option Json)
  | flag (b : Bool)

/-- The answer to a look at the message `name`. -/
def glance (s : Shelf) (name : String) : Look → Answer
  | .content part => .content (s.content? name part)
  | .text part => .text ((s.content? name part).bind (·.toText? s.streams))
  | .readable part => .flag ((s.content? name part).all (·.isReadable s.streams))
  | .header header => .header ((s.get name).headers.get? header)
  | .equals other => .flag (s.get name == s.get other)
  | .bodyEquals other => .flag ((s.get name).body == (s.get other).body)

/-- The answer to a step, and the shelf after it. -/
def act (s : Shelf) : Step → Answer × Shelf
  | .make name draft =>
    let (m, streams) := draft.make s.streams
    (.done, { s with streams }.put name m)
  | .clone name source => (.done, s.put name (s.get source))
  | .copy name source =>
    match (s.get source).copy s.streams with
    | (.ok m, streams) => (.result (.ok ()), { s with streams }.put name m)
    | (.error e, streams) => (.result (.error e), { s with streams })
  | .copyFrom name source =>
    let (r, m, streams) := (s.get name).copyFrom (s.get source) s.streams
    (.result r, { s with streams }.put name m)
  | .moveBody name source =>
    let body := (s.get source).body
    let s := s.put source { s.get source with body := .empty }
    (.done, s.put name { s.get name with body })
  | .setBody name draft =>
    let (body, streams) := draft.make s.streams
    (.done, { s with streams }.put name { s.get name with body })
  | .takeBody name =>
    (.content (some (s.get name).body), s.put name { s.get name with body := .empty })
  | .attach name id draft =>
    let m := s.get name
    let (c, streams) := draft.make s.streams
    (.done, { s with streams }.put name { m with attachments := m.attachments.insert id c })
  | .detach name id =>
    let m := s.get name
    (.content (m.attachments.get? id),
      s.put name { m with attachments := m.attachments.erase id })
  | .describe name detail => (.done, s.put name ((s.get name).describe detail))
  | .removeHeader name header =>
    let m := s.get name
    (.header (m.headers.get? header), s.put name { m with headers := m.headers.erase header })
  | .ensure name =>
    let (r, streams) := (s.get name).ensureReadable s.streams
    (.result r, { s with streams })
  | .display name full =>
    let (shown, streams) := (s.get name).display full s.streams
    (.text (some shown), { s with streams })
  | .read name part =>
    match s.stream? name part with
    | some id =>
      let (r, streams) := s.streams.read id
      (.bytes r, { s with streams })
    | none => (.done, s)
  | .buffer name part =>
    match s.stream? name part with
    | some id =>
      let (r, streams) := s.streams.buffer id
      (.bytes r, { s with streams })
    | none => (.done, s)
  | .look name l => (s.glance name l, s)

/-- The shelf after all steps. -/
def run (s : Shelf) (steps : List Step) : Shelf := steps.foldl (fun s step => (s.act step).2) s

end Shelf

end MessageRouter
