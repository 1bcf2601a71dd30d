import MessageRouter.Message

/-!
# Drafts

A draft describes a message that is still to be made.  Making it puts its streams into the store,
so that every message made from one draft has streams of its own.
-/

namespace MessageRouter

/-- A content that is there already, or a stream that is still to be made. -/
inductive ContentDraft where
  | content (c : Content)
  | stream (source : Source)
  deriving Inhabited

/-- The content that a draft describes. -/
def ContentDraft.make (d : ContentDraft) (streams : Streams) : Content × Streams :=
  match d with
  | .content c => (c, streams)
  | .stream source =>
    let (id, streams) := streams.add source
    (.stream id, streams)

/-- A message that is still to be made. -/
structure MessageDraft where
  body : ContentDraft := .content .empty
  headers : List (String × Json) := []
  attachments : List (String × ContentDraft) := []
  contentType : Option String := none
  contentEncoding : Option String := none
  subject : Option PrincipalSet := none
  deriving Inhabited

namespace MessageDraft

/-- Makes attachments one after another. -/
def makeAll : List (String × ContentDraft) → Streams → List (String × Content) × Streams
  | [], streams => ([], streams)
  | (name, d) :: rest, streams =>
    let (c, streams) := d.make streams
    let (made, streams) := makeAll rest streams
    ((name, c) :: made, streams)

/-- The message that a draft describes. -/
def make (d : MessageDraft) (streams : Streams) : Message × Streams :=
  let (body, streams) := d.body.make streams
  let (attachments, streams) := makeAll d.attachments streams
  ({ body, headers := .ofList d.headers, attachments := .ofList attachments,
     contentType := d.contentType, contentEncoding := d.contentEncoding,
     subject := d.subject }, streams)

end MessageDraft

end MessageRouter
