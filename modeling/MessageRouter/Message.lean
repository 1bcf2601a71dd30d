import MessageRouter.Content
import MessageRouter.Dict
import MessageRouter.Principal

/-!
# Messages

A message has a body, headers, attachments, hints about its body and the subject of whoever sent
it.  Copies of a message share its streams; a copy that is to be independent keeps the bytes of
all of them first.
-/

namespace MessageRouter

/-- One message of an exchange. -/
structure Message where
  body : Content := .empty
  headers : Dict Json := ∅
  attachments : Dict Content := ∅
  contentType : Option String := none
  contentEncoding : Option String := none
  subject : Option PrincipalSet := none
  deriving Inhabited

namespace Message

/-- Equal entries under equal names. -/
def beqEntries {α : Type} [BEq α] (d e : Dict α) : Bool := d.entries == e.entries

def beq (m n : Message) : Bool :=
  m.body == n.body && beqEntries m.headers n.headers &&
  beqEntries m.attachments n.attachments && m.contentType == n.contentType &&
  m.contentEncoding == n.contentEncoding && m.subject == n.subject

instance : BEq Message := ⟨beq⟩

/-- The body and the attachments by name. -/
def contents (m : Message) : List Content := m.body :: m.attachments.values

/-- Keeps the bytes of all streams in turn, up to the first that cannot be read. -/
def ensureAll : List Content → Streams → Except StreamError Unit × Streams
  | [], streams => (.ok (), streams)
  | c :: cs, streams =>
    match c.ensureReadable streams with
    | (.ok (), streams) => ensureAll cs streams
    | (.error e, streams) => (.error e, streams)

/-- Makes the whole message readable more than once. -/
def ensureReadable (m : Message) (streams : Streams) : Except StreamError Unit × Streams :=
  ensureAll m.contents streams

/-- A copy that nothing else can change. -/
def copy (m : Message) (streams : Streams) : Except StreamError Message × Streams :=
  let (r, streams) := m.ensureReadable streams
  (r.map fun _ => m, streams)

/-! ## Display -/

/-- The parts of a message before its body. -/
def headText (m : Message) : String :=
  let type := match m.contentType with
    | some t => "contentType: " ++ t ++ ", "
    | none => ""
  let headers := m.headers.entries.map fun (k, v) => k ++ "=" ++ v.write
  type ++
  (if headers.isEmpty then "" else "headers: \x7b" ++ ", ".intercalate headers ++ "\x7d, ") ++
  (if m.attachments.isEmpty then ""
    else "attachments: [" ++ ", ".intercalate m.attachments.keys ++ "], ")

/-- The message in one line, with its body or only the kind of it. -/
def display (m : Message) (full : Bool) (streams : Streams) : String × Streams :=
  let (body, streams) := m.body.display full streams
  ("Message[" ++ m.headText ++ "body: " ++ body ++ "]", streams)

/-- The message in one line without its body. -/
def text (m : Message) (streams : Streams) : String :=
  "Message[" ++ m.headText ++ "body: " ++ m.body.summary streams ++ "]"

end Message

end MessageRouter
