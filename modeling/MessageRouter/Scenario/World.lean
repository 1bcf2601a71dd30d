import MessageRouter.Engine.Step
import MessageRouter.Scenario.Command
import MessageRouter.View

/-!
# The world of a scenario

The machine together with everything that a scenario has named, the programs that are under way,
and the log of what was observed.  Slots and exchanges have labels, which stand in all texts in
place of their identifiers.
-/

namespace MessageRouter.Scenario

open Engine

/-- A channel in someone's hands: that of a client's slot or of an endpoint's. -/
structure Handle where
  slot : SlotId
  isClient : Bool
  deriving DecidableEq, Inhabited

/-- What a program waits for. -/
inductive Awaited where
  /-- The result of a step, which may be using a channel. -/
  | step (s : Action) (handle : Option Handle)
  /-- The delivery after which a flow is through. -/
  | delivery
  deriving Inhabited

/-- A program under way. -/
structure Agent where
  call : Call
  program : List Action := []
  awaited : Option Awaited := none
  /-- What the program answers when it is through. -/
  answer : Reply := .done
  /-- Under which key the log lists what the program does. -/
  key : String := ""
  deriving Inhabited

/-- A scenario under way. -/
structure World where
  machine : Machine
  /-- The programs of each task, the innermost first. -/
  agents : Table (List Agent) := {}
  exchanges : Dict ExchangeId := ∅
  channels : Dict Handle := ∅
  endpoints : Dict (EndpointScript Action) := ∅
  /-- The slots of the channels that endpoints were last given. -/
  bindings : Dict SlotId := ∅
  listeners : Dict (ListenerScript Action) := ∅
  flows : Dict (FlowScript Action) := ∅
  rules : Dict AccessRule := ∅
  holds : Dict SlotId := ∅
  slotLabels : List (SlotId × String) := []
  exchangeLabels : List (ExchangeId × String) := []
  /-- What was observed, the latest first, each under its key. -/
  log : List (String × Json) := []
  /-- The result of the step that the application took last. -/
  result : Option Json := none

namespace World

def router (w : World) : Router := w.machine.router

def setRouter (w : World) (r : Router) : World :=
  { w with machine := { w.machine with router := r } }

/-! ## Labels -/

/-- A label that is not taken: the base itself, or the base with a number. -/
def freshLabel (base : String) (taken : List String) : String :=
  let isOfBase (l : String) : Bool := l = base || (base ++ "#").isPrefixOf l
  match (taken.filter isOfBase).length with
  | 0 => base
  | n => base ++ "#" ++ toString (n + 1)

def labelSlot (w : World) (s : SlotId) (base : String) : World :=
  { w with slotLabels := w.slotLabels ++ [(s, freshLabel base (w.slotLabels.map (·.2)))] }

def labelExchange (w : World) (e : ExchangeId) (label : String) : World :=
  { w with exchangeLabels := w.exchangeLabels ++ [(e, label)] }

def slotLabel (w : World) (s : SlotId) : String :=
  ((w.slotLabels.find? (·.1 = s)).map (·.2)).getD s.text

def exchangeLabel (w : World) (e : ExchangeId) : String :=
  ((w.exchangeLabels.find? (·.1 = e)).map (·.2)).getD e.text

/-- The slot with a label. -/
def slotLabelled? (w : World) (label : String) : Option SlotId :=
  (w.slotLabels.find? (·.2 = label)).map (·.1)

/-- The identifiers that have labels, and the labels. -/
def labels (w : World) : List (String × String) :=
  w.slotLabels.map (fun (s, l) => (s.text, l)) ++
  w.exchangeLabels.map (fun (e, l) => (e.text, l))

/-- Writes labels in angle brackets in place of identifiers. -/
def relabelText (labels : List (String × String)) (s : String) : String :=
  if s.length < 36 then s
  else labels.foldl (fun s (id, l) => s.replace id ("<" ++ l ++ ">")) s

/-- Writes identifiers in place of labels in angle brackets. -/
def unlabelText (labels : List (String × String)) (s : String) : String :=
  labels.foldl (fun s (id, l) => s.replace ("<" ++ l ++ ">") id) s

mutual

/-- Writes labels in place of identifiers in all texts of a value. -/
def relabel (labels : List (String × String)) : Json → Json
  | .str s => .str (relabelText labels s)
  | .arr items => .arr (relabelItems labels items)
  | .obj members => .obj (relabelMembers labels members)
  | j => j

def relabelItems (labels : List (String × String)) : List Json → List Json
  | [] => []
  | j :: rest => relabel labels j :: relabelItems labels rest

def relabelMembers (labels : List (String × String)) : List (String × Json) → List (String × Json)
  | [] => []
  | (k, j) :: rest => (k, relabel labels j) :: relabelMembers labels rest

end

/-! ## The log -/

/-- Logs something under a key. -/
def record (w : World) (key : String) (items : List Json) : World :=
  { w with log := (key, relabel w.labels (.arr items)) :: w.log }

/-! ## Names -/

/-- The channel that a program refers to. -/
def channel? (w : World) (a : Agent) : ChannelRef → Option Handle
  | .client name => w.channels.get? name
  | .endpoint name => (w.bindings.get? name).map (⟨·, false⟩)
  | .own =>
    match a.call with
    | .process name .. | .bind name _ => (w.bindings.get? name).map (⟨·, false⟩)
    | _ => none

/-- The exchange that a program refers to. -/
def exchange? (w : World) (a : Agent) : ExchangeRef → Option ExchangeId
  | .named name => w.exchanges.get? name
  | .current =>
    match a.call with
    | .process _ _ e | .exchangeEvent _ _ e | .accepts _ e _ => some e
    | .carry _ h _ _ => some h.exchange
    | _ => none

/-- The router itself, as long as the application holds it. -/
def held (w : World) : Except Failure Router :=
  if w.router.owned then .ok w.router else .error (.router .routerShutdown)

/-- The reference that a target describes; only an endpoint's needs no router. -/
def target (w : World) : TargetRef → Except Failure Reference
  | .properties query => w.held.map fun _ => .properties query
  | .filter expression => do
    let _ ← w.held
    (Filter.parse expression).mapError .router |>.map .filter
  | .document text => do
    let _ ← w.held
    (Reference.ofDocument (unlabelText w.labels text)).mapError .router
  | .endpoint label =>
    match w.slotLabelled? label with
    | some s => .ok (.endpoint s.identifier)
    | none => .error (.other "no such endpoint")

/-! ## Clients -/

/-- The channel is still in someone's hands. -/
def isInUse (w : World) (h : Handle) : Bool :=
  w.channels.values.contains h ||
  w.agents.rows.any fun agents => agents.any fun a =>
    match a.awaited with
    | some (.step _ handle) => handle == some h
    | _ => false

/-- Gives up a client's channel once nobody holds it any more. -/
def settleHandle (w : World) (h : Handle) : World :=
  if !h.isClient || w.isInUse h then w
  else
    let r := w.router.modifySlot h.slot Slot.abandon
    w.setRouter (if w.machine.routerAlive then r.closeChannel h.slot else r)

/-- Gives a name to a channel, and up the channel that had it. -/
def nameChannel (w : World) (name : String) (h : Handle) : World :=
  let old := w.channels.get? name
  let w := { w with channels := w.channels.insert name h }
  match old with
  | some old => w.settleHandle old
  | none => w

/-! ## Views -/

/-- A text of an optional message without its body. -/
def messageText (w : World) (m : Option Message) : Json :=
  Json.text? (m.map (·.text w.router.streams))

/-- The state of an exchange. -/
def exchangeView (w : World) (e : ExchangeId) : Json :=
  let x := w.router.exchange e
  Json.mkObj [
    ("status", .str x.status.name),
    ("role", .str x.role.name),
    ("target", Json.text? (x.target.map Reference.text)),
    ("source", Json.text? (x.source.map w.slotLabel)),
    ("destination", Json.text? (x.destination.map w.slotLabel)),
    ("operation", Json.text? (x.operation.map QualifiedName.text)),
    ("properties", .obj x.properties.entries),
    ("in", w.messageText x.input),
    ("out", w.messageText x.output),
    ("fault", w.messageText x.fault),
    ("error", Json.text? (x.error.map Failure.message)),
    ("error_kind", Json.text? ((x.error.bind Failure.routerError?).map RouterError.kind))]

/-- The state of a slot, if it is present. -/
def slotView (w : World) (s : SlotId) : Json :=
  let slot := w.router.slot s
  if slot.present then Json.mkObj [
    ("name", .str (slot.name s)),
    ("in_flight", Json.ofNat slot.inFlight),
    ("retired", .bool slot.retired),
    ("closed", .bool slot.closed),
    ("client", .bool slot.isClient),
    ("untargetable", .bool slot.isUntargetable),
    ("sync", .bool slot.deliversInline),
    ("display", .str (slot.text s)),
    ("debug", .str (slot.quotedText s))]
  else .null

def slotTexts (w : World) (ss : List SlotId) : Json := Json.texts (ss.map w.slotLabel)

end World

end MessageRouter.Scenario
