import MessageRouter.Authorization.Basic
import MessageRouter.Config
import MessageRouter.Exchange.SendRules
import MessageRouter.Filter.Matching
import MessageRouter.Flow
import MessageRouter.Listener
import MessageRouter.Registry
import MessageRouter.Wire

/-!
# The state of a router

All that a router knows: its slots, exchanges and streams, what is registered with it, and how it
is configured.  The operations of this module are those that happen at once, in between which
other tasks may act.
-/

namespace MessageRouter

/-- The state of a router. -/
structure Router where
  config : Config
  /-- Someone still holds the router itself. -/
  owned : Bool := true
  slots : Table Slot := {}
  exchanges : Table Exchange := {}
  streams : Streams := {}
  registry : Registry := {}
  wires : List Wire := []
  listeners : List Listener := []
  flows : List Flow := []
  authorization : Authorization := {}

namespace Router

/-- A router without endpoints; its configuration must be valid. -/
def start (config : Config) : Except RouterError Router := do
  config.validate
  return { config, flows := if config.defaultFlow then [.initial] else [] }

/-! ## Slots -/

def slot (r : Router) (s : SlotId) : Slot := r.slots.get s.index

def setSlot (r : Router) (s : SlotId) (slot : Slot) : Router :=
  { r with slots := r.slots.set s.index slot }

def modifySlot (r : Router) (s : SlotId) (f : Slot → Slot) : Router := r.setSlot s (f (r.slot s))

/-- Adds a slot. -/
def addSlot (r : Router) (slot : Slot) : SlotId × Router :=
  let (n, slots) := r.slots.add slot
  (⟨n⟩, { r with slots })

def isPresent (r : Router) (s : SlotId) : Bool := (r.slot s).present

/-- How many slots the router has. -/
def slotCount (r : Router) : Nat := r.slots.rows.countP (·.present)

/-- All slots that there have ever been. -/
def allSlots (r : Router) : List SlotId := r.slots.indices.map (⟨·⟩)

/-- The present slot with an identifier. -/
def slotOf? (r : Router) (id : Identifier) : Option SlotId :=
  r.allSlots.find? fun s => s.identifier = id && r.isPresent s

/-- The router's name for a slot. -/
def slotName (r : Router) (s : SlotId) : String := (r.slot s).name s

/-! ## Exchanges -/

def exchange (r : Router) (e : ExchangeId) : Exchange := r.exchanges.get e.index

def setExchange (r : Router) (e : ExchangeId) (x : Exchange) : Router :=
  { r with exchanges := r.exchanges.set e.index x }

def modifyExchange (r : Router) (e : ExchangeId) (f : Exchange → Exchange) : Router :=
  r.setExchange e (f (r.exchange e))

/-- Adds an exchange. -/
def addExchange (r : Router) (p : Pattern) : ExchangeId × Router :=
  let (n, exchanges) := r.exchanges.add { pattern := p }
  (⟨n⟩, { r with exchanges })

/-- Changes an exchange, if it can be changed. -/
def change (r : Router) (e : ExchangeId) (c : Exchange.Change) : Except RouterError Unit × Router :=
  match (r.exchange e).change c with
  | .ok x => (.ok (), r.setExchange e x)
  | .error err => (.error (err.toError e), r)

/-! ## Channels -/

/-- Opens a client channel. -/
def openChannel (r : Router) : SlotId × Router :=
  r.addSlot {
    owner := .client true []
    properties := Dict.insert ∅ Properties.untargetableKey "true" }

/-- Closes the channel of a slot that is present; a client's slot is retired with it. -/
def closeChannel (r : Router) (s : SlotId) : Router :=
  if r.isPresent s then
    r.modifySlot s fun slot => if slot.isClient then slot.close.retire else slot.close
  else r

/-- The channel of a slot is of no use any more. -/
def isClosed (r : Router) (s : SlotId) : Bool := !r.isPresent s || (r.slot s).closed

/-! ## Registrations -/

/-- The properties of a registered endpoint's slot. -/
def endpointProperties? (r : Router) (name : String) : Option Properties :=
  (r.registry.find? name).map fun g => (r.slot g.slot).properties

/-- Gives an endpoint a slot that no search finds yet. -/
def reserve (r : Router) (name : String) (properties : Properties) : Registration × Router :=
  let (s, r) := r.addSlot { owner := .endpoint name, properties }
  let (g, registry) := r.registry.reserve name s
  (g, { r with registry })

/-- Gives up the registration of an endpoint and retires its slot. -/
def unregister (r : Router) (name : String) : Option (SlotId × Router) :=
  (r.registry.remove name).map fun (g, registry) =>
    (g.slot, { r with registry }.modifySlot g.slot Slot.retire)

/-! ## Searches -/

/-- The registered slots that satisfy a condition, in the order of their registrations. -/
def select (r : Router) (p : Slot → Bool) : List SlotId :=
  r.registry.slots.filter fun s => r.isPresent s && p (r.slot s)

/-- The slots with all properties of a query, which may lead along a wire first. -/
def query (r : Router) (properties : Properties) : List SlotId :=
  let query := Wire.resolve r.wires properties
  r.select fun slot => slot.properties.satisfies query

def queryFilter (r : Router) (f : Filter) : List SlotId :=
  r.select fun slot => f.holds slot.properties

/-- The slots that a reference finds. -/
def choose (r : Router) : Reference → List SlotId
  | .properties properties => r.query properties
  | .filter f => r.queryFilter f
  | .endpoint id => (r.slotOf? id).toList.filter fun s => !(r.slot s).retired

/-- The access list of a slot admits an exchange. -/
def admits (r : Router) (e : ExchangeId) (s : SlotId) : Bool × Router :=
  let x := r.exchange e
  let subject := x.input.bind (·.subject)
  let (ok, authorization) := r.authorization.isAuthorized (r.slotName s, x.operation) subject
  (ok, { r with authorization })

/-! ## Sending -/

/-- Accepts a send: the sender has the turn, and its first send pins it as the source. -/
def accept (r : Router) (e : ExchangeId) (s : SlotId) : Except RouterError Unit × Router :=
  let x := r.exchange e
  let sent (x : Exchange) : Exchange :=
    { x with sends := x.sends + 1, inTransit := true, completed := x.status.isTerminal }
  match x.checkSend s with
  | .error refusal => (.error refusal.toError, r)
  | .ok () =>
    if x.source.isSome then (.ok (), r.setExchange e (sent x))
    else
      let (pinned, slot) := (r.slot s).retain
      let r := r.setSlot s slot
      if pinned then (.ok (), r.setExchange e (sent { x with source := some s }))
      else (.error (.channelClosed s.text), r)

/-- Pins a slot as the destination of an exchange, unless it has been retired. -/
def pin (r : Router) (e : ExchangeId) (s : SlotId) : Bool × Router :=
  let (pinned, slot) := (r.slot s).retain
  let r := r.setSlot s slot
  if pinned then (true, r.modifyExchange e fun x => { x with destination := some s })
  else (false, r)

/-- Takes an exchange that is over off the counts of its slots, once. -/
def releasePins (r : Router) (e : ExchangeId) : Router :=
  let x := r.exchange e
  if x.released then r
  else
    let r := r.setExchange e { x with released := true }
    (x.source.toList ++ x.destination.toList).foldl
      (fun r s => if r.isPresent s then r.modifySlot s Slot.release else r) r

end Router

end MessageRouter
