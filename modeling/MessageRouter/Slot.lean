import MessageRouter.Identifier
import MessageRouter.Properties

/-!
# Slots

A slot is the router's side of an endpoint or of a client channel.  It counts the exchanges that
need it; a retired slot takes no new ones, and it goes away with the last of them.
-/

namespace MessageRouter

/-- A slot by its age. -/
structure SlotId where
  index : Nat
  deriving DecidableEq, Inhabited

/-- An exchange by its age. -/
structure ExchangeId where
  index : Nat
  deriving DecidableEq, Inhabited

namespace SlotId

/-- The identifier under which the slot is known outside the router. -/
def identifier (s : SlotId) : Identifier :=
  ⟨BitVec.ofNat 128 (0x5D1C9A3E7B424F089E61000000000000 + s.index)⟩

def text (s : SlotId) : String := s.identifier.text

instance : ToString SlotId := ⟨text⟩

end SlotId

namespace ExchangeId

/-- The identifier under which the exchange is known outside the router. -/
def identifier (e : ExchangeId) : Identifier :=
  ⟨BitVec.ofNat 128 (0xA3F05C721E9B4D368C57000000000000 + e.index)⟩

def text (e : ExchangeId) : String := e.identifier.text

instance : ToString ExchangeId := ⟨text⟩

end ExchangeId

/-- Whose slot it is: that of a registered endpoint, or of a client with a mailbox.  The client
receives as long as it holds its channel. -/
inductive SlotOwner where
  | endpoint (name : String)
  | client (receiving : Bool) (mailbox : List ExchangeId)
  deriving DecidableEq, Inhabited

/-- The state of a slot; a slot that is not present has left the router. -/
structure Slot where
  owner : SlotOwner
  properties : Properties
  present : Bool := true
  closed : Bool := false
  retired : Bool := false
  inFlight : Nat := 0
  deriving DecidableEq

/-- A slot that was never there is not present. -/
instance : Inhabited Slot := ⟨{ owner := .client false [], properties := ∅, present := false }⟩

namespace Slot

/-! ## Properties -/

def isClient (s : Slot) : Bool :=
  match s.owner with
  | .client .. => true
  | .endpoint _ => false

/-- The name that its properties give a slot, or else its identifier. -/
def name (s : Slot) (id : SlotId) : String := (s.properties.get? Properties.nameKey).getD id.text

/-- No search for a destination finds the slot. -/
def isUntargetable (s : Slot) : Bool := s.properties.flag Properties.untargetableKey

/-- Deliveries to the slot happen on the task that sends. -/
def deliversInline (s : Slot) : Bool := s.isClient || s.properties.flag Properties.syncDeliveryKey

/-- The slot can be chosen as a destination. -/
def isAvailable (s : Slot) : Bool := !(s.isUntargetable || s.closed || s.retired)

/-! ## Use -/

/-- A retired slot leaves the router as soon as no exchange needs it. -/
def reap (s : Slot) : Slot :=
  if s.retired ∧ s.inFlight = 0 then { s with present := false } else s

/-- Counts one more exchange; a retired slot refuses. -/
def retain (s : Slot) : Bool × Slot :=
  if s.retired then (false, s.reap) else (true, { s with inFlight := s.inFlight + 1 })

/-- Counts one exchange less. -/
def release (s : Slot) : Slot := { s with inFlight := s.inFlight - 1 }.reap

/-- Takes no new exchanges from now on. -/
def retire (s : Slot) : Slot := { s with retired := true }.reap

/-- Sends nothing new from now on. -/
def close (s : Slot) : Slot := { s with closed := true }

/-! ## Mailboxes -/

/-- Puts an exchange into the mailbox of a client that still receives. -/
def post? (s : Slot) (e : ExchangeId) : Option Slot :=
  match s.owner with
  | .client true mailbox => some { s with owner := .client true (mailbox ++ [e]) }
  | _ => none

/-- Takes the oldest exchange out of the mailbox. -/
def take? (s : Slot) : Option (ExchangeId × Slot) :=
  match s.owner with
  | .client receiving (e :: rest) => some (e, { s with owner := .client receiving rest })
  | _ => none

/-- The client gives up its channel. -/
def abandon (s : Slot) : Slot :=
  match s.owner with
  | .client _ mailbox => { s with owner := .client false mailbox }
  | .endpoint _ => s

/-! ## Display -/

def text (s : Slot) (id : SlotId) : String :=
  "Endpoint[" ++ id.text ++ ", " ++ s.properties.text ++ "]"

/-- The slot for diagnostic output. -/
def quotedText (s : Slot) (id : SlotId) : String :=
  "InternalEndpoint \x7b id: EndpointId(" ++ id.text ++ "), properties: " ++
  s.properties.quotedText ++ ", client: " ++ toString s.isClient ++
  ", closed: " ++ toString s.closed ++ ", in_flight: " ++ toString s.inFlight ++ " \x7d"

end Slot

end MessageRouter
