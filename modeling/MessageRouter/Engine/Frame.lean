import MessageRouter.Router

/-!
# Tasks

Exchanges travel on tasks.  A task is a stack of frames, each of which says what the task still
has to do when the frames above it are through; a frame that is through hands a reply to the one
below.  Endpoints, listeners, flows and the application are outside the router: the frame of a
call waits until they answer, and they may put frames above it by calling the router back.
-/

namespace MessageRouter.Engine

/-- A send that has been accepted. -/
structure Hop where
  sender : SlotId
  exchange : ExchangeId
  /-- It is the first send of the exchange. -/
  first : Bool
  /-- The exchange ended with it. -/
  terminal : Bool
  /-- Whose turn it was. -/
  role : Role
  deriving DecidableEq, Inhabited

/-- What someone outside the router is asked to do. -/
inductive Call where
  | application
  | bind (endpoint : String) (s : SlotId)
  | process (endpoint : String) (s : SlotId) (e : ExchangeId)
  | exchangeEvent (listener : String) (event : ExchangeEvent) (e : ExchangeId)
  | slotEvent (listener : String) (event : EndpointEvent) (s : SlotId)
  | accepts (flow : String) (e : ExchangeId) (s : SlotId)
  /-- A flow carries an exchange to a slot; it may have delivered it already. -/
  | carry (flow : String) (h : Hop) (s : SlotId) (delivered : Bool)
  deriving DecidableEq, Inhabited

/-- What a frame hands to the one below. -/
inductive Reply where
  | done
  | refused (e : RouterError)
  | failed (f : Failure)
  | answer (b : Bool)
  | chosen (f : Option Flow)
  | slot (s : SlotId)
  | received (e : Option ExchangeId)
  deriving Inhabited

/-- What a task has to do next. -/
inductive Frame where
  /-- Someone outside the router is at work. -/
  | call (c : Call)
  /-- Hands down a reply whatever came from above. -/
  | yields (r : Reply)
  /-- Tells the listeners about an exchange. -/
  | announce (event : ExchangeEvent) (e : ExchangeId)
  | notify (event : ExchangeEvent) (e : ExchangeId) (listeners : List String)
  /-- Tells the listeners about a slot. -/
  | announceSlot (event : EndpointEvent) (s : SlotId)
  | notifySlot (event : EndpointEvent) (s : SlotId) (listeners : List String)
  /-- Sends an exchange through the channel of a slot. -/
  | send (s : SlotId) (e : ExchangeId)
  /-- Sends an exchange and waits for the other party. -/
  | sendSync (s : SlotId) (e : ExchangeId) (timeout : Option Nat)
  | mark (s : SlotId) (e : ExchangeId) (timeout : Option Nat)
  | marked (e : ExchangeId) (role : Role) (timeout : Option Nat)
  | waiting (e : ExchangeId) (role : Role) (deadline : Option Nat)
  | woken (e : ExchangeId) (role : Role)
  /-- Passes an exchange on from a slot, if the rules for sending allow it. -/
  | dispatch (s : SlotId) (e : ExchangeId)
  | accept (s : SlotId) (e : ExchangeId)
  | sent (h : Hop)
  /-- A flow carries the exchange. -/
  | routed (h : Hop)
  /-- The exchange cannot be carried. -/
  | lost (h : Hop) (err : RouterError)
  /-- Takes an exchange that is over off the counts of its slots. -/
  | release (e : ExchangeId)
  /-- Gives a waiting party its answer. -/
  | wake (e : ExchangeId) (role : Role)
  /-- Finds the slot for an exchange and a flow that carries it there. -/
  | route (h : Hop)
  | offer (h : Hop) (target : Reference) (candidates : List SlotId) (denied : Option String)
  | offered (h : Hop) (target : Reference) (candidate : SlotId) (rest : List SlotId)
      (denied : Option String)
  | routeTo (h : Hop) (s : SlotId)
  | reaching (h : Hop) (s : SlotId)
  /-- Asks flows in turn until one accepts. -/
  | choose (e : ExchangeId) (s : SlotId) (flows : List Flow)
  | asking (e : ExchangeId) (s : SlotId) (flow : Flow) (rest : List Flow)
  /-- Hands an exchange to a slot. -/
  | deliver (s : SlotId) (e : ExchangeId)
  | hand (s : SlotId) (e : ExchangeId)
  | process (s : SlotId) (e : ExchangeId)
  | enter (s : SlotId) (e : ExchangeId) (sends : Nat)
  | handle (s : SlotId) (e : ExchangeId) (sends : Nat)
  /-- Registers an endpoint. -/
  | register (endpoint : String) (properties : Properties)
  | bound (endpoint : String) (g : Registration)
  | unregister (endpoint : String)
  /-- Takes an exchange out of a mailbox, or waits for one. -/
  | receive (s : SlotId) (deadline : Nat)
  deriving Inhabited

namespace Frame

/-- The frame keeps the router alive: it works on the router itself, not through a channel. -/
def holdsRouter : Frame → Bool
  | .call _ | .send .. | .sendSync .. | .waiting .. | .woken .. | .deliver .. | .receive .. => false
  | _ => true

/-- Until when a frame waits, if it waits for a time. -/
def deadline? : Frame → Option Nat
  | .waiting _ _ deadline => deadline
  | .receive _ deadline => some deadline
  | _ => none

/-- What becomes of the frame of a call when a request is made from it: a flow notes that it has
delivered the exchange it carries. -/
def note : Frame → Frame → Frame
  | .deliver s e, .call (.carry name h s' delivered) =>
    .call (.carry name h s' (delivered || (s == s' && e == h.exchange)))
  | _, g => g

end Frame

/-- Where a task runs: it is one of the application, or a delivery of its own.  Deliveries share a
number of threads, except those for which a sender waits. -/
inductive Lane where
  | application
  | pool
  | handoff
  deriving DecidableEq, Inhabited

/-- A task with the reply of the frame that was last through. -/
structure Task where
  lane : Lane
  frames : List Frame
  reply : Reply := .done
  /-- The task has a thread. -/
  started : Bool := false

/-- A task that was never there has nothing to do. -/
instance : Inhabited Task := ⟨{ lane := .application, frames := [] }⟩

namespace Task

def isFinished (t : Task) : Bool := t.frames.isEmpty

def holdsRouter (t : Task) : Bool := t.frames.any Frame.holdsRouter

/-- The work outside the router that the task waits for. -/
def call? (t : Task) : Option Call :=
  match t.frames with
  | .call c :: _ => some c
  | _ => none

/-- How many calls the task is inside of. -/
def callDepth (t : Task) : Nat :=
  t.frames.countP fun f => match f with
    | .call _ => true
    | _ => false

/-- Until when the task waits, if it waits for a time. -/
def deadline? (t : Task) : Option Nat := t.frames.head?.bind Frame.deadline?

end Task

/-- A router with the tasks on it and the time. -/
structure Machine where
  router : Router
  tasks : Table Task
  now : Nat := 0

namespace Machine

def task (m : Machine) (t : Nat) : Task := m.tasks.get t

def setTask (m : Machine) (t : Nat) (task : Task) : Machine :=
  { m with tasks := m.tasks.set t task }

/-- The router is there as long as someone holds it or a task works on it. -/
def routerAlive (m : Machine) : Bool := m.router.owned || m.tasks.rows.any Task.holdsRouter

/-- How many deliveries have a thread from the pool. -/
def poolInUse (m : Machine) : Nat :=
  m.tasks.rows.countP fun t => t.lane == .pool && t.started && !t.isFinished

end Machine

end MessageRouter.Engine
