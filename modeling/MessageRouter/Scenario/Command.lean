import MessageRouter.Draft
import MessageRouter.Router

/-!
# Scenarios

A scenario is a list of steps that an application takes on a router.  The endpoints, listeners
and flows that it brings along follow programs, which are lists of steps too.  Everything has a
name, and names are all that steps refer to.
-/

namespace MessageRouter.Scenario

/-- A channel: that of a client or an endpoint, or of the endpoint whose program it is. -/
inductive ChannelRef where
  | own
  | client (name : String)
  | endpoint (name : String)
  deriving DecidableEq, Inhabited

/-- An exchange by its name, or the one that a program is about. -/
inductive ExchangeRef where
  | current
  | named (name : String)
  deriving DecidableEq, Inhabited

/-- A target as a step describes it. -/
inductive TargetRef where
  | properties (query : Properties)
  | filter (expression : String)
  | endpoint (label : String)
  | document (text : String)
  deriving Inhabited

/-- Which exchanges and slots a flow accepts. -/
inductive AcceptRule where
  | all
  | none
  | client
  | notClient
  | property (key value : String)
  | pattern (p : Pattern)
  | status (s : Status)
  deriving Inhabited

/-- What a flow does with an exchange that it accepted. -/
inductive CarryRule where
  | deliver
  | drop
  | fail (e : RouterError)
  | deliverAndFail (e : RouterError)
  deriving Inhabited

/-- A step: what is to be done, and what is to be told about it. -/
structure Step (α : Type) where
  /-- The word for what is done. -/
  word : String
  command : α
  /-- A failure of the step does not end the program. -/
  ignored : Bool := false
  /-- The exchange whose state is told after the step. -/
  shown : Option String := none
  /-- How many deliveries may be left waiting after the step. -/
  leaveBlocked : Nat := 0
  deriving Inhabited

/-- What an endpoint does when it is bound, and with exchanges that are active or have ended. -/
structure EndpointScript (σ : Type) where
  active : List σ := []
  terminal : List σ := []
  bind : List σ := []
  deriving Inhabited

/-- What a listener hears, and what it does about it; a deaf one takes no notice. -/
structure ListenerScript (σ : Type) where
  hearsEndpoints : Bool := true
  hearsExchanges : Bool := true
  deaf : Bool := false
  on : List (String × List σ) := []
  /-- The events that it does not survive. -/
  panics : List String := []
  deriving Inhabited

/-- What a flow accepts, what it does while it is asked, and how it carries an exchange. -/
structure FlowScript (σ : Type) where
  kind : FlowKind := .custom
  rule : AcceptRule := .all
  orClient : Bool := false
  carry : CarryRule := .deliver
  onAsked : List σ := []
  deriving Inhabited

/-- What a step does. -/
inductive Command where
  -- exchanges
  | create (e : String) (ch : ChannelRef) (p : Pattern)
  | request (e : String) (ch : ChannelRef) (p : Pattern) (target : TargetRef) (m : MessageDraft)
  | setTarget (e : ExchangeRef) (target : TargetRef)
  | setMessage (e : ExchangeRef) (slot : MessageSlot) (m : MessageDraft)
  | echo (e : ExchangeRef)
  | relay (e source : ExchangeRef)
  | setStatus (e : ExchangeRef) (s : Status)
  | setError (e : ExchangeRef) (f : Failure)
  | setOperation (e : ExchangeRef) (q : QualifiedName)
  | setProperty (e : ExchangeRef) (name : String) (value : Json)
  | removeProperty (e : ExchangeRef) (name : String)
  | property (e : ExchangeRef) (name : String)
  | message (e : ExchangeRef) (slot : MessageSlot)
  | ensure (e : ExchangeRef)
  | display (e : ExchangeRef) (full : Bool)
  | state (e : ExchangeRef)
  | same (e other : ExchangeRef)
  | exchangeDebug (e : ExchangeRef)
  -- channels
  | channel (name : String)
  | cloneChannel (ch : ChannelRef) (copy : String)
  | dropChannel (name : String)
  | send (ch : ChannelRef) (e : ExchangeRef)
  | sendSync (ch : ChannelRef) (e : ExchangeRef) (timeout : Option Nat)
  | tryReceive (ch : ChannelRef)
  | receive (ch : ChannelRef) (timeout : Nat)
  | close (ch : ChannelRef)
  | isClosed (ch : ChannelRef)
  | channelDebug (ch : ChannelRef)
  -- registrations
  | register (name : String) (properties : Properties) (script : EndpointScript (Step Command))
  | unregister (name : String)
  | endpointProperties (name : String)
  | idOf (name : String)
  | query (properties : Properties)
  | queryFilter (expression : String)
  | choose (target : TargetRef)
  | endpoints
  | registry
  | slots
  | routerDebug
  | config
  | wire (w : Wire)
  | unwire (w : Wire)
  | wires
  | resolve (query : Properties)
  | hold (label : String)
  | releaseHold (label : String)
  | deliver (label : String) (e : ExchangeRef)
  -- listeners and flows
  | listen (name : String) (properties : Properties) (script : ListenerScript (Step Command))
  | unlisten (name : String)
  | listenerProperties (name : String)
  | listeners
  | flow (name : String) (properties : Properties) (script : FlowScript (Step Command))
  | unflow (name : String)
  | flowProperties (name : String)
  | flows
  -- authorization
  | allow (name : String) (rule : AccessRule)
  | disallow (name : String)
  | rules
  | accessList (key : AccessKey)
  | isAuthorized (key : AccessKey) (subject : Option PrincipalSet)
  -- endings
  | dropRouter
  | fail (text : String)
  | panic (message : String)
  deriving Inhabited

/-- A step of a scenario or of a program. -/
abbrev Action := Step Command

end MessageRouter.Scenario
