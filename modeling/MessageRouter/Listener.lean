import MessageRouter.Exchange.Basic

/-!
# Listeners

Listeners hear what happens to endpoints, to exchanges, or to both.  Each is registered at most
once; registering it again only replaces its properties.
-/

namespace MessageRouter

/-- What listeners hear about an exchange. -/
inductive ExchangeEvent where
  | sent
  | delivered
  | failed
  deriving DecidableEq, Inhabited

/-- What listeners hear about an endpoint. -/
inductive EndpointEvent where
  | registered
  | unregistered
  deriving DecidableEq, Inhabited

def ExchangeEvent.name : ExchangeEvent → String
  | .sent => "sent"
  | .delivered => "delivered"
  | .failed => "failed"

def EndpointEvent.name : EndpointEvent → String
  | .registered => "registered"
  | .unregistered => "unregistered"

/-- A registered listener and what it hears. -/
structure Listener where
  name : String
  hearsEndpoints : Bool
  hearsExchanges : Bool
  properties : Properties
  deriving DecidableEq, Inhabited

namespace Listener

/-- Registers a listener behind all others, or replaces its properties. -/
def register (l : Listener) : List Listener → List Listener
  | [] => [l]
  | m :: rest =>
    if m.name = l.name then { m with properties := l.properties } :: rest else m :: register l rest

/-- Takes a listener back; the answer is whether it was registered. -/
def unregister (name : String) (ls : List Listener) : Bool × List Listener :=
  (ls.any (·.name == name), ls.filter (·.name != name))

end Listener

end MessageRouter
