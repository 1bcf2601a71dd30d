import MessageRouter.Exchange.Basic

/-!
# Flows

A flow carries exchanges to slots.  The first registered flow that accepts an exchange for a slot
carries it; the straight-through flow accepts everything and delivers at once.
-/

namespace MessageRouter

/-- How a flow decides and what it does. -/
inductive FlowKind where
  | straightThrough
  | custom
  deriving DecidableEq, Inhabited

/-- A registered flow under the name of its owner; the router's own flow has none. -/
structure Flow where
  owner : Option String
  kind : FlowKind
  properties : Properties
  deriving DecidableEq, Inhabited

namespace Flow

/-- The name that a flow gives itself. -/
def name (f : Flow) : String :=
  match f.kind with
  | .straightThrough => "straight-through"
  | .custom => f.owner.getD ""

/-- Takes back all registrations of an owner; the answer is whether there were any. -/
def unregister (owner : String) (fs : List Flow) : Bool × List Flow :=
  (fs.any (·.owner == some owner), fs.filter (·.owner != some owner))

/-- The flow with which a router starts. -/
def initial : Flow := ⟨none, .straightThrough, ∅⟩

end Flow

end MessageRouter
