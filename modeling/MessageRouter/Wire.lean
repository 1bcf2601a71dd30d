import MessageRouter.Properties

/-!
# Wires

A wire leads one query to another: whoever asks for the properties at its start gets what the
properties at its end find.
-/

namespace MessageRouter

/-- A connection between two queries. -/
structure Wire where
  start : Properties
  target : Properties
  deriving DecidableEq, Inhabited

namespace Wire

/-- The wires without the first one that is equal; the answer is whether there was one. -/
def remove (w : Wire) (wires : List Wire) : Bool × List Wire := (wires.contains w, wires.erase w)

/-- Where the first wire from a query leads; a query without a wire stays as it is. -/
def resolve (wires : List Wire) (query : Properties) : Properties :=
  match wires.find? (·.start = query) with
  | some w => w.target
  | none => query

end Wire

end MessageRouter
