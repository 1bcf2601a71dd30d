import MessageRouter.Slot

/-!
# Registrations

Which endpoints are registered, and in which order.  An endpoint first reserves a number and
comes into the order of all searches only when it knows its channel; it keeps number and slot
until it is unregistered.
-/

namespace MessageRouter

/-- The number and the slot of a registration. -/
structure Registration where
  number : Nat
  slot : SlotId
  deriving DecidableEq, Inhabited

/-- The registrations by endpoint, and those that searches find, by number. -/
structure Registry where
  endpoints : Dict Registration := ∅
  order : List Registration := []
  nextNumber : Nat := 0
  deriving Inhabited

namespace Registry

/-- The registration of an endpoint. -/
def find? (r : Registry) (name : String) : Option Registration := r.endpoints.get? name

/-- The slots that searches look at, in their order. -/
def slots (r : Registry) : List SlotId := r.order.map (·.slot)

/-- Puts a registration at the place of its number. -/
def place (g : Registration) : List Registration → List Registration
  | [] => [g]
  | h :: rest => if g.number < h.number then g :: h :: rest else h :: place g rest

/-- Gives an endpoint the next number. -/
def reserve (r : Registry) (name : String) (slot : SlotId) : Registration × Registry :=
  let g : Registration := ⟨r.nextNumber, slot⟩
  (g, { r with endpoints := r.endpoints.insert name g, nextNumber := r.nextNumber + 1 })

/-- Lets searches find a registration, unless it has been given up since it was reserved. -/
def confirm (r : Registry) (name : String) (g : Registration) : Bool × Registry :=
  if r.find? name = some g then (true, { r with order := place g r.order }) else (false, r)

/-- Gives up the registration of an endpoint. -/
def remove (r : Registry) (name : String) : Option (Registration × Registry) :=
  (r.find? name).map fun g =>
    (g, { r with
      endpoints := r.endpoints.erase name
      order := r.order.filter (·.number != g.number) })

end Registry

end MessageRouter
