import MessageRouter.Proofs.Ledger
import MessageRouter.Proofs.Run
import MessageRouter.Proofs.Steps

/-!
# What becomes of slots

Apart from registrations only a few things ever happen to a slot: it counts exchanges, it leaves
when it is retired and not needed, its channel is closed, and the mailbox of a client changes.  A
relation between a slot and its later states that allows for these (`Slot.Lasting`) holds across
every step and every operation.
-/

namespace MessageRouter

namespace Slot

/-- A relation between a slot and what has become of it that whatever happens to slots keeps, apart
from registrations. -/
structure Lasting (R : Slot → Slot → Prop) : Prop where
  refl : ∀ slot, R slot slot
  trans : ∀ {slot slot' slot''}, R slot slot' → R slot' slot'' → R slot slot''
  /-- Before it is added a slot has its default state. -/
  added : ∀ slot, R default slot
  counts : ∀ slot n, R slot { slot with inFlight := n }
  reap : ∀ slot, R slot slot.reap
  closes : ∀ slot, R slot (if slot.isClient then slot.close.retire else slot.close)
  mail : ∀ {slot receiving mailbox} receiving' mailbox', slot.owner = .client receiving mailbox →
    R slot { slot with owner := .client receiving' mailbox' }

namespace Lasting

variable {R : Slot → Slot → Prop} {slot slot' : Slot} {e : ExchangeId}

theorem release (lasting : Lasting R) (slot : Slot) : R slot slot.release :=
  lasting.trans (lasting.counts _ _) (lasting.reap _)

theorem post (lasting : Lasting R) (h : slot.post? e = some slot') : R slot slot' := by
  unfold post? at h
  split at h
  · cases h
    exact lasting.mail _ _ ‹_›
  · cases h

theorem take (lasting : Lasting R) (h : slot.take? = some (e, slot')) : R slot slot' := by
  unfold take? at h
  split at h
  · cases h
    exact lasting.mail _ _ ‹_›
  · cases h

theorem abandon (lasting : Lasting R) (slot : Slot) : R slot slot.abandon := by
  unfold Slot.abandon
  split
  · exact lasting.mail _ _ ‹_›
  · exact lasting.refl _

end Lasting

end Slot

namespace Router

variable {R : Slot → Slot → Prop} {r r' r'' : Router} {s : SlotId} {e : ExchangeId} {slot : Slot}

/-- Every slot is in a relation with what has become of it. -/
def Relates (R : Slot → Slot → Prop) (r r' : Router) : Prop := ∀ s, R (r.slot s) (r'.slot s)

namespace Relates

theorem refl (lasting : Slot.Lasting R) (r : Router) : Relates R r r := fun _ => lasting.refl _

theorem trans (lasting : Slot.Lasting R) (h : Relates R r r') (h' : Relates R r' r'') :
    Relates R r r'' :=
  fun s => lasting.trans (h s) (h' s)

theorem setSlot (lasting : Slot.Lasting R) (h : R (r.slot s) slot) :
    Relates R r (r.setSlot s slot) := by
  intro t
  rw [slot_setSlot]
  split
  · subst ‹s = t›
    exact h
  · exact lasting.refl _

theorem setExchange (lasting : Slot.Lasting R) (x : Exchange) : Relates R r (r.setExchange e x) :=
  refl lasting r

theorem accept (lasting : Slot.Lasting R) {result : Except RouterError Unit}
    (ha : r.accept e s = (result, r')) : Relates R r r' := by
  cases result with
  | error err =>
    obtain rfl | ⟨-, rfl⟩ := accept_error ha
    · exact refl lasting r'
    · exact setSlot lasting (lasting.reap _)
  | ok =>
    obtain ⟨-, ⟨-, rfl⟩ | ⟨-, -, rfl⟩⟩ := accept_ok ha
    · exact setExchange lasting _
    · exact trans lasting (setSlot lasting (lasting.counts _ _)) (setExchange lasting _)

theorem pin (lasting : Slot.Lasting R) {b : Bool} (hp : r.pin e s = (b, r')) : Relates R r r' := by
  cases b with
  | false =>
    obtain ⟨-, rfl⟩ := pin_error hp
    exact setSlot lasting (lasting.reap _)
  | true =>
    obtain ⟨-, rfl⟩ := pin_ok hp
    exact trans lasting (setSlot lasting (lasting.counts _ _)) (setExchange lasting _)

theorem foldl_unpin (lasting : Slot.Lasting R) (l : List SlotId) :
    Relates R r (l.foldl unpin r) := by
  induction l generalizing r with
  | nil => exact refl lasting r
  | cons s l ih =>
    refine trans lasting ?_ ih
    unfold unpin
    split
    · exact setSlot lasting (lasting.release _)
    · exact refl lasting r

theorem releasePins (lasting : Slot.Lasting R) : Relates R r (r.releasePins e) := by
  by_cases hr : (r.exchange e).released = true
  · rw [releasePins_of_released hr]
    exact refl lasting r
  · rw [releasePins_eq (eq_false_of_ne_true hr)]
    exact trans lasting (setExchange lasting _) (foldl_unpin lasting _)

theorem closeChannel (lasting : Slot.Lasting R) : Relates R r (r.closeChannel s) := by
  unfold Router.closeChannel
  split
  · exact setSlot lasting (lasting.closes _)
  · exact refl lasting r

theorem addSlot (lasting : Slot.Lasting R) : Relates R r (r.addSlot slot).2 := by
  intro s
  rw [Ledger.slot_addSlot]
  split
  · have absent : r.slot s = default := by
      by_contra hs
      have := Ledger.index_lt hs
      omega
    rw [absent]
    exact lasting.added _
  · exact lasting.refl _

end Relates

end Router

namespace Engine

variable {R : Slot → Slot → Prop}

namespace Frame

/-- The frame changes registrations. -/
def registers : Frame → Bool
  | .register .. | .bound .. | .unregister _ => true
  | _ => false

theorem Becomes.relates {c : Context} {r : Router} {f : Frame} {o : Outcome}
    (lasting : Slot.Lasting R) (b : Becomes c r f o) (hf : f.registers = false) :
    Router.Relates R r (o.router r) := by
  cases b
  case accept accepted => exact .accept lasting accepted
  case notAccepted refused => exact .accept lasting refused
  case release => exact .releasePins lasting
  case pins pinned => exact .pin lasting pinned
  case cannotPin retired => exact .pin lasting retired
  case posts posted => exact .setSlot lasting (lasting.post posted)
  case receives taken => exact .setSlot lasting (lasting.take taken)
  case registered | reserves | confirms | notConfirmed | unregisters | notRegistered =>
    all_goals cases hf
  all_goals exact .refl lasting r

end Frame

theorem Operation.relates (lasting : Slot.Lasting R) (o : Operation) (alive : Bool) (r : Router) :
    Router.Relates R r (o.apply alive r) := by
  have closeIn (r : Router) (s : SlotId) : Router.Relates R r (closeIn alive s r) := by
    unfold Operation.closeIn
    split
    · exact .closeChannel lasting
    · exact .refl lasting r
  cases o with
  | openChannel => exact .addSlot lasting
  | close s => exact closeIn r s
  | abandon s =>
    simp only [apply]
    split
    · exact .trans lasting (.setSlot lasting (lasting.abandon _)) (closeIn _ s)
    · exact .refl lasting r
  | take s =>
    simp only [apply]
    split
    · exact .setSlot lasting (lasting.take ‹_›)
    · exact .refl lasting r
  | change e c =>
    simp only [apply, Router.change]
    split
    · exact .setExchange lasting _
    · exact .refl lasting r
  | _ => exact .refl lasting r

end Engine

end MessageRouter
