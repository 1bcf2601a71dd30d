import MessageRouter.Proofs.Effects
import MessageRouter.Proofs.RouterState
import MessageRouter.Proofs.Tasks

/-!
# Registrations in order

Searches look at the registrations by number, and numbers are given out as endpoints register.
What they look at is current: an endpoint that has been unregistered is not found, and one that
has registered again afterwards has a new number (`Registry.Ordered`).
-/

namespace MessageRouter

namespace Registry

variable {r r' : Registry} {name : String} {g g' : Registration} {s : SlotId}
  {order : List Registration}

theorem mem_place : g' ∈ place g order ↔ g' = g ∨ g' ∈ order := by
  induction order with
  | nil => simp [place]
  | cons k rest ih =>
    unfold place
    split
    · simp
    · rw [List.mem_cons, List.mem_cons, ih]
      exact or_left_comm

/-- The order is by number. -/
def Ascending (order : List Registration) : Prop := order.Pairwise (·.number ≤ ·.number)

theorem ascending_place (h : Ascending order) : Ascending (place g order) := by
  unfold Ascending at *
  induction order with
  | nil => exact List.pairwise_singleton ..
  | cons k rest ih =>
    obtain ⟨first, others⟩ := List.pairwise_cons.1 h
    unfold place
    split
    case isTrue less =>
      refine List.pairwise_cons.2 ⟨fun g' hg' => ?_, h⟩
      rcases List.mem_cons.1 hg' with rfl | hg'
      · omega
      · have := first g' hg'
        omega
    case isFalse notLess =>
      refine List.pairwise_cons.2 ⟨fun g' hg' => ?_, ih others⟩
      rcases mem_place.1 hg' with rfl | hg'
      · omega
      · exact first g' hg'

/-- Searches look at registrations that are in force, by number, and no two of these have the same
number. -/
structure Ordered (r : Registry) : Prop where
  ascending : Ascending r.order
  current : ∀ g ∈ r.order, ∃ name, r.find? name = some g
  numbered : ∀ name g, r.find? name = some g → g.number < r.nextNumber
  unique : ∀ name name' g g', r.find? name = some g → r.find? name' = some g' →
    g.number = g'.number → name = name'

namespace Ordered

theorem empty : Ordered {} where
  ascending := List.Pairwise.nil
  current g hg := by cases hg
  numbered name g hg := by cases hg
  unique name name' g g' hg := by cases hg

/-- Two registrations under one number are the same. -/
theorem eq_of_number (h : r.Ordered) (hg : g ∈ r.order) (hg' : g' ∈ r.order)
    (same : g.number = g'.number) : g = g' := by
  obtain ⟨name, find⟩ := h.current g hg
  obtain ⟨name', find'⟩ := h.current g' hg'
  rw [h.unique name name' g g' find find' same, find'] at find
  exact (Option.some.inj find).symm

theorem reserve (h : r.Ordered) (unknown : r.find? name = none) :
    (r.reserve name s).2.Ordered := by
  have find (other : String) : (r.reserve name s).2.find? other =
      if other = name then some ⟨r.nextNumber, s⟩ else r.find? other := Dict.get?_insert ..
  constructor
  · exact h.ascending
  · intro g hg
    obtain ⟨other, hfind⟩ := h.current g hg
    refine ⟨other, ?_⟩
    rw [find, if_neg, hfind]
    rintro rfl
    rw [unknown] at hfind
    cases hfind
  · intro other g hfind
    rw [find] at hfind
    show g.number < r.nextNumber + 1
    split at hfind
    · cases hfind
      exact Nat.lt_succ_self _
    · exact Nat.lt_succ_of_lt (h.numbered other g hfind)
  · intro other other' g g' hfind hfind' same
    rw [find] at hfind hfind'
    split at hfind <;> split at hfind'
    · exact ‹other = name›.trans ‹other' = name›.symm
    · cases hfind
      have : g'.number < r.nextNumber := h.numbered other' g' hfind'
      exact absurd this (by rw [← same]; exact Nat.lt_irrefl _)
    · cases hfind'
      have : g.number < r.nextNumber := h.numbered other g hfind
      exact absurd this (by rw [same]; exact Nat.lt_irrefl _)
    · exact h.unique other other' g g' hfind hfind' same

theorem confirm {b : Bool} (h : r.Ordered) (hc : r.confirm name g = (b, r')) : r'.Ordered := by
  unfold Registry.confirm at hc
  split at hc
  · rename_i hfind
    cases hc
    refine ⟨ascending_place h.ascending, fun g' hg' => ?_, h.numbered, h.unique⟩
    rcases mem_place.1 hg' with rfl | hg'
    · exact ⟨name, hfind⟩
    · exact h.current g' hg'
  · cases hc
    exact h

theorem remove (h : r.Ordered) (hr : r.remove name = some (g, r')) : r'.Ordered := by
  obtain ⟨hfind, rfl⟩ := remove_eq_some.1 hr
  have find (other : String) : (r.endpoints.erase name).get? other =
      if other = name then none else r.find? other := r.find?_remove name other r.order
  have known {other : String} {k : Registration}
      (hk : (r.endpoints.erase name).get? other = some k) : r.find? other = some k := by
    rw [find] at hk
    split at hk
    · cases hk
    · exact hk
  constructor
  · exact h.ascending.filter _
  · intro k hk
    obtain ⟨hmem, number⟩ := List.mem_filter.1 hk
    obtain ⟨other, hother⟩ := h.current k hmem
    refine ⟨other, (find other).trans ?_⟩
    rw [if_neg, hother]
    rintro rfl
    rw [hfind] at hother
    cases hother
    simp at number
  · exact fun other k hk => h.numbered other k (known hk)
  · exact fun other other' k k' hk hk' => h.unique other other' k k' (known hk) (known hk')

end Ordered

end Registry

/-! ## What searches go by -/

namespace Router

variable {r r' r'' : Router} {s : SlotId} {e : ExchangeId}

/-- Two routers differ in nothing but their slots and exchanges. -/
def SameSetup (r r' : Router) : Prop := ∃ slots exchanges, r' = { r with slots, exchanges }

namespace SameSetup

theorem refl (r : Router) : r.SameSetup r := ⟨r.slots, r.exchanges, rfl⟩

theorem trans (h : r.SameSetup r') (h' : r'.SameSetup r'') : r.SameSetup r'' := by
  obtain ⟨slots, exchanges, rfl⟩ := h
  obtain ⟨slots', exchanges', rfl⟩ := h'
  exact ⟨slots', exchanges', rfl⟩

theorem config (h : r.SameSetup r') : r'.config = r.config := by
  obtain ⟨slots, exchanges, rfl⟩ := h
  rfl

theorem registry (h : r.SameSetup r') : r'.registry = r.registry := by
  obtain ⟨slots, exchanges, rfl⟩ := h
  rfl

theorem owned (h : r.SameSetup r') : r'.owned = r.owned := by
  obtain ⟨slots, exchanges, rfl⟩ := h
  rfl

theorem setSlot (slot : Slot) : r.SameSetup (r.setSlot s slot) := ⟨_, _, rfl⟩

theorem setExchange (x : Exchange) : r.SameSetup (r.setExchange e x) := ⟨_, _, rfl⟩

theorem accept {result : Except RouterError Unit} (ha : r.accept e s = (result, r')) :
    r.SameSetup r' := by
  cases result with
  | error err =>
    obtain rfl | ⟨-, rfl⟩ := accept_error ha
    · exact refl r'
    · exact setSlot _
  | ok =>
    obtain ⟨-, ⟨-, rfl⟩ | ⟨-, -, rfl⟩⟩ := accept_ok ha
    · exact setExchange _
    · exact (setSlot _).trans (setExchange _)

theorem pin {b : Bool} (hp : r.pin e s = (b, r')) : r.SameSetup r' := by
  cases b with
  | false =>
    obtain ⟨-, rfl⟩ := pin_error hp
    exact setSlot _
  | true =>
    obtain ⟨-, rfl⟩ := pin_ok hp
    exact (setSlot _).trans (setExchange _)

theorem foldl_unpin (l : List SlotId) : r.SameSetup (l.foldl unpin r) := by
  induction l generalizing r with
  | nil => exact refl r
  | cons s l ih =>
    refine trans ?_ ih
    unfold unpin
    split
    · exact setSlot _
    · exact refl r

theorem releasePins : r.SameSetup (r.releasePins e) := by
  by_cases hr : (r.exchange e).released = true
  · rw [releasePins_of_released hr]
    exact refl r
  · rw [releasePins_eq (eq_false_of_ne_true hr)]
    exact (setExchange _).trans (foldl_unpin _)

theorem closeChannel : r.SameSetup (r.closeChannel s) := by
  unfold Router.closeChannel
  split
  · exact setSlot _
  · exact refl r

end SameSetup

end Router

namespace Engine

/-- A step keeps the configuration, and searches go on to look at the registrations by number. -/
theorem Frame.Becomes.setup {c : Context} {r : Router} {f : Frame} {o : Outcome}
    (b : Becomes c r f o) : (o.router r).config = r.config ∧
      (r.registry.Ordered → (o.router r).registry.Ordered) := by
  have same {r' : Router} (hr : r.SameSetup r') :
      r'.config = r.config ∧ (r.registry.Ordered → r'.registry.Ordered) :=
    ⟨hr.config, fun h => hr.registry ▸ h⟩
  cases b
  case accept accepted => exact same (.accept accepted)
  case notAccepted refused => exact same (.accept refused)
  case release => exact same .releasePins
  case pins pinned => exact same (.pin pinned)
  case cannotPin retired => exact same (.pin retired)
  case reserves unknown reserved =>
    cases reserved
    exact ⟨rfl, fun h => h.reserve unknown⟩
  case confirms confirmed => exact ⟨rfl, fun h => h.confirm confirmed⟩
  case notConfirmed given => exact ⟨rfl, fun h => h.confirm given⟩
  case unregisters removed =>
    obtain ⟨g, registry, taken, rfl, rfl⟩ := Router.unregister_eq_some.1 removed
    exact ⟨rfl, fun h => h.remove taken⟩
  all_goals exact ⟨rfl, fun h => h⟩

theorem Operation.sameSetup_closeIn (alive : Bool) (s : SlotId) (r : Router) :
    r.SameSetup (closeIn alive s r) := by
  unfold closeIn
  split
  · exact .closeChannel
  · exact .refl r

theorem Operation.setup (o : Operation) (alive : Bool) (r : Router) :
    (o.apply alive r).config = r.config ∧ (o.apply alive r).registry = r.registry := by
  have same {r' : Router} (hr : r.SameSetup r') : r'.config = r.config ∧ r'.registry = r.registry :=
    ⟨hr.config, hr.registry⟩
  cases o with
  | close s => exact same (sameSetup_closeIn alive s r)
  | abandon s =>
    simp only [apply]
    split
    · exact same ((Router.SameSetup.setSlot _).trans (sameSetup_closeIn alive s _))
    · exact same (.refl r)
  | take s =>
    simp only [apply]
    split
    · exact same (.setSlot _)
    · exact same (.refl r)
  | change e c =>
    simp only [apply, Router.change]
    split
    · exact same (.setExchange _)
    · exact same (.refl r)
  | _ => exact ⟨rfl, rfl⟩

/-- A move changes the router by a step or by an operation, if at all. -/
theorem Machine.router_of_move {m m' : Machine} {mv : Move} (hm : m.move? mv = some m') :
    m'.router = m.router ∨ (∃ o : Operation, m'.router = o.apply m.routerAlive m.router) ∨
      ∃ c f o, Frame.Becomes c m.router f o ∧ m'.router = o.router m.router := by
  cases mv with
  | advance t =>
    obtain ⟨f, rest, o, -, b, rfl⟩ := exists_becomes hm
    exact .inr (.inr ⟨_, f, o, b, router_settle b⟩)
  | request t f => exact .inl ((request_of_move hm).2 ▸ rfl)
  | answer t reply => exact .inl ((finish_of_move hm).2 ▸ rfl)
  | operate o => exact .inr (.inl ⟨o, Option.some.inj hm ▸ rfl⟩)
  | fork | elapse duration => all_goals exact .inl (Option.some.inj hm ▸ rfl)

theorem Machine.setup_of_move {m m' : Machine} {mv : Move} (hm : m.move? mv = some m') :
    m'.router.config = m.router.config ∧
      (m.router.registry.Ordered → m'.router.registry.Ordered) := by
  rcases router_of_move hm with same | ⟨o, applied⟩ | ⟨c, f, o, b, stepped⟩
  · rw [same]
    exact ⟨rfl, fun h => h⟩
  · obtain ⟨config, registry⟩ := o.setup m.routerAlive m.router
    rw [applied]
    exact ⟨config, fun h => registry.symm ▸ h⟩
  · rw [stepped]
    exact b.setup

/-- In every run the configuration stays, and searches look at the registrations in force, by
number. -/
theorem Run.setup {config : Config} {h : History} {m : Machine} (run : Run config h m) :
    m.router.config = config ∧ m.router.registry.Ordered := by
  obtain ⟨r, hr, p⟩ := run
  refine p.induct (I := fun m => m.router.config = config ∧ m.router.registry.Ordered) ?_
    fun m mv m' ⟨hc, ordered⟩ hm => ?_
  · rw [Router.eq_of_start hr]
    exact ⟨rfl, Registry.Ordered.empty⟩
  · obtain ⟨same, keeps⟩ := Machine.setup_of_move hm
    exact ⟨same.trans hc, keeps ordered⟩

end Engine

end MessageRouter
