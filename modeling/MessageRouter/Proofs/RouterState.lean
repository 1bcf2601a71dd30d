import MessageRouter.Router

/-!
# Operations on a router

What each operation reads and writes: a slot and an exchange are in places of their own, and an
operation on one of them leaves all others as they are.
-/

namespace MessageRouter

namespace Exchange

/-- An exchange that has been sent through the channel of a slot. -/
def sentBy (x : Exchange) (s : SlotId) : Exchange :=
  { x with
    source := some (x.source.getD s)
    sends := x.sends + 1
    inTransit := true
    completed := x.status.isTerminal }

theorem setWaiting_of_eq {x : Exchange} {role : Role} {b : Bool} (h : x.waiting.get role = b) :
    x.setWaiting role b = x := by
  have : x.waiting.set role b = x.waiting := by
    subst h
    cases role <;> rfl
  simp only [setWaiting, this]

end Exchange

namespace Slot

@[simp] theorem owner_reap (slot : Slot) : slot.reap.owner = slot.owner := by
  unfold reap
  split <;> rfl

@[simp] theorem retired_reap (slot : Slot) : slot.reap.retired = slot.retired := by
  unfold reap
  split <;> rfl

end Slot

namespace Registry

variable {r r' : Registry} {g : Registration} {name : String}

theorem find?_remove (r : Registry) (name other : String) (order : List Registration) :
    ({ r with endpoints := r.endpoints.erase name, order } : Registry).find? other =
      if other = name then none else r.find? other :=
  Dict.get?_erase ..

theorem remove_eq_some : r.remove name = some (g, r') ↔ r.find? name = some g ∧
    { r with
      endpoints := r.endpoints.erase name
      order := r.order.filter (·.number != g.number) } = r' := by
  rw [remove, Option.map_eq_some_iff]
  constructor
  · rintro ⟨g, known, removed⟩
    cases removed
    exact ⟨known, rfl⟩
  · rintro ⟨known, rfl⟩
    exact ⟨g, known, rfl⟩

end Registry

namespace Slot

/-- A slot that counts one more exchange. -/
def pinned (s : Slot) : Slot := { s with inFlight := s.inFlight + 1 }

theorem retain_of_retired {s : Slot} (h : s.retired = true) : s.retain = (false, s.reap) := if_pos h

theorem retain_of_not_retired {s : Slot} (h : s.retired = false) : s.retain = (true, s.pinned) :=
  if_neg (by simp [h])

end Slot

namespace Router

variable {r r' : Router} {e e' : ExchangeId} {s s' : SlotId} {x : Exchange} {slot : Slot}

/-- A new router has nothing but its configuration and the flow that is part of it. -/
theorem eq_of_start {config : Config} (h : start config = .ok r) :
    r = { config, flows := if config.defaultFlow then [.initial] else [] } := by
  unfold start at h
  rcases hv : config.validate with err | _
  · simp [hv, bind, Except.bind] at h
  · simp only [hv, bind, Except.bind, pure, Except.pure, Except.ok.injEq] at h
    exact h.symm

/-! ## Places -/

theorem exchange_setExchange :
    (r.setExchange e x).exchange e' = if e = e' then x else r.exchange e' := by
  refine (Table.get_set ..).trans ?_
  cases e
  cases e'
  simp only [ExchangeId.mk.injEq]
  rfl

@[simp] theorem exchange_setExchange_self : (r.setExchange e x).exchange e = x := by
  rw [exchange_setExchange, if_pos rfl]

theorem exchange_setExchange_ne (h : e ≠ e') :
    (r.setExchange e x).exchange e' = r.exchange e' := by
  rw [exchange_setExchange, if_neg h]

theorem slot_setSlot : (r.setSlot s slot).slot s' = if s = s' then slot else r.slot s' := by
  refine (Table.get_set ..).trans ?_
  cases s
  cases s'
  simp only [SlotId.mk.injEq]
  rfl

theorem slot_setSlot_ne (h : s ≠ s') : (r.setSlot s slot).slot s' = r.slot s' := by
  rw [slot_setSlot, if_neg h]

@[simp] theorem exchange_setSlot : (r.setSlot s slot).exchange e = r.exchange e := rfl

theorem exchange_addExchange (p : Pattern) :
    (r.addExchange p).2.exchange e =
      if e.index = r.exchanges.size then { pattern := p } else r.exchange e :=
  Table.get_add ..

/-- An exchange that was never made is as good as new. -/
theorem exchange_of_size_le (h : r.exchanges.size ≤ e.index) : r.exchange e = default := by
  unfold exchange Table.get
  rw [List.getD_eq_getElem?_getD, List.getElem?_eq_none h]
  rfl

/-! ## Sends -/

/-- A send is accepted by the rules, and a first send also by the slot that it pins. -/
theorem accept_ok (h : r.accept e s = (.ok (), r')) :
    (r.exchange e).checkSend s = .ok () ∧
      ((r.exchange e).source.isSome = true ∧ r' = r.setExchange e ((r.exchange e).sentBy s) ∨
        (r.exchange e).source = none ∧ (r.slot s).retired = false ∧
          r' = (r.setSlot s (r.slot s).pinned).setExchange e ((r.exchange e).sentBy s)) := by
  unfold accept at h
  dsimp only at h
  split at h
  · cases h
  · rename_i hc
    refine ⟨hc, ?_⟩
    rcases hs : (r.exchange e).source with _ | t
    · rw [hs] at h
      by_cases hr : (r.slot s).retired = true
      · simp [Slot.retain_of_retired hr] at h
      · have hr := eq_false_of_ne_true hr
        simp only [Slot.retain_of_not_retired hr, Option.isSome_none, Bool.false_eq_true, if_false,
          if_true, Prod.mk.injEq, true_and] at h
        exact .inr ⟨rfl, hr, by simp [← h, Exchange.sentBy, hs]⟩
    · rw [hs, Option.isSome_some, if_pos rfl, Prod.mk.injEq] at h
      exact .inl ⟨rfl, by simp [← h.2, Exchange.sentBy, hs]⟩

/-- A send that is refused leaves everything but a retired slot as it was. -/
theorem accept_error {err : RouterError} (h : r.accept e s = (.error err, r')) :
    r' = r ∨ (r.slot s).retired = true ∧ r' = r.setSlot s (r.slot s).reap := by
  unfold accept at h
  dsimp only at h
  split at h
  · exact .inl (Prod.mk.inj h).2.symm
  · split at h
    · cases h
    · by_cases hr : (r.slot s).retired = true
      · rw [Slot.retain_of_retired hr] at h
        exact .inr ⟨hr, (Prod.mk.inj h).2.symm⟩
      · simp [Slot.retain_of_not_retired (eq_false_of_ne_true hr)] at h

/-- A send of an exchange that has a source is accepted if the rules allow it. -/
theorem isOk_accept (source : (r.exchange e).source.isSome = true) :
    (r.accept e s).1.isOk = true ↔ (r.exchange e).checkSend s = .ok () := by
  unfold accept
  dsimp only
  cases (r.exchange e).checkSend s with
  | error refusal => simp [Except.isOk, Except.toBool]
  | ok => simp [source, Except.isOk, Except.toBool]

theorem pin_ok (h : r.pin e s = (true, r')) :
    (r.slot s).retired = false ∧
      r' = (r.setSlot s (r.slot s).pinned).setExchange e
        { r.exchange e with destination := some s } := by
  unfold pin at h
  by_cases hr : (r.slot s).retired = true
  · simp [Slot.retain_of_retired hr] at h
  · have hr := eq_false_of_ne_true hr
    rw [Slot.retain_of_not_retired hr] at h
    exact ⟨hr, (Prod.mk.inj h).2.symm⟩

theorem pin_error (h : r.pin e s = (false, r')) :
    (r.slot s).retired = true ∧ r' = r.setSlot s (r.slot s).reap := by
  unfold pin at h
  by_cases hr : (r.slot s).retired = true
  · rw [Slot.retain_of_retired hr] at h
    exact ⟨hr, (Prod.mk.inj h).2.symm⟩
  · simp [Slot.retain_of_not_retired (eq_false_of_ne_true hr)] at h

/-! ## Releases -/

/-- Takes one exchange off the count of a slot, if the slot is still there. -/
def unpin (r : Router) (s : SlotId) : Router :=
  if r.isPresent s then r.modifySlot s Slot.release else r

theorem releasePins_of_released (h : (r.exchange e).released = true) : r.releasePins e = r :=
  if_pos h

theorem releasePins_eq (h : (r.exchange e).released = false) :
    r.releasePins e =
      ((r.exchange e).source.toList ++ (r.exchange e).destination.toList).foldl unpin
        (r.setExchange e { r.exchange e with released := true }) :=
  if_neg (by simp [h])

@[simp] theorem exchange_unpin : (r.unpin s).exchange e = r.exchange e := by
  unfold unpin
  split <;> rfl

theorem exchange_foldl_unpin (l : List SlotId) : (l.foldl unpin r).exchange e = r.exchange e := by
  induction l generalizing r with
  | nil => rfl
  | cons s l ih => rw [List.foldl_cons, ih, exchange_unpin]

theorem exchange_releasePins :
    (r.releasePins e).exchange e' =
      if e = e' then { r.exchange e' with released := true } else r.exchange e' := by
  by_cases h : (r.exchange e).released = true
  · rw [releasePins_of_released h]
    split
    · rename_i he
      subst he
      simp only [← h]
    · rfl
  · rw [releasePins_eq (eq_false_of_ne_true h), exchange_foldl_unpin,
      exchange_setExchange]
    split
    · rename_i he
      rw [he]
    · rfl

/-! ## Registrations -/

theorem exchange_reserve {name : String} {properties : Properties} {g : Registration}
    (h : r.reserve name properties = (g, r')) : r'.exchange e = r.exchange e := by
  cases h
  rfl

/-- Unregistering an endpoint removes its registration and retires its slot. -/
theorem unregister_eq_some {name : String} : r.unregister name = some (s, r') ↔
    ∃ g registry, r.registry.remove name = some (g, registry) ∧ g.slot = s ∧
      { r with registry }.modifySlot s Slot.retire = r' := by
  rw [unregister, Option.map_eq_some_iff]
  constructor
  · rintro ⟨⟨g, registry⟩, removed, hp⟩
    cases hp
    exact ⟨g, registry, removed, rfl, rfl⟩
  · rintro ⟨g, registry, removed, rfl, rfl⟩
    exact ⟨(g, registry), removed, rfl⟩

theorem exchange_unregister {name : String} (h : r.unregister name = some (s, r')) :
    r'.exchange e = r.exchange e := by
  obtain ⟨g, registry, -, rfl, rfl⟩ := unregister_eq_some.1 h
  rfl

end Router

end MessageRouter
