import MessageRouter.Proofs.Attendance
import MessageRouter.Proofs.Registrations

/-!
# Which slot is selected

The first send of an exchange goes to the first slot, in the order of the registrations, that its
target finds, that can be chosen, that the access lists admit and that a flow accepts; the first
flow that does carries it, and nothing but that slot is pinned.  If there is no such slot, nothing
is pinned and no flow carries anything (`Run.selects_first`).

A task that looks for a slot by itself does so in two loops: over the candidates, and for each of
them over the flows.  Each loop is a lemma about the path of the task, by induction on the list
that is left: `Looks.choose` and `Looks.offer`.
-/

namespace MessageRouter

/-! ## What makes a slot the one -/

namespace Wire

/-- Where a query leads: along the first wire that starts with it, and nowhere if there is none. -/
inductive Leads (query : Properties) : List Wire → Properties → Prop
  | along {w : Wire} {wires : List Wire} (starts : w.start = query) :
    Leads query (w :: wires) w.target
  | past {w : Wire} {wires : List Wire} {sought : Properties} (other : w.start ≠ query)
    (leads : Leads query wires sought) : Leads query (w :: wires) sought
  | stays : Leads query [] query

theorem leads_iff {query sought : Properties} {wires : List Wire} :
    Leads query wires sought ↔ sought = resolve wires query := by
  induction wires with
  | nil =>
    constructor
    · intro h
      cases h
      rfl
    · rintro rfl
      exact .stays
  | cons w wires ih =>
    by_cases starts : w.start = query
    · have hr : resolve (w :: wires) query = w.target := by simp [resolve, starts]
      rw [hr]
      constructor
      · intro h
        cases h with
        | along => rfl
        | past other => exact absurd starts other
      · rintro rfl
        exact .along starts
    · have hr : resolve (w :: wires) query = resolve wires query := by simp [resolve, starts]
      rw [hr, ← ih]
      constructor
      · intro h
        cases h with
        | along same => exact absurd same starts
        | past other leads => exact leads
      · exact .past starts

end Wire

/-- A flow accepts an exchange for a slot, if custom flows decide by `p`. -/
def Flow.takes (p : String → ExchangeId → SlotId → Bool) (e : ExchangeId) (s : SlotId) (f : Flow) :
    Bool :=
  match f.kind with
  | .straightThrough => true
  | .custom => p (f.owner.getD "") e s

namespace Authorization

variable {a a' a'' : Authorization} {key : AccessKey} {subject : Option PrincipalSet}

/-- The access lists are the same, whichever of them are remembered. -/
def SameLists (a a' : Authorization) : Prop := ∀ key, (a'.accessList key).1 = (a.accessList key).1

theorem SameLists.refl (a : Authorization) : a.SameLists a := fun _ => rfl

theorem SameLists.trans (h : a.SameLists a') (h' : a'.SameLists a'') : a.SameLists a'' :=
  fun key => (h' key).trans (h key)

/-- To remember an access list changes none. -/
theorem sameLists_accessList (a : Authorization) (key : AccessKey) :
    a.SameLists (a.accessList key).2 := by
  rcases hl : a.remembered.lookup key with _ | list
  · intro key'
    by_cases same : key' = key
    · subst same
      simp [accessList, hl]
    · simp only [accessList, hl, List.lookup_cons, beq_false_of_ne same]
      cases a.remembered.lookup key' <;> rfl
  · intro key'
    simp [accessList, hl]

theorem SameLists.isAuthorized (h : a.SameLists a') :
    (a'.isAuthorized key subject).1 = (a.isAuthorized key subject).1 := by
  simp only [Authorization.isAuthorized, h key]

end Authorization

namespace Router

variable {r r' : Router} {p : String → ExchangeId → SlotId → Bool} {e : ExchangeId} {s : SlotId}
  {target : Reference} {n : Nat}

/-- A slot is found by a reference under the number of its registration; a reference to one slot
finds that one. -/
inductive Finds (r : Router) : Reference → Nat → SlotId → Prop
  | properties {query sought : Properties} {n : Nat} {s : SlotId}
    (leads : Wire.Leads query r.wires sought) (registered : ⟨n, s⟩ ∈ r.registry.order)
    (present : r.isPresent s = true) (satisfies : (r.slot s).properties.satisfies sought = true) :
    Finds r (.properties query) n s
  | filter {f : Filter} {n : Nat} {s : SlotId} (registered : ⟨n, s⟩ ∈ r.registry.order)
    (present : r.isPresent s = true) (holds : f.holds (r.slot s).properties = true) :
    Finds r (.filter f) n s
  | endpoint {id : Identifier} {s : SlotId} (named : r.slotOf? id = some s) :
    Finds r (.endpoint id) 0 s

/-- A slot that an exchange may be sent to. -/
structure Eligible (r : Router) (p : String → ExchangeId → SlotId → Bool) (e : ExchangeId)
    (target : Reference) (n : Nat) (s : SlotId) : Prop where
  found : r.Finds target n s
  targetable : (r.slot s).isUntargetable = false
  isOpen : (r.slot s).closed = false
  active : (r.slot s).retired = false
  admitted : r.config.enforceAuthorization = true →
    (r.authorization.isAuthorized (r.slotName s, (r.exchange e).operation)
      ((r.exchange e).input.bind (·.subject))).1 = true
  taken : ∃ f ∈ r.flows, f.takes p e s = true

/-- The slot that an exchange is to be sent to: the first that it may be sent to. -/
def Selects (r : Router) (p : String → ExchangeId → SlotId → Bool) (e : ExchangeId)
    (target : Reference) (s : SlotId) : Prop :=
  ∃ n, r.Eligible p e target n s ∧
    ∀ n' s', r.Eligible p e target n' s' → s' ≠ s → n < n'

/-- Authorization keeps an exchange away from a slot. -/
def refuses (r : Router) (e : ExchangeId) (s : SlotId) : Bool :=
  r.config.enforceAuthorization && !(r.admits e s).1

/-- A candidate that could be chosen is kept away from an exchange. -/
def denies (r : Router) (e : ExchangeId) (s : SlotId) : Bool :=
  (r.slot s).isAvailable && r.refuses e s

/-- A candidate is chosen when its turn comes. -/
def elects (r : Router) (p : String → ExchangeId → SlotId → Bool) (e : ExchangeId) (s : SlotId) :
    Bool :=
  (r.slot s).isAvailable && !r.refuses e s && r.flows.any (·.takes p e s)

theorem eligible_iff : r.Eligible p e target n s ↔ r.Finds target n s ∧
    (r.slot s).retired = false ∧ r.elects p e s = true := by
  simp only [elects, refuses, Slot.isAvailable, Bool.and_eq_true, Bool.not_eq_true',
    Bool.or_eq_false_iff, Bool.and_eq_false_iff, Bool.not_eq_false', List.any_eq_true]
  constructor
  · rintro ⟨found, targetable, isOpen, active, admitted, taken⟩
    refine ⟨found, active, ⟨⟨⟨targetable, isOpen⟩, active⟩, ?_⟩, taken⟩
    cases he : r.config.enforceAuthorization
    · exact .inl rfl
    · exact .inr (admitted he)
  · rintro ⟨found, active, ⟨⟨⟨targetable, isOpen⟩, -⟩, admitted⟩, taken⟩
    refine ⟨found, targetable, isOpen, active, fun he => ?_, taken⟩
    rcases admitted with hn | ha
    · rw [hn] at he
      cases he
    · exact ha

theorem find?_select (r : Router) (p : Slot → Bool) (q : SlotId → Bool) :
    (r.select p).find? q = (r.registry.order.find? fun g =>
      (r.isPresent g.slot && p (r.slot g.slot)) && q g.slot).map (·.slot) := by
  rw [select, Registry.slots, List.find?_filter, List.find?_map]
  congr 2
  funext g
  exact Bool.decide_and _ _ |>.trans (by simp)

/-- A search among the registered slots finds the first that is eligible. -/
theorem find?_registered (ordered : r.registry.Ordered) (q : Slot → Bool)
    (finds : ∀ n s, r.Finds target n s ↔
      ⟨n, s⟩ ∈ r.registry.order ∧ r.isPresent s = true ∧ q (r.slot s) = true)
    (active : ∀ s, r.elects p e s = true → (r.slot s).retired = false) :
    (∀ s, (r.select q).find? (r.elects p e) = some s → r.Selects p e target s) ∧
      ((r.select q).find? (r.elects p e) = none → ∀ n s, ¬r.Eligible p e target n s) := by
  have eligible (n : Nat) (s : SlotId) : r.Eligible p e target n s ↔ ⟨n, s⟩ ∈ r.registry.order ∧
      ((r.isPresent s && q (r.slot s)) && r.elects p e s) = true := by
    rw [eligible_iff, finds, Bool.and_eq_true, Bool.and_eq_true]
    constructor
    · rintro ⟨⟨mem, present, hq⟩, -, elects⟩
      exact ⟨mem, ⟨present, hq⟩, elects⟩
    · rintro ⟨mem, ⟨present, hq⟩, elects⟩
      exact ⟨⟨mem, present, hq⟩, active s elects, elects⟩
  rw [find?_select, Option.map_eq_none_iff]
  constructor
  · intro s hs
    obtain ⟨g, hf, rfl⟩ := Option.map_eq_some_iff.1 hs
    obtain ⟨meets, before, after, split, others⟩ := List.find?_eq_some_iff_append.1 hf
    have mem : g ∈ r.registry.order := by simp [split]
    refine ⟨g.number, (eligible _ _).2 ⟨mem, meets⟩, fun n' s' hs' ne => ?_⟩
    obtain ⟨mem', meets'⟩ := (eligible n' s').1 hs'
    have later : (⟨n', s'⟩ : Registration) ∈ after := by
      rw [split] at mem'
      rcases List.mem_append.1 mem' with hb | ha
      · have := others _ hb
        rw [meets'] at this
        cases this
      · refine (List.mem_cons.1 ha).resolve_left fun same => ne ?_
        rw [← same]
    have le : g.number ≤ n' := by
      have ascending := ordered.ascending
      rw [split] at ascending
      exact (List.pairwise_cons.1 (List.pairwise_append.1 ascending).2.1).1 _ later
    refine Nat.lt_of_le_of_ne le fun same => ne ?_
    have := ordered.eq_of_number mem mem' same
    rw [this]
  · intro hf n s hs
    obtain ⟨mem, meets⟩ := (eligible n s).1 hs
    exact List.find?_eq_none.1 hf _ mem meets

theorem retired_of_elects (h : r.elects p e s = true) : (r.slot s).retired = false := by
  simp only [elects, Slot.isAvailable, Bool.and_eq_true, Bool.not_eq_true',
    Bool.or_eq_false_iff] at h
  exact h.1.1.2

/-- A search finds the slot that an exchange is to be sent to. -/
theorem find?_choose (ordered : r.registry.Ordered) (p : String → ExchangeId → SlotId → Bool)
    (e : ExchangeId) (target : Reference) :
    (∀ s, (r.choose target).find? (r.elects p e) = some s → r.Selects p e target s) ∧
      ((r.choose target).find? (r.elects p e) = none → ∀ n s, ¬r.Eligible p e target n s) := by
  cases target with
  | properties query =>
    refine find?_registered ordered
      (fun slot => slot.properties.satisfies (Wire.resolve r.wires query)) (fun n s => ?_)
      fun _ => retired_of_elects
    constructor
    · rintro (⟨leads, registered, present, satisfies⟩)
      exact ⟨registered, present, Wire.leads_iff.1 leads ▸ satisfies⟩
    · rintro ⟨registered, present, satisfies⟩
      exact .properties (Wire.leads_iff.2 rfl) registered present satisfies
  | filter f =>
    refine find?_registered ordered (fun slot => f.holds slot.properties) (fun n s => ?_)
      fun _ => retired_of_elects
    constructor
    · rintro (_ | ⟨registered, present, holds⟩)
      exact ⟨registered, present, holds⟩
    · rintro ⟨registered, present, holds⟩
      exact .filter registered present holds
  | endpoint id =>
    have eligible (n : Nat) (s : SlotId) (hs : r.Eligible p e (.endpoint id) n s) :
        n = 0 ∧ r.slotOf? id = some s ∧ (r.slot s).retired = false ∧ r.elects p e s = true := by
      obtain ⟨found, active, elects⟩ := eligible_iff.1 hs
      cases found with
      | endpoint named => exact ⟨rfl, named, active, elects⟩
    constructor
    · intro s hf
      have elects := List.find?_some hf
      have named : r.slotOf? id = some s := by
        have := List.mem_of_find?_eq_some hf
        simp only [choose, List.mem_filter, Option.mem_toList] at this
        exact this.1
      refine ⟨0, eligible_iff.2 ⟨.endpoint named, retired_of_elects elects, elects⟩,
        fun n' s' hs' ne => ?_⟩
      obtain ⟨-, named', -⟩ := eligible n' s' hs'
      rw [named] at named'
      exact absurd (Option.some.inj named').symm ne
    · intro hf n s hs
      obtain ⟨-, named, active, elects⟩ := eligible n s hs
      have mem : s ∈ r.choose (.endpoint id) := by simp [choose, named, active]
      exact List.find?_eq_none.1 hf s mem elects

theorem Selects.unique {s' : SlotId} (a : r.Selects p e target s) (b : r.Selects p e target s') :
    s = s' := by
  obtain ⟨n, eligible, before⟩ := a
  obtain ⟨n', eligible', before'⟩ := b
  by_contra ne
  have lt := before n' s' eligible' (Ne.symm ne)
  have gt := before' n s eligible ne
  omega

/-- Two routers differ in nothing but in which access lists they remember. -/
def Recalls (r r' : Router) : Prop :=
  ∃ a, r.authorization.SameLists a ∧ r' = { r with authorization := a }

namespace Recalls

theorem refl (r : Router) : r.Recalls r := ⟨r.authorization, .refl _, rfl⟩

theorem admits (h : r.Recalls r') (e : ExchangeId) (s : SlotId) :
    r.Recalls (r'.admits e s).2 ∧ (r'.admits e s).1 = (r.admits e s).1 := by
  obtain ⟨a, same, rfl⟩ := h
  exact ⟨⟨_, same.trans (Authorization.sameLists_accessList a _), rfl⟩, same.isAuthorized⟩

theorem slot (h : r.Recalls r') (s : SlotId) : r'.slot s = r.slot s := by
  obtain ⟨a, -, rfl⟩ := h
  rfl

theorem exchange (h : r.Recalls r') (e : ExchangeId) : r'.exchange e = r.exchange e := by
  obtain ⟨a, -, rfl⟩ := h
  rfl

theorem flows (h : r.Recalls r') : r'.flows = r.flows := by
  obtain ⟨a, -, rfl⟩ := h
  rfl

theorem config (h : r.Recalls r') : r'.config = r.config := by
  obtain ⟨a, -, rfl⟩ := h
  rfl

end Recalls

/-- What a look at a candidate makes of the memory of access lists. -/
theorem refuses_eq (h : r.Recalls r') (e : ExchangeId) (s : SlotId) :
    ∃ r'', (if r'.config.enforceAuthorization then r'.admits e s else (true, r')) =
      (!r.refuses e s, r'') ∧ r.Recalls r'' := by
  obtain ⟨recalls, same⟩ := h.admits e s
  unfold refuses
  rw [h.config]
  cases r.config.enforceAuthorization
  · exact ⟨r', rfl, h⟩
  · refine ⟨(r'.admits e s).2, ?_, recalls⟩
    rw [← same]
    simp

/-- A slot is pinned for an exchange, as its destination. -/
def pinned (r : Router) (e : ExchangeId) (s : SlotId) : Router :=
  (r.setSlot s { r.slot s with inFlight := (r.slot s).inFlight + 1 }).setExchange e
    { r.exchange e with destination := some s }

theorem pin_eq (h : (r.slot s).retired = false) : r.pin e s = (true, r.pinned e s) := by
  unfold pin
  rw [Slot.retain_of_not_retired h]
  rfl

end Router

namespace Engine

/-! ## A task by itself -/

namespace Frame

/-- A frame of a search for a slot. -/
def looks : Frame → Bool
  | .route _ | .offer .. | .offered .. | .choose .. | .asking .. | .call (.accepts ..) => true
  | _ => false

end Frame

variable {p : String → ExchangeId → SlotId → Bool} {t : Nat} {r r' : Router} {m m' m'' : Machine}
  {h h' : History} {f : Frame} {fs rest : List Frame} {e : ExchangeId} {s : SlotId} {hop : Hop}

/-- The next move of a task by itself, if custom flows decide by `p`. -/
def Machine.proceed (m : Machine) (p : String → ExchangeId → SlotId → Bool) (t : Nat) : Move :=
  match (m.task t).call? with
  | some (.accepts name e s) => .answer t (.answer (p name e s))
  | _ => .advance t

/-- A move of a task that looks for a slot by itself.  The router is still as it was, except for
what it remembers of access lists. -/
structure Looks (p : String → ExchangeId → SlotId → Bool) (t : Nat) (r : Router)
    (q : Machine × Move) : Prop where
  move : q.2 = q.1.proceed p t
  top : ∃ f rest, (q.1.task t).frames = f :: rest ∧ f.looks = true
  router : r.Recalls q.1.router

/-- A path of such moves. -/
def Search (p : String → ExchangeId → SlotId → Bool) (t : Nat) (r : Router) (m : Machine)
    (h : History) (m' : Machine) : Prop :=
  Path m h m' ∧ ∀ q ∈ h, Looks p t r q

namespace Search

theorem trans (a : Search p t r m h m') (b : Search p t r m' h' m'') :
    Search p t r m (h' ++ h) m'' := by
  refine ⟨a.1.append b.1, fun q hq => ?_⟩
  rcases List.mem_append.1 hq with hq | hq
  · exact b.2 q hq
  · exact a.2 q hq

theorem move (hf : (m.task t).frames = f :: rest) (looks : f.looks = true)
    (recalls : r.Recalls m.router) (hm : m.move? (m.proceed p t) = some m') :
    Search p t r m [(m, m.proceed p t)] m' := by
  refine ⟨Path.nil.cons hm, fun q hq => ?_⟩
  obtain rfl := List.mem_singleton.1 hq
  exact ⟨rfl, ⟨f, rest, hf, looks⟩, recalls⟩

/-- A task that is not in a call advances. -/
theorem proceed_eq (hf : (m.task t).frames = f :: rest) (own : ∀ c, f ≠ .call c) :
    m.proceed p t = .advance t := by
  have : (m.task t).call? = none := by
    unfold Task.call?
    rw [hf]
    cases f with
    | call c => exact absurd rfl (own c)
    | _ => rfl
  rw [Machine.proceed, this]

/-- A frame of the search gives way to others. -/
theorem next (hf : (m.task t).frames = f :: rest) (looks : f.looks = true)
    (own : ∀ c, f ≠ .call c) (recalls : r.Recalls m.router)
    (hs : f.step ⟨m.routerAlive, m.now, (m.task t).reply⟩ m.router = .next fs r') :
    ∃ h m', Search p t r m h m' ∧ (m'.task t).frames = fs ++ rest ∧ m'.router = r' := by
  refine ⟨_, m.settle t rest (.next fs r'), move (p := p) hf looks recalls ?_,
    Machine.frames_settle_next, rfl⟩
  rw [proceed_eq hf own]
  exact Machine.advance_of_step hf hs (fun ho => by cases ho)

/-- A frame of the search is through. -/
theorem through {reply : Reply} (hf : (m.task t).frames = f :: rest) (looks : f.looks = true)
    (own : ∀ c, f ≠ .call c) (recalls : r.Recalls m.router)
    (hs : f.step ⟨m.routerAlive, m.now, (m.task t).reply⟩ m.router = .through reply r') :
    ∃ h m', Search p t r m h m' ∧ (m'.task t).frames = rest ∧ (m'.task t).reply = reply ∧
      m'.router = r' := by
  refine ⟨_, m.settle t rest (.through reply r'), move (p := p) hf looks recalls ?_, ?_, ?_, rfl⟩
  · rw [proceed_eq hf own]
    exact Machine.advance_of_step hf hs (fun ho => by cases ho)
  · rw [Machine.settle, Machine.task_setTask_self]
  · rw [Machine.settle, Machine.task_setTask_self]

/-- A flow that is asked decides. -/
theorem asked {name : String} (hf : (m.task t).frames = .call (.accepts name e s) :: rest)
    (recalls : r.Recalls m.router) :
    ∃ h m', Search p t r m h m' ∧ (m'.task t).frames = rest ∧
      (m'.task t).reply = .answer (p name e s) ∧ m'.router = m.router := by
  have call : (m.task t).call? = some (.accepts name e s) := by
    unfold Task.call?
    rw [hf]
  have proceed : m.proceed p t = .answer t (.answer (p name e s)) := by
    rw [Machine.proceed, call]
  refine ⟨_, m.finish t (.answer (p name e s)), move (p := p) hf rfl recalls ?_, ?_, ?_, rfl⟩
  · rw [proceed, Machine.move?, call]
    rfl
  · rw [Machine.finish, Machine.task_setTask_self]
    exact congrArg List.tail hf
  · rw [Machine.finish, Machine.task_setTask_self]

/-! ## Over the flows -/

/-- The flows are asked one after the other, until one accepts. -/
theorem choose (flows : List Flow) (hf : (m.task t).frames = .choose e s flows :: rest)
    (recalls : r.Recalls m.router) :
    ∃ h m', Search p t r m h m' ∧ (m'.task t).frames = rest ∧
      (m'.task t).reply = .chosen (flows.find? (·.takes p e s)) ∧ m'.router = m.router := by
  induction flows generalizing m with
  | nil => exact through hf rfl (fun c hc => by cases hc) recalls rfl
  | cons f flows ih =>
    cases hk : f.kind with
    | straightThrough =>
      have takes : f.takes p e s = true := by rw [Flow.takes, hk]
      rw [List.find?_cons_of_pos takes]
      refine through hf rfl (fun c hc => by cases hc) recalls ?_
      simp only [Frame.step, Frame.stepChoose, hk]
    | custom =>
      have takes : f.takes p e s = p (f.owner.getD "") e s := by rw [Flow.takes, hk]
      have asks (c : Context) : Frame.step c m.router (.choose e s (f :: flows)) =
          .next [.call (.accepts (f.owner.getD "") e s), .asking e s f flows] m.router := by
        simp only [Frame.step, Frame.stepChoose, hk]
      obtain ⟨h₁, m₁, search₁, hf₁, hr₁⟩ :=
        next (p := p) hf rfl (fun c hc => by cases hc) recalls (asks _)
      obtain ⟨h₂, m₂, search₂, hf₂, reply₂, hr₂⟩ := asked (p := p) hf₁ (hr₁ ▸ recalls)
      have recalls₂ : r.Recalls m₂.router := by rwa [hr₂, hr₁]
      rw [List.find?_cons, takes]
      cases hp : p (f.owner.getD "") e s with
      | true =>
        have accepts : Frame.step ⟨m₂.routerAlive, m₂.now, (m₂.task t).reply⟩ m₂.router
            (.asking e s f flows) = .through (.chosen (some f)) m₂.router := by
          rw [reply₂, hp]
          rfl
        obtain ⟨h₃, m₃, search₃, hf₃, reply₃, hr₃⟩ :=
          through (p := p) hf₂ rfl (fun c hc => by cases hc) recalls₂ accepts
        exact ⟨_, m₃, (search₁.trans search₂).trans search₃, hf₃, reply₃,
          hr₃.trans (hr₂.trans hr₁)⟩
      | false =>
        have declines : Frame.step ⟨m₂.routerAlive, m₂.now, (m₂.task t).reply⟩ m₂.router
            (.asking e s f flows) = .next [.choose e s flows] m₂.router := by
          rw [reply₂, hp]
          rfl
        obtain ⟨h₃, m₃, search₃, hf₃, hr₃⟩ :=
          next (p := p) hf₂ rfl (fun c hc => by cases hc) recalls₂ declines
        obtain ⟨h₄, m₄, search₄, hf₄, reply₄, hr₄⟩ := ih hf₃ (hr₃ ▸ recalls₂)
        exact ⟨_, m₄, ((search₁.trans search₂).trans search₃).trans search₄, hf₄, reply₄,
          hr₄.trans (hr₃.trans (hr₂.trans hr₁))⟩

/-! ## Over the candidates -/

/-- A search has come to a slot and a flow that carries the exchange there. -/
def Carries (p : String → ExchangeId → SlotId → Bool) (t : Nat) (r : Router) (hop : Hop)
    (rest : List Frame) (s : SlotId) (m : Machine) : Prop :=
  ∃ f r', r.flows.find? (·.takes p hop.exchange s) = some f ∧ r.Recalls r' ∧
    (m.task t).frames = Frame.carryFrame f hop s :: .routed hop :: rest ∧
    m.router = r'.pinned hop.exchange s

/-- A search has come to nothing. -/
def Fails (t : Nat) (r : Router) (hop : Hop) (err : RouterError) (rest : List Frame)
    (m : Machine) : Prop :=
  (m.task t).frames = .lost hop err :: rest ∧ r.Recalls m.router

/-- A search has come to nothing, and with the next move the exchange goes back to its sender.
Nothing else changes: there is no destination, and no slot is pinned. -/
def Returns (t : Nat) (r : Router) (hop : Hop) (err : RouterError) (rest : List Frame)
    (m : Machine) : Prop :=
  Fails t r hop err rest m ∧ ∃ m', m.move? (.advance t) = some m' ∧
    (m'.task t).frames = [.announce .failed hop.exchange, .hand hop.sender hop.exchange,
      .release hop.exchange] ++ rest ∧
    m'.router = m.router.setExchange hop.exchange ((r.exchange hop.exchange).returned err)

/-- A first send that has come to nothing goes back to its sender. -/
theorem Fails.returns {err : RouterError} (failed : Fails t r hop err rest m)
    (first : hop.first = true) : Returns t r hop err rest m := by
  refine ⟨failed, ?_⟩
  obtain ⟨hf, recalls⟩ := failed
  have returns (c : Context) : Frame.step c m.router (.lost hop err) =
      .next [.announce .failed hop.exchange, .hand hop.sender hop.exchange, .release hop.exchange]
        (m.router.setExchange hop.exchange ((r.exchange hop.exchange).returned err)) := by
    rw [Frame.step, Frame.stepLost, if_pos first, ← recalls.exchange]
    rfl
  exact ⟨_, Machine.advance_of_step hf (returns _) (fun ho => by cases ho),
    Machine.frames_settle_next, rfl⟩

/-- The flows are asked about a candidate; the search is over if one accepts, unless the slot has
been retired. -/
theorem consider {target : Reference} {candidates : List SlotId} {denied : Option String}
    (hf : (m.task t).frames =
      .choose hop.exchange s r.flows :: .offered hop target s candidates denied :: rest)
    (recalls : r.Recalls m.router) (active : (r.slot s).retired = false) :
    ∃ h m', Search p t r m h m' ∧
      (r.flows.any (·.takes p hop.exchange s) = true ∧ Carries p t r hop rest s m' ∨
        r.flows.any (·.takes p hop.exchange s) = false ∧ r.Recalls m'.router ∧
          (m'.task t).frames = .offer hop target candidates denied :: rest) := by
  obtain ⟨h₁, m₁, search₁, hf₁, reply₁, hr₁⟩ := choose (p := p) r.flows hf recalls
  have recalls₁ : r.Recalls m₁.router := hr₁ ▸ recalls
  rcases hflow : r.flows.find? (·.takes p hop.exchange s) with _ | f
  · rw [hflow] at reply₁
    have declined (c : Context) (hc : c.reply = .chosen none) :
        Frame.step c m₁.router (.offered hop target s candidates denied) =
          .next [.offer hop target candidates denied] m₁.router := by
      simp only [Frame.step, Frame.stepOffered, hc]
    obtain ⟨h₂, m₂, search₂, hf₂, hr₂⟩ :=
      next (p := p) hf₁ rfl (fun c hc => by cases hc) recalls₁ (declined _ reply₁)
    exact ⟨_, m₂, search₁.trans search₂,
      .inr ⟨List.any_eq_false.2 (List.find?_eq_none.1 hflow), hr₂ ▸ recalls₁, hf₂⟩⟩
  · rw [hflow] at reply₁
    have retired : (m₁.router.slot s).retired = false := by rw [recalls₁.slot, active]
    have pins (c : Context) (hc : c.reply = .chosen (some f)) :
        Frame.step c m₁.router (.offered hop target s candidates denied) =
          .next [Frame.carryFrame f hop s, .routed hop] (m₁.router.pinned hop.exchange s) := by
      simp only [Frame.step, Frame.stepOffered, hc, Router.pin_eq retired, if_true]
    obtain ⟨h₂, m₂, search₂, hf₂, hr₂⟩ :=
      next (p := p) hf₁ rfl (fun c hc => by cases hc) recalls₁ (pins _ reply₁)
    have taken := List.any_eq_true.2 ⟨f, List.mem_of_find?_eq_some hflow, List.find?_some hflow⟩
    exact ⟨_, m₂, search₁.trans search₂, .inl ⟨taken, f, _, hflow, recalls₁, hf₂, hr₂⟩⟩

/-- A candidate is elected, or the search goes on to the next; it keeps in mind the first that an
access list has denied. -/
theorem look {target : Reference} {candidates : List SlotId} {denied : Option String}
    (hf : (m.task t).frames = .offer hop target (s :: candidates) denied :: rest)
    (recalls : r.Recalls m.router) :
    ∃ h m', Search p t r m h m' ∧
      (r.elects p hop.exchange s = true ∧ Carries p t r hop rest s m' ∨
        r.elects p hop.exchange s = false ∧ r.Recalls m'.router ∧
          (m'.task t).frames = .offer hop target candidates
            (denied.or (if r.denies hop.exchange s then some (r.slotName s) else none)) ::
              rest) := by
  have slot := recalls.slot s
  obtain ⟨r', looked, recalls'⟩ := Router.refuses_eq recalls hop.exchange s
  have name : r'.slotName s = r.slotName s := by
    rw [Router.slotName, recalls'.slot, Router.slotName]
  by_cases available : (r.slot s).isAvailable = true
  · by_cases refused : r.refuses hop.exchange s = true
    · have passes (c : Context) :
          Frame.step c m.router (.offer hop target (s :: candidates) denied) =
            .next [.offer hop target candidates (denied <|> some (r'.slotName s))] r' := by
        simp [Frame.step, Frame.stepOffer, slot, available, looked, refused]
      obtain ⟨h₁, m₁, search₁, hf₁, hr₁⟩ :=
        next (p := p) hf rfl (fun c hc => by cases hc) recalls (passes _)
      refine ⟨h₁, m₁, search₁, .inr ⟨by simp [Router.elects, refused], hr₁ ▸ recalls', ?_⟩⟩
      rw [hf₁, name]
      cases denied <;> simp [Router.denies, available, refused]
    · have considers (c : Context) :
          Frame.step c m.router (.offer hop target (s :: candidates) denied) =
            .next [.choose hop.exchange s r.flows, .offered hop target s candidates denied] r' := by
        simp [Frame.step, Frame.stepOffer, slot, available, looked, refused, recalls'.flows]
      obtain ⟨h₁, m₁, search₁, hf₁, hr₁⟩ :=
        next (p := p) hf rfl (fun c hc => by cases hc) recalls (considers _)
      have active : (r.slot s).retired = false := by
        simp only [Slot.isAvailable, Bool.not_eq_true', Bool.or_eq_false_iff] at available
        exact available.2
      have elects : r.elects p hop.exchange s = r.flows.any (·.takes p hop.exchange s) := by
        rw [Router.elects, available, eq_false_of_ne_true refused]
        rfl
      have admits : r.denies hop.exchange s = false := by
        rw [Router.denies, eq_false_of_ne_true refused, Bool.and_false]
      obtain ⟨h₂, m₂, search₂, result⟩ := consider (p := p) hf₁ (hr₁ ▸ recalls') active
      rw [elects, admits, if_neg Bool.false_ne_true, Option.or_none]
      exact ⟨_, m₂, search₁.trans search₂, result⟩
  · have unavailable := eq_false_of_ne_true available
    have passes (c : Context) : Frame.step c m.router (.offer hop target (s :: candidates) denied) =
        .next [.offer hop target candidates denied] m.router := by
      simp [Frame.step, Frame.stepOffer, slot, unavailable]
    obtain ⟨h₁, m₁, search₁, hf₁, hr₁⟩ :=
      next (p := p) hf rfl (fun c hc => by cases hc) recalls (passes _)
    refine ⟨h₁, m₁, search₁, .inr ⟨by simp [Router.elects, unavailable], hr₁ ▸ recalls, ?_⟩⟩
    rw [hf₁]
    simp [Router.denies, unavailable]

/-- The candidates are looked at one after the other, until one is elected. -/
theorem offer (candidates : List SlotId) {target : Reference} {denied : Option String}
    (hf : (m.task t).frames = .offer hop target candidates denied :: rest)
    (recalls : r.Recalls m.router) :
    ∃ h m', Search p t r m h m' ∧
      ((∃ s, candidates.find? (r.elects p hop.exchange) = some s ∧
          Carries p t r hop rest s m') ∨
        candidates.find? (r.elects p hop.exchange) = none ∧
          Fails t r hop (Frame.unroutable target
            (denied.or ((candidates.find? (r.denies hop.exchange)).map r.slotName))) rest m') := by
  induction candidates generalizing m denied with
  | nil =>
    obtain ⟨h, m', search, hf', hr⟩ := next (p := p) hf rfl (fun c hc => by cases hc) recalls rfl
    refine ⟨h, m', search, .inr ⟨rfl, ?_, hr ▸ recalls⟩⟩
    rw [hf', List.find?_nil, Option.map_none, Option.or_none]
    rfl
  | cons s candidates ih =>
    obtain ⟨h₁, m₁, search₁, ⟨elects, carries⟩ | ⟨passes, recalls₁, hf₁⟩⟩ :=
      look (p := p) hf recalls
    · exact ⟨h₁, m₁, search₁, .inl ⟨s, List.find?_cons_of_pos elects, carries⟩⟩
    · obtain ⟨h₂, m₂, search₂, result⟩ := ih hf₁ recalls₁
      rw [List.find?_cons, passes, List.find?_cons]
      refine ⟨_, m₂, search₁.trans search₂, ?_⟩
      rw [Option.or_assoc] at result
      cases hd : r.denies hop.exchange s <;> rw [hd] at result <;> exact result

end Search

/-- Two paths of a task by itself are one path, as far as they go. -/
theorem Path.suffix_of_proceed {h₁ h₂ : History} {m₁ m₂ : Machine} (a : Path m h₁ m₁)
    (b : Path m h₂ m₂) (ha : ∀ q ∈ h₁, q.2 = q.1.proceed p t)
    (hb : ∀ q ∈ h₂, q.2 = q.1.proceed p t) (le : h₁.length ≤ h₂.length) :
    h₁ <:+ h₂ ∧ (h₁.length = h₂.length → m₁ = m₂) := by
  induction b generalizing h₁ m₁ with
  | nil =>
    cases a with
    | nil => exact ⟨List.suffix_refl _, fun _ => rfl⟩
    | cons a hm => cases le
  | @cons h m' m₂ mv b hm ih =>
    have hb' : ∀ q ∈ h, q.2 = q.1.proceed p t := fun q hq => hb q (List.mem_cons_of_mem _ hq)
    by_cases shorter : h₁.length ≤ h.length
    · obtain ⟨suffix, -⟩ := ih a ha hb' shorter
      refine ⟨suffix.trans (List.suffix_cons ..), fun same => ?_⟩
      rw [List.length_cons] at same
      omega
    · cases a with
      | nil => exact absurd (Nat.zero_le _) shorter
      | @cons h' m₁' m₁ mv' a hm' =>
        simp only [List.length_cons] at le shorter
        have same : h'.length = h.length := by omega
        obtain ⟨suffix, eq⟩ := ih a (fun q hq => ha q (List.mem_cons_of_mem _ hq)) hb' same.le
        obtain rfl := suffix.eq_of_length same
        obtain rfl := eq rfl
        have move : mv' = mv :=
          (ha _ List.mem_cons_self).trans (hb _ List.mem_cons_self).symm
        subst move
        rw [hm'] at hm
        cases hm
        exact ⟨List.suffix_refl _, fun _ => rfl⟩

/-! ## Access lists in whole runs -/

namespace Frame

/-- The exchange and the slot that a search is looking at. -/
def offered? : Frame → Option (ExchangeId × SlotId)
  | .offered hop _ s _ _ => some (hop.exchange, s)
  | _ => none

theorem Becomes.offered {c : Context} {o : Outcome} (b : Becomes c r f o) :
    o.frames.filterMap offered? = [] ∨
      ∃ hop target s rest denied, f = .offer hop target (s :: rest) denied ∧
        (r.config.enforceAuthorization = true → (r.admits hop.exchange s).1 = true) ∧
        o.frames.filterMap offered? = [(hop.exchange, s)] := by
  cases b with
  | considers authorization available admitted =>
    exact .inr ⟨_, _, _, _, _, rfl, admitted, rfl⟩
  | pins | reaches => all_goals exact .inl (filterMap_carryFrame rfl (fun _ => rfl) rfl)
  | _ => exact .inl rfl

end Frame

/-- A search came upon a slot for an exchange, and the access list of the slot admitted it. -/
def Admitted (h : History) (e : ExchangeId) (s : SlotId) : Prop :=
  ∃ q ∈ h, (∃ c hop target rest denied, hop.exchange = e ∧
    q.1.deed q.2 = .work c (.offer hop target (s :: rest) denied)) ∧
      (q.1.router.admits e s).1 = true

theorem Admitted.cons (admitted : Admitted h e s) (q : Machine × Move) : Admitted (q :: h) e s := by
  obtain ⟨q', hq, offer⟩ := admitted
  exact ⟨q', List.mem_cons_of_mem _ hq, offer⟩

section

variable {config : Config}

/-- Under enforced authorization a search looks only at slots that admit the exchange. -/
theorem Run.admitted_of_offered (run : Run config h m)
    (enforced : config.enforceAuthorization = true) (hf : f ∈ m.duties)
    (ho : f.offered? = some (e, s)) : Admitted h e s := by
  refine run.traced Frame.offered? (fun h a => Admitted h a.1 a.2) ?_ (fun _ => rfl)
    (fun _ _ => rfl) (fun q h a admitted => admitted.cons q) ?_ f hf _ ho
  · intro f request
    cases f <;> first | rfl | cases request
  · intro h m mv c f o run hd admitted step g hg a ha
    have mem := List.mem_filterMap.2 ⟨g, hg, ha⟩
    rcases step.offered with none | ⟨hop, target, s, rest, denied, rfl, admits, one⟩
    · rw [none] at mem
      cases mem
    · rw [one, List.mem_singleton] at mem
      subst mem
      rw [run.setup.1] at admits
      exact ⟨_, List.mem_cons_self, ⟨c, hop, target, rest, denied, rfl, hd⟩, admits enforced⟩

/-- Under enforced authorization a destination has admitted the exchange. -/
theorem Run.admitted (run : Run config h m) (enforced : config.enforceAuthorization = true)
    (hs : (m.router.exchange e).destination = some s) : Admitted h e s := by
  obtain ⟨r, hr, p⟩ := run
  induction p generalizing s with
  | nil =>
    rw [Machine.ofRouter, exchange_start hr] at hs
    cases hs
  | @cons h m m' mv p hm ih =>
    have run : Run config h m := ⟨r, hr, p⟩
    have turn : Turn false e _ _ _ _ _ :=
      Machine.turn_of_move run.stacked (fun h => by cases h) hm e
    rcases turn.destination with same | ⟨c, hop, target, s', rest, denied, -, duty, he, hs'⟩
    · exact (ih (same.symm.trans hs)).cons _
    · rw [hs'] at hs
      cases hs
      subst he
      exact (run.admitted_of_offered enforced (Multiset.mem_of_mem_filter duty) rfl).cons _

/-- A task that routes the first send of an exchange, by itself, comes to the slot that the
exchange is to be sent to and to the first flow that accepts it; if there is no such slot, the
exchange goes back to its sender, and nothing is pinned.  On the way there nothing changes but
the memory of access lists, and no flow carries anything.  And in whatever order the tasks of a
run take their steps, no exchange gets a destination that has not admitted it. -/
theorem Run.selects_first (run : Run config h m) (tame : Tame h)
    (hf : (m.task t).frames = .route hop :: rest) (first : hop.first = true)
    (p : String → ExchangeId → SlotId → Bool) :
    (∃ target h' m', (m.router.exchange hop.exchange).target = some target ∧
      (m.router.exchange hop.exchange).destination = none ∧
      Search p t m.router m h' m' ∧
      (∀ h'' m'', Path m h'' m'' → (∀ q ∈ h'', q.2 = q.1.proceed p t) →
        h'' <:+ h' ∨ h' <:+ h'') ∧
      ((∃ s, m.router.Selects p hop.exchange target s ∧
          Search.Carries p t m.router hop rest s m') ∨
        (∀ n s, ¬m.router.Eligible p hop.exchange target n s) ∧
          Search.Returns t m.router hop (Frame.unroutable target
            (((m.router.choose target).find? (m.router.denies hop.exchange)).map
              m.router.slotName)) rest m')) ∧
    (config.enforceAuthorization = true → ∀ e s,
      (m.router.exchange e).destination = some s → Admitted h e s) := by
  refine ⟨?_, fun enforced e s => run.admitted enforced⟩
  -- the exchange is still as its sender has sent it
  have outset := run.outset tame hop.exchange
  have duty : .route hop ∈ m.dutiesFor hop.exchange :=
    Multiset.mem_filter.2 ⟨Machine.mem_duties (hf ▸ List.mem_cons_self) (fun _ h => by cases h),
      beq_self_eq_true _⟩
  obtain ⟨-, role, asked, -⟩ := outset.first _ duty hop rfl first
  have unpinned := outset.unpinned _ duty hop rfl first
  obtain ⟨target, target_eq⟩ := Option.isSome_iff_exists.1 asked
  have routes (c : Context) : Frame.step c m.router (.route hop) =
      .next [.offer hop target (m.router.choose target) none] m.router := by
    simp only [Frame.step, Frame.stepRoute, role, unpinned, target_eq]
  obtain ⟨h₁, m₁, search₁, hf₁, hr₁⟩ :=
    Search.next (p := p) hf rfl (fun c hc => by cases hc) (.refl _) (routes _)
  have recalls₁ : m.router.Recalls m₁.router := hr₁ ▸ Router.Recalls.refl m₁.router
  obtain ⟨h₂, m₂, search₂, result⟩ := Search.offer (p := p) _ hf₁ recalls₁
  rw [Option.none_or] at result
  have search := search₁.trans search₂
  obtain ⟨selects, fails⟩ := Router.find?_choose run.setup.2 p hop.exchange target
  refine ⟨target, _, m₂, target_eq, unpinned, search, fun h'' m'' path own => ?_, ?_⟩
  · have own' : ∀ q ∈ h₂ ++ h₁, q.2 = q.1.proceed p t := fun q hq => (search.2 q hq).move
    rcases Nat.le_total h''.length (h₂ ++ h₁).length with le | le
    · exact .inl (path.suffix_of_proceed search.1 own own' le).1
    · exact .inr (search.1.suffix_of_proceed path own' own le).1
  · rcases result with ⟨s, found, carries⟩ | ⟨none, failed⟩
    · exact .inl ⟨s, selects s found, carries⟩
    · exact .inr ⟨fails none, failed.returns first⟩

end

/-! ## A run with enforced authorization -/

/-- A new router that enforces authorization. -/
def Machine.guarded : Machine :=
  .ofRouter { config := { enforceAuthorization := true }, flows := [.initial] }

/-- An endpoint of a certain kind registers under a name. -/
def Cue.enrolment (name : String) : List Cue :=
  registers name (Dict.ofList [(Properties.nameKey, name), ("KIND", "service")])

/-- A client asks, along a wire, for endpoints of one kind.  The first of two may not be used, and
the first flow accepts nothing. -/
def Cue.query : List Cue :=
  enrolment "closed" ++ enrolment "open" ++
    [operate (.setAuthorization ((({} : Authorization).register "admin"
        ⟨.add, 0, "open", none, .ofList [.any]⟩).toOption.getD {})),
      operate (.setWires [⟨.ofList [("KIND", "any")], .ofList [("KIND", "service")]⟩]),
      operate (.setFlows [⟨some "picky", .custom, ∅⟩, .initial]),
      operate .openChannel, operate (.create .inOut),
      operate (.change ⟨0⟩ (.message .input default)),
      operate (.change ⟨0⟩ (.target (.properties (.ofList [("KIND", "any")])))),
      request 0 (.send ⟨2⟩ ⟨0⟩), halts 0 .routes]

/-- A task is about to route the first send of an exchange, as it is found out by looking. -/
def Machine.isRouting (m : Machine) (t : Nat) (e : ExchangeId) : Bool :=
  match (m.task t).frames with
  | .route hop :: _ => hop.first && hop.exchange == e
  | _ => false

theorem Machine.frames_of_isRouting (h : m.isRouting t e = true) :
    ∃ hop rest, (m.task t).frames = .route hop :: rest ∧ hop.first = true ∧ hop.exchange = e := by
  unfold isRouting at h
  split at h
  · rename_i hop rest hf
    simp only [Bool.and_eq_true, beq_iff_eq] at h
    exact ⟨hop, rest, hf, h.1, h.2⟩
  · cases h

/-- The second of the two endpoints is selected. -/
theorem Run.selects_first_query : ∃ h m hop rest, Run { enforceAuthorization := true } h m ∧
    Tame h ∧ (m.task 0).frames = .route hop :: rest ∧ hop.first = true ∧ hop.exchange = ⟨0⟩ ∧
    m.router.refuses ⟨0⟩ ⟨0⟩ = true ∧ ∃ h' m', Search (fun _ _ _ => false) 0 m.router m h' m' ∧
      (m'.router.exchange ⟨0⟩).destination = some ⟨1⟩ := by
  obtain ⟨h, m, path, hq⟩ := Path.exists_of_enact .guarded Cue.query (fun p =>
    p.2.isRouting 0 ⟨0⟩ && p.1.all (fun q => q.1.isTame q.2) && p.2.router.refuses ⟨0⟩ ⟨0⟩ &&
      (p.2.router.exchange ⟨0⟩).target.any fun target =>
        (p.2.router.choose target).find? (p.2.router.elects (fun _ _ _ => false) ⟨0⟩) ==
          some ⟨1⟩) (by rfl)
  simp only [Bool.and_eq_true, beq_iff_eq, List.all_eq_true, Option.any_eq_true] at hq
  obtain ⟨⟨⟨routing, tame⟩, refused⟩, target, asked, found⟩ := hq
  obtain ⟨hop, rest, hf, first, he⟩ := Machine.frames_of_isRouting routing
  have run : Run { enforceAuthorization := true } h m := ⟨_, rfl, path⟩
  obtain ⟨⟨target', h', m', asked', -, search, -, result⟩, -⟩ :=
    run.selects_first tame hf first fun _ _ _ => false
  rw [he] at asked' result
  obtain rfl : target' = target := Option.some.inj (asked'.symm.trans asked)
  have selected := (Router.find?_choose run.setup.2 _ _ _).1 _ found
  refine ⟨h, m, hop, rest, run, tame, hf, first, he, refused, h', m', search, ?_⟩
  rcases result with ⟨s, selects, f, r', -, -, -, hr⟩ | ⟨none, -⟩
  · obtain rfl := selects.unique selected
    rw [hr, Router.pinned, he, Router.exchange_setExchange_self]
  · obtain ⟨n, eligible, -⟩ := selected
    exact absurd eligible (none n _)

end Engine

end MessageRouter
