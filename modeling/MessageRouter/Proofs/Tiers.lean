import MessageRouter.Proofs.Tidings

/-!
# What stands on what

A task tells of an event before it goes on: while an exchange is on its way from a send, or is given
to somebody, nothing stands on the frame that does it but those that tell of it first.  And a flow
has an exchange delivered while its hop waits below, so that the router is still there.
-/

namespace MessageRouter.Engine

namespace Frame

/-- The exchange that a frame is about to give to somebody. -/
def handed? : Frame → Option ExchangeId
  | .wake e _ | .enter _ e _ => some e
  | _ => none

/-- The frame goes on when an event has been told of. -/
def bears (event : ExchangeEvent) (e : ExchangeId) (f : Frame) : Bool :=
  match event, f with
  | .sent, .sent h => h.exchange == e
  | .sent, _ => false
  | .delivered, f => f.handed? == some e
  | .failed, _ => true

/-- A listener is told of something. -/
def isHearing : Frame → Bool
  | .call (.exchangeEvent ..) => true
  | _ => false

/-- What flows are asked about: an exchange and the slot to which they may carry it. -/
def asks? : Frame → Option (ExchangeId × SlotId)
  | .choose e s _ | .asking e s _ _ => some (e, s)
  | _ => none

/-- What flows have to be asked about before the frame goes on, and nothing else is done. -/
def reached? : Frame → Option (ExchangeId × SlotId)
  | .reaching h s => some (h.exchange, s)
  | _ => none

/-- A delivery that has not begun. -/
def isDelivery : Frame → Bool
  | .deliver .. => true
  | _ => false

/-- A hop that is being carried, or its flow. -/
def isConveyor : Frame → Bool
  | .routed _ | .call (.carry ..) => true
  | _ => false

/-- What a frame has below it. -/
structure StandsOn (f : Frame) (below : Option Frame) : Prop where
  delivers : f.isDelivery = true → below.any isConveyor = true
  tells : ∀ event e, f.tidings? = some (event, e) → below.any (bears event e) = true
  /-- Whoever is about to give an exchange to somebody has only to tell of it before. -/
  hands : (below.bind handed?).isSome = true → f.tidings?.isSome = true
  hearing : below.any (·.tidings?.isSome) = true → f.isHearing = true
  /-- Listeners call nobody. -/
  silent : below.any isHearing = false
  asks : ∀ a, below.bind reached? = some a → f.asks? = some a

variable {f g : Frame} {below : Option Frame}

namespace StandsOn

/-- What replaces a frame may stand where it stood. -/
theorem replace (h : f.StandsOn below) (hearing : f.isHearing = false)
    (delivery : g.isDelivery = false) (tidings : g.tidings? = f.tidings?)
    (asks : f.asks?.isSome = true → g.asks? = f.asks?) : g.StandsOn below where
  delivers hd := absurd (delivery.symm.trans hd) Bool.false_ne_true
  tells event e ht := h.tells event e (tidings ▸ ht)
  hands hb := tidings ▸ h.hands hb
  hearing hb := absurd (hearing.symm.trans (h.hearing hb)) Bool.false_ne_true
  silent := h.silent
  asks a hb := by
    have := h.asks a hb
    rw [asks (by rw [this]; rfl), this]

/-- A frame that tells nothing stands at the bottom. -/
theorem bottom (delivery : f.isDelivery = false) (tidings : f.tidings? = none) :
    f.StandsOn none where
  delivers hd := absurd (delivery.symm.trans hd) Bool.false_ne_true
  tells event e ht := absurd (tidings.symm.trans ht) (Option.some_ne_none _).symm
  hands hb := by cases hb
  hearing hb := by cases hb
  silent := rfl
  asks a hb := by cases hb

/-- A frame that tells nothing stands on one that waits for no tidings and no flow. -/
theorem quiet (delivers : f.isDelivery = true → g.isConveyor = true) (tidings : f.tidings? = none)
    (hands : g.handed? = none) (telling : g.tidings? = none) (silent : g.isHearing = false)
    (reached : g.reached? = none) : f.StandsOn (some g) where
  delivers := delivers
  tells event e ht := absurd (tidings.symm.trans ht) (Option.some_ne_none _).symm
  hands hb := by
    rw [Option.bind_some, hands] at hb
    cases hb
  hearing hb := by
    rw [Option.any_some, telling] at hb
    cases hb
  silent := silent
  asks a hb := by
    rw [Option.bind_some, reached] at hb
    cases hb

/-- An event is about to be told of. -/
theorem announce {event : ExchangeEvent} {e : ExchangeId} (bears : g.bears event e = true)
    (telling : g.tidings? = none) (silent : g.isHearing = false) (reached : g.reached? = none) :
    (Frame.announce event e).StandsOn (some g) where
  delivers hd := by cases hd
  tells event' e' ht := by
    cases ht
    exact bears
  hands hb := rfl
  hearing hb := by
    rw [Option.any_some, telling] at hb
    cases hb
  silent := silent
  asks a hb := by
    rw [Option.bind_some, reached] at hb
    cases hb

/-- A listener is told of an event. -/
theorem notify (l : String) (event : ExchangeEvent) (e : ExchangeId) (ls : List String) :
    (Frame.call (.exchangeEvent l event e)).StandsOn (some (.notify event e ls)) where
  delivers hd := by cases hd
  tells event e ht := by cases ht
  hands hb := by cases hb
  hearing hb := rfl
  silent := rfl
  asks a hb := by cases hb

/-- Flows are asked for a hop that has a slot to go to. -/
theorem choose (h : Hop) (s : SlotId) (flows : List Flow) :
    (Frame.choose h.exchange s flows).StandsOn (some (.reaching h s)) where
  delivers hd := by cases hd
  tells event e ht := by cases ht
  hands hb := by cases hb
  hearing hb := by cases hb
  silent := rfl
  asks a hb := hb

/-- A flow carries a hop. -/
theorem carryFrame (fl : Flow) (h : Hop) (s : SlotId) :
    (Frame.carryFrame fl h s).StandsOn (some (.routed h)) := by
  refine .quiet (fun _ => rfl) (tidings?_carryFrame fl h s) rfl rfl rfl rfl

end StandsOn

end Frame

/-- Every frame of a stack has below it what it has to have. -/
def Tiered : List Frame → Prop
  | [] => True
  | f :: rest => f.StandsOn rest.head? ∧ Tiered rest

namespace Frame

variable {c : Context} {r : Router} {f : Frame} {o : Outcome} {rest : List Frame}

theorem Becomes.tiered (b : Becomes c r f o) (h : Tiered (f :: rest)) :
    Tiered (o.above ++ rest) ∧ Tiered o.apart := by
  obtain ⟨hf, hr⟩ := h
  have last (g : Frame) (hearing : f.isHearing = false) (delivery : g.isDelivery = false)
      (tidings : g.tidings? = f.tidings?) (asks : f.asks?.isSome = true → g.asks? = f.asks?) :
      Tiered (g :: rest) := ⟨hf.replace hearing delivery tidings asks, hr⟩
  cases b
  case announce | announceSlot | send | sendSync | wait | takeToken | waitOn | dispatch | sent |
      refused | ended | searches | goesTo | noWay | noCandidate | passesOver | cannotPin | noFlow |
      gone | noFlowBack | declines | deliver | turnsOver =>
    all_goals exact ⟨last _ rfl rfl rfl fun _ => rfl, trivial⟩
  -- a frame that waits for nothing stands on the last one
  case notifySlot | mark | considers | asks | calls | notPosted | registered | reserves | confirms |
      unregisters =>
    all_goals
      exact ⟨⟨.quiet nofun rfl rfl rfl rfl rfl, last _ rfl rfl rfl fun _ => rfl⟩, trivial⟩
  -- an event is announced before that
  case accept | strand | answers | process =>
    all_goals
      exact ⟨⟨.announce (by simp [bears, handed?]) rfl rfl rfl, last _ rfl rfl rfl fun _ => rfl⟩,
        trivial⟩
  case sendBack | strandWaiter | fails =>
    all_goals
      exact ⟨⟨.announce rfl rfl rfl rfl, .quiet nofun rfl rfl rfl rfl rfl,
        last _ rfl rfl rfl fun _ => rfl⟩, trivial⟩
  case notify => exact ⟨⟨.notify .., last _ rfl rfl rfl fun _ => rfl⟩, trivial⟩
  case seeks => exact ⟨⟨.choose .., last _ rfl rfl rfl fun _ => rfl⟩, trivial⟩
  case pins | reaches =>
    all_goals exact ⟨⟨.carryFrame .., last _ rfl rfl rfl fun _ => rfl⟩, trivial⟩
  case leaves => exact ⟨hr, .bottom rfl rfl, trivial⟩
  all_goals exact ⟨hr, trivial⟩

/-- What is asked for from inside a call stands on it. -/
theorem tiered_request {call : Call} (request : f.isRequest = true)
    (delivers : f.isDelivery = true → call.isCarry = true)
    (silent : (Frame.call call).isHearing = false) (h : Tiered (.call call :: rest)) :
    Tiered (f :: f.note (.call call) :: rest) := by
  obtain ⟨hf, hr⟩ := h
  have tidings : f.tidings? = none := by cases f <;> first | rfl | cases request
  cases f with
  | deliver s e =>
    cases call with
    | carry name h s' delivered =>
      exact ⟨.quiet (fun _ => rfl) rfl rfl rfl rfl rfl, hf.replace rfl rfl rfl fun _ => rfl, hr⟩
    | _ => cases delivers rfl
  | send | sendSync | register | unregister | receive =>
    all_goals exact ⟨.quiet nofun rfl rfl rfl silent rfl, hf, hr⟩
  | _ => cases request

end Frame

/-! ## All stacks of a machine -/

namespace Machine

variable {m m' : Machine} {t : Nat}

/-- In all stacks of a machine every frame has below it what it has to have. -/
def Tiered (m : Machine) : Prop := ∀ t, Engine.Tiered (m.task t).frames

theorem call?_of_frames {c : Call} {rest : List Frame} (hf : (m.task t).frames = .call c :: rest) :
    (m.task t).call? = some c := by
  rw [Task.call?, hf]

theorem isCarry_of_isTame {f : Frame} {c : Call} {rest : List Frame}
    (hf : (m.task t).frames = .call c :: rest) (tame : m.isTame (.request t f) = true)
    (delivery : f.isDelivery = true) : c.isCarry = true := by
  cases f with
  | deliver s e =>
    rw [isTame, call?_of_frames hf] at tame
    cases c <;> first | rfl | cases tame
  | _ => cases delivery

theorem isHearing_of_observes {f : Frame} {c : Call} {rest : List Frame}
    (hf : (m.task t).frames = .call c :: rest) (observes : m.observes (.request t f) = true) :
    (Frame.call c).isHearing = false := by
  rw [Machine.observes, call?_of_frames hf] at observes
  cases c <;> first | rfl | cases observes

theorem Tiered.move {mv : Move} (h : m.Tiered) (hm : m.move? mv = some m')
    (tame : m.isTame mv = true) (observes : m.observes mv = true) : m'.Tiered := by
  refine stacks_of_move (P := fun frames _ => Engine.Tiered frames) hm h
    ⟨.bottom rfl rfl, trivial⟩ ?_ ?_ ?_
  · intro t f rest o hf b
    exact b.tiered (hf ▸ h t)
  · rintro t f c rest rfl request hf
    exact Frame.tiered_request request (isCarry_of_isTame hf tame)
      (isHearing_of_observes hf observes) (hf ▸ h t)
  · intro t reply c rest hf
    exact (hf ▸ h t : Engine.Tiered (.call c :: rest)).2

theorem tiered_ofRouter (r : Router) : (ofRouter r).Tiered := by
  intro t
  rcases t with _ | t
  · exact ⟨.bottom rfl rfl, trivial⟩
  · exact trivial

end Machine

/-- In a tame run in which listeners only look on all stacks are tiered. -/
theorem Run.tiered {config : Config} {h : History} {m : Machine} (run : Run config h m)
    (tame : Tame h) (observed : Observed h) : m.Tiered := by
  obtain ⟨r, -, p⟩ := run
  induction p with
  | nil => exact Machine.tiered_ofRouter r
  | cons p hm ih =>
    exact (ih tame.tail observed.tail).move hm (tame _ List.mem_cons_self)
      (observed _ List.mem_cons_self)

/-! ## What follows -/

/-- A frame that tells of nothing and is not told either has below it nobody who does, or who is
about to give an exchange to somebody. -/
theorem Tiered.below {f : Frame} {rest : List Frame} (h : Tiered (f :: rest))
    (tidings : f.tidings? = none) (hearing : f.isHearing = false) :
    ∀ g ∈ rest, g.tidings? = none ∧ g.isHearing = false ∧ g.handed? = none := by
  induction rest generalizing f with
  | nil => exact fun g hg => by cases hg
  | cons g rest ih =>
    obtain ⟨hf, hr⟩ := h
    have telling : g.tidings? = none := by
      by_contra hne
      exact absurd (hearing.symm.trans (hf.hearing (Option.isSome_iff_ne_none.2 hne)))
        Bool.false_ne_true
    have handed : g.handed? = none := by
      by_contra hne
      have := hf.hands (Option.isSome_iff_ne_none.2 hne)
      rw [tidings] at this
      cases this
    have silent : g.isHearing = false := hf.silent
    intro g' hg'
    rcases List.mem_cons.1 hg' with rfl | hg'
    · exact ⟨telling, silent, handed⟩
    · exact ih hr telling silent g' hg'

/-- The router is still there when a delivery begins. -/
theorem Machine.Tiered.alive {m : Machine} {t : Nat} {s : SlotId} {e : ExchangeId}
    {rest : List Frame} (h : m.Tiered) (hs : m.Stacked)
    (hf : (m.task t).frames = .deliver s e :: rest) : m.routerAlive = true := by
  have tiered : Engine.Tiered _ := hf ▸ h t
  have stacked : Engine.Stacked _ := hf ▸ hs t
  have conveyor := tiered.1.delivers rfl
  have mem {g : Frame} (hg : g ∈ rest) : g ∈ (m.task t).frames := hf ▸ List.mem_cons_of_mem _ hg
  rcases rest with _ | ⟨g, rest⟩
  · cases conveyor
  · cases g with
    | routed hop => exact routerAlive_of_mem (mem List.mem_cons_self) rfl
    | call c =>
      cases c with
      | carry name hop s' delivered =>
        -- the flow stands on the hop that it carries
        have paired := paired_of_stacked stacked.2 name hop s' delivered List.mem_cons_self
        exact routerAlive_of_mem (mem paired) rfl
      | _ => cases conveyor
    | _ => cases conveyor

/-! ## Tidings on all stacks -/

/-- Beside everybody who tells of an event there is the frame that goes on then. -/
def Heralded (N : Multiset Frame) : Prop :=
  ∀ f ∈ N, ∀ event e, f.tidings? = some (event, e) → ∃ g ∈ N, g.bears event e = true

theorem heralded_zero : Heralded 0 := fun _ hf => absurd hf (Multiset.notMem_zero _)

theorem Heralded.add {M N : Multiset Frame} (hM : Heralded M) (hN : Heralded N) :
    Heralded (M + N) := by
  intro f hf event e tidings
  rcases Multiset.mem_add.1 hf with hf | hf
  · obtain ⟨g, hg, bears⟩ := hM f hf event e tidings
    exact ⟨g, Multiset.mem_add.2 (.inl hg), bears⟩
  · obtain ⟨g, hg, bears⟩ := hN f hf event e tidings
    exact ⟨g, Multiset.mem_add.2 (.inr hg), bears⟩

theorem Frame.StandsOn.bearer {f : Frame} {rest : List Frame} (h : f.StandsOn rest.head?)
    {event : ExchangeEvent} {e : ExchangeId} (tidings : f.tidings? = some (event, e)) :
    ∃ g ∈ rest, g.bears event e = true := by
  have bears := h.tells event e tidings
  cases rest with
  | nil => cases bears
  | cons g rest => exact ⟨g, List.mem_cons_self, bears⟩

theorem heralded_of_tiered {frames : List Frame} (h : Tiered frames) :
    Heralded (frames : Multiset Frame) := by
  intro f hf event e tidings
  induction frames with
  | nil => cases hf
  | cons g rest ih =>
    have below : ∃ g ∈ rest, g.bears event e = true := by
      rcases List.mem_cons.1 hf with rfl | hf
      · exact h.1.bearer tidings
      · exact ih h.2 hf
    obtain ⟨g', hg', bears⟩ := below
    exact ⟨g', List.mem_cons_of_mem _ hg', bears⟩

theorem heralded_dutiesOn {frames : List Frame} (h : Tiered frames) (reply : Reply) :
    Heralded (dutiesOn reply frames : Multiset Frame) := by
  rcases frames with _ | ⟨f, rest⟩
  · exact heralded_zero
  · have pending {a : ExchangeEvent × ExchangeId} (ht : (f.pending reply).tidings? = some a) :
        f.tidings? = some a := by
      unfold Frame.pending at ht
      split at ht
      · cases ht
      · exact ht
    intro g hg event e tidings
    have below : ∃ g ∈ rest, g.bears event e = true := by
      rcases List.mem_cons.1 hg with rfl | hg
      · exact h.1.bearer (pending tidings)
      · exact heralded_of_tiered h.2 g hg event e tidings
    obtain ⟨g', hg', bears⟩ := below
    exact ⟨g', List.mem_cons_of_mem _ hg', bears⟩

/-- Beside the top frame of a task everybody who tells of an event finds the frame that goes on
then. -/
theorem Machine.Tiered.heralded {m : Machine} {t : Nat} {f g : Frame} {rest : List Frame}
    {N : Multiset Frame} (h : m.Tiered) (hf : (m.task t).frames = f :: rest)
    (hd : m.duties = g ::ₘ N) (hg : g = f.pending (m.task t).reply) : Heralded N := by
  obtain ⟨others, heralded, hm, -⟩ := exists_others heralded_zero (fun _ _ => .add)
    (fun t => heralded_dutiesOn (h t) _) t
  have : N = (rest : Multiset Frame) + others := by
    rw [hm, Task.duties, hf, dutiesOn, ← Multiset.cons_coe, Multiset.cons_add, hg] at hd
    exact ((Multiset.cons_inj_right _).1 hd).symm
  rw [this]
  exact (heralded_of_tiered (hf ▸ h t : Engine.Tiered (f :: rest)).2).add heralded

/-- Where nobody goes on when an event has been told of, nobody tells of it. -/
theorem Heralded.toTell_eq_zero {N : Multiset Frame} (h : Heralded N) {event : ExchangeEvent}
    {e : ExchangeId} (none : ∀ g ∈ N, g.bears event e = false) (l : String) :
    toTell l event e N = 0 := by
  refine Multiset.sum_eq_zero fun n hn => ?_
  obtain ⟨f, hf, rfl⟩ := Multiset.mem_map.1 hn
  by_contra hne
  have tidings : f.tidings? = some (event, e) := by
    cases f with
    | announce event' e' | notify event' e' =>
      all_goals
        by_cases same : event' = event ∧ e' = e
        · rw [same.1, same.2]
          rfl
        · exact absurd (by simpa [Frame.tells] using fun he he' => absurd ⟨he, he'⟩ same) hne
    | _ => exact absurd rfl hne
  obtain ⟨g, hg, bears⟩ := h f hf event e tidings
  exact absurd ((none g hg).symm.trans bears) Bool.false_ne_true

end MessageRouter.Engine
