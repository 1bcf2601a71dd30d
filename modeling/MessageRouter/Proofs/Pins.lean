import MessageRouter.Proofs.Closing
import MessageRouter.Proofs.Ledger

/-!
# The accounts of a run

In a tame run every router keeps its ledger: an exchange pins a slot before it names it, and only
once; and it gives back what it has pinned when the dispatch that ends it is through.  So slots
leave the router neither too early nor too late.
-/

namespace MessageRouter

namespace Router

variable {r r' : Router} {e : ExchangeId} {s s' : SlotId}

theorem size_le_setSlot (slot : Slot) : r.slots.size ≤ (r.setSlot s slot).slots.size :=
  Nat.le_trans (Nat.le_max_left ..) (Nat.le_of_eq (Table.size_set ..).symm)

theorem size_le_accept {result : Except RouterError Unit} (h : r.accept e s = (result, r')) :
    r.slots.size ≤ r'.slots.size := by
  rcases result with err | _
  · obtain rfl | ⟨-, rfl⟩ := accept_error h
    · exact Nat.le_refl _
    · exact size_le_setSlot _
  · obtain ⟨-, ⟨-, rfl⟩ | ⟨-, -, rfl⟩⟩ := accept_ok h
    · exact Nat.le_refl _
    · exact size_le_setSlot _

theorem size_le_pin {b : Bool} (h : r.pin e s = (b, r')) : r.slots.size ≤ r'.slots.size := by
  cases b with
  | false =>
    obtain ⟨-, rfl⟩ := pin_error h
    exact size_le_setSlot _
  | true =>
    obtain ⟨-, rfl⟩ := pin_ok h
    exact size_le_setSlot _

theorem size_le_foldl_unpin (l : List SlotId) : r.slots.size ≤ (l.foldl unpin r).slots.size := by
  induction l generalizing r with
  | nil => exact Nat.le_refl _
  | cons s l ih =>
    refine Nat.le_trans ?_ ih
    unfold unpin
    split
    · exact size_le_setSlot _
    · exact Nat.le_refl _

theorem size_le_releasePins : r.slots.size ≤ (r.releasePins e).slots.size := by
  by_cases h : (r.exchange e).released = true
  · rw [releasePins_of_released h]
  · rw [releasePins_eq (eq_false_of_ne_true h)]
    exact size_le_foldl_unpin (r := r.setExchange e { r.exchange e with released := true }) _

/-- A search finds only slots that are there. -/
theorem isPresent_of_mem_choose {target : Reference} (h : s ∈ r.choose target) :
    r.isPresent s = true := by
  have select {p : Slot → Bool} (h : s ∈ r.select p) : r.isPresent s = true :=
    (Bool.and_eq_true_iff.1 (List.mem_filter.1 h).2).1
  cases target with
  | properties properties =>
    unfold choose query at h
    exact select h
  | filter f =>
    unfold choose queryFilter at h
    exact select h
  | endpoint id =>
    have hs := (List.mem_filter.1 h).1
    rw [Option.mem_toList] at hs
    have := List.find?_some (show r.allSlots.find? _ = some s from hs)
    exact (Bool.and_eq_true_iff.1 this).2

end Router

namespace Engine

namespace Frame

/-- The slots that a frame works with, apart from those that it has still to look up. -/
def slots : Frame → List SlotId
  | .mark s _ _ | .dispatch s _ | .accept s _ | .deliver s _ | .hand s _ | .process s _
  | .enter s _ _ | .handle s _ _ => [s]
  | .sent h | .routed h | .lost h _ | .route h => [h.sender]
  | .offer h _ candidates _ => h.sender :: candidates
  | .offered h _ s rest _ => h.sender :: s :: rest
  | .routeTo h s | .reaching h s | .call (.carry _ h s _) => [h.sender, s]
  | _ => []

/-- All slots that a frame works with are slots of the router. -/
def Known (r : Router) (f : Frame) : Prop := ∀ s ∈ f.slots, s.index < r.slots.size

variable {c : Context} {r : Router} {f : Frame} {o : Outcome}

/-- A router never forgets how many slots there have been. -/
theorem Becomes.size_le (b : Becomes c r f o) : r.slots.size ≤ (o.router r).slots.size := by
  cases b
  case accept accepted => exact Router.size_le_accept accepted
  case notAccepted refused => exact Router.size_le_accept refused
  case release => exact Router.size_le_releasePins
  case pins pinned => exact Router.size_le_pin pinned
  case cannotPin retired => exact Router.size_le_pin retired
  case posts | registered | receives => exact Router.size_le_setSlot _
  case reserves unknown reserved =>
    cases reserved
    exact Nat.le_trans (Nat.le_succ _) (Nat.le_of_eq (Table.size_add ..).symm)
  case unregisters removed =>
    obtain ⟨g, registry, -, rfl, rfl⟩ := Router.unregister_eq_some.1 removed
    exact Router.size_le_setSlot _
  all_goals exact Nat.le_refl _

theorem slots_carryFrame (f : Flow) (h : Hop) (s : SlotId) :
    ∀ t ∈ (carryFrame f h s).slots, t ∈ [h.sender, s] := by
  unfold carryFrame
  split <;> simp [slots]

/-- What comes of a frame works with slots of the router. -/
theorem Becomes.known (b : Becomes c r f o) (hf : f.Known r) (ledger : Router.Ledger [] r) :
    ∀ g ∈ o.frames, g.Known r := by
  have same {fs : List Frame} (h : ∀ g ∈ fs, ∀ t ∈ g.slots, t ∈ f.slots) :
      ∀ g ∈ fs, g.Known r := fun g hg t ht => hf t (h g hg t ht)
  have oneMore {g : Frame} {s : SlotId} (hs : s.index < r.slots.size)
      (h : ∀ t ∈ g.slots, t = s ∨ t ∈ f.slots) : ∀ g' ∈ [g], g'.Known r := by
    intro g' hg' t ht
    obtain rfl := List.mem_singleton.1 hg'
    obtain rfl | ht := h t ht
    · exact hs
    · exact hf t ht
  cases b
  case send usable | sendSync usable =>
    all_goals
      refine oneMore (Router.Ledger.index_lt_of_isPresent (checkChannel_ok.1 usable).2) ?_
      simp only [slots, List.mem_singleton]
      exact fun t ht => .inl ht
  case searches target turn unpinned asked =>
    intro g hg t ht
    obtain rfl := List.mem_singleton.1 hg
    rcases List.mem_cons.1 ht with rfl | ht
    · exact hf _ List.mem_cons_self
    · exact Router.Ledger.index_lt_of_isPresent (Router.isPresent_of_mem_choose ht)
  case goesTo h s known =>
    have hs : s ∈ (r.exchange h.exchange).ends := by
      rcases known with ⟨-, hd⟩ | ⟨-, hd⟩ <;> simp [Exchange.ends, hd]
    refine oneMore (ledger.ends _ _ hs) ?_
    simp only [slots, List.mem_cons, List.not_mem_nil, or_false]
    exact fun t ht => ht.symm
  case pins h target s rest denied r' fl pinned =>
    refine same fun g hg t ht => ?_
    rcases List.mem_cons.1 hg with rfl | hg
    · have := slots_carryFrame fl h s t ht
      simp only [slots, List.mem_cons, List.not_mem_nil, or_false] at this ⊢
      tauto
    · obtain rfl := List.mem_singleton.1 hg
      exact List.mem_cons.2 (.inl (List.mem_singleton.1 ht))
  case reaches h s fl chosen =>
    refine same fun g hg t ht => ?_
    rcases List.mem_cons.1 hg with rfl | hg
    · exact slots_carryFrame fl h s t ht
    · obtain rfl := List.mem_singleton.1 hg
      exact List.mem_cons.2 (.inl (List.mem_singleton.1 ht))
  all_goals
    refine same ?_
    simp only [Outcome.frames, slots, List.mem_cons, List.not_mem_nil, or_false,
      forall_eq_or_imp, forall_eq, imp_self, false_imp_iff, implies_true, and_self]
  case passesOver | cannotPin | noFlow | gone | noFlowBack => tauto

/-- A step keeps the ledger: it pins only what no one has pinned for the exchange before. -/
theorem Becomes.ledger (b : Becomes c r f o) (hf : f.Known r) (ledger : Router.Ledger [] r)
    (released : ∀ e, (r.exchange e).released = true → (r.exchange e).completed = true)
    (searching : ∀ h, f.searching = true → f.routing? = some h →
      (r.exchange h.exchange).released = false ∧ (r.exchange h.exchange).destination = none) :
    Router.Ledger [] (o.router r) := by
  cases b
  case accept s e r' accepted =>
    refine ledger.accept (hf s List.mem_cons_self) ?_ accepted
    by_contra hr
    have := (Exchange.checkSend_ok.1 (Router.accept_ok accepted).1).1.going
    rw [released e (eq_true_of_ne_false hr)] at this
    cases this
  case notAccepted s e r' err refused =>
    obtain hr | ⟨hret, hr⟩ := Router.accept_error refused
    · exact hr ▸ ledger
    · exact hr ▸ ledger.reap (hf s List.mem_cons_self)
  case release e => exact ledger.releasePins
  case pins h target s rest denied r' fl pinned =>
    obtain ⟨going, unpinned⟩ := searching h rfl rfl
    exact ledger.pin (hf s (by simp [slots])) going unpinned pinned
  case cannotPin h target s rest denied r' retired =>
    obtain ⟨-, hr⟩ := Router.pin_error retired
    exact hr ▸ ledger.reap (hf s (by simp [slots]))
  case posts posted => exact ledger.post posted
  case receives taken => exact ledger.take taken
  case registered name properties g known =>
    have hs := (ledger.registered name g known).1
    exact ledger.replaceSlot hs rfl rfl rfl (ledger.slots _ hs).shut fun _ => Iff.rfl
  case reserves unknown reserved => exact ledger.reserve unknown reserved
  case confirms confirmed => exact ledger.confirm confirmed
  case notConfirmed given => exact ledger.confirm given
  case unregisters removed => exact ledger.unregister removed
  case strandWaiter later waits | strand later free =>
    all_goals
      exact ledger.keepExchange (Exchange.source_stranded ..) (Exchange.destination_stranded ..)
        (Exchange.released_stranded ..)
  case passesOver => exact ⟨ledger.slots, ledger.ends, ledger.owed, ledger.registered,
    ledger.enlisted⟩
  case considers => exact ⟨ledger.slots, ledger.ends, ledger.owed, ledger.registered,
    ledger.enlisted⟩
  case mark | unmark | takeToken | giveUp | waitOn | woken | sendBack | wake | answers | turnsOver |
      leaves | process | fails =>
    all_goals exact ledger.keepExchange rfl rfl rfl
  all_goals exact ledger

end Frame

namespace Operation

theorem ledger (o : Operation) (alive : Bool) {r : Router} (h : Router.Ledger [] r) :
    Router.Ledger [] (o.apply alive r) := by
  have closeIn (s : SlotId) {r : Router} (h : Router.Ledger [] r) :
      Router.Ledger [] (closeIn alive s r) := by
    unfold Operation.closeIn
    split
    · exact h.closeChannel
    · exact h
  cases o with
  | create p => exact h.addExchange p
  | change e c => exact h.change e c
  | openChannel => exact h.openChannel
  | close s => exact closeIn s h
  | abandon s =>
    simp only [apply]
    split
    · rename_i hs
      obtain ⟨i, hi, rfl⟩ := List.mem_map.1 hs
      exact closeIn _ (h.abandon (List.mem_range.1 hi))
    · exact h
  | take s =>
    simp only [apply]
    split
    · rename_i e slot ht
      exact h.take ht
    · exact h
  | _ => exact ⟨h.slots, h.ends, h.owed, h.registered, h.enlisted⟩

theorem size_le (o : Operation) (alive : Bool) (r : Router) :
    r.slots.size ≤ (o.apply alive r).slots.size := by
  have closeIn (s : SlotId) (r : Router) : r.slots.size ≤ (closeIn alive s r).slots.size := by
    unfold Operation.closeIn Router.closeChannel
    split
    · split
      · exact Router.size_le_setSlot _
      · exact Nat.le_refl _
    · exact Nat.le_refl _
  cases o with
  | change e c =>
    simp only [apply, Router.change]
    split <;> exact Nat.le_refl _
  | openChannel => exact Nat.le_trans (Nat.le_succ _) (Nat.le_of_eq (Table.size_add ..).symm)
  | close s => exact closeIn s r
  | abandon s =>
    simp only [apply]
    split
    · exact Nat.le_trans (Router.size_le_setSlot _) (closeIn s _)
    · exact Nat.le_refl _
  | take s =>
    simp only [apply]
    split
    · exact Router.size_le_setSlot _
    · exact Nat.le_refl _
  | _ => exact Nat.le_refl _

end Operation

/-- A router whose slots, exchanges and registry agree, and what is at work on it. -/
structure Accounted (r : Router) (D : Multiset Frame) : Prop where
  ledger : Router.Ledger [] r
  known : ∀ f ∈ D, f.Known r

/-- What the duties about an exchange say is true of each exchange. -/
def AllSound (r : Router) (D : Multiset Frame) : Prop :=
  ∀ e, Sound (r.exchange e) (D.filter fun f => f.isAbout e)

theorem Frame.isAbout_of_routing? {f : Frame} {h : Hop} (hf : f.routing? = some h) :
    f.isAbout h.exchange = true := by
  unfold isAbout
  cases f <;> first | (cases hf; exact beq_self_eq_true _) | cases hf

/-- A frame of a dispatch that has found no carrier yet is one of the duties about its exchange. -/
theorem Machine.mem_dutiesFor_of_routing? {m : Machine} {t : Nat} {f : Frame} {h : Hop}
    (hf : f ∈ (m.task t).frames) (routing : f.routing? = some h) : f ∈ m.dutiesFor h.exchange :=
  Machine.mem_dutiesFor hf (Frame.isAbout_of_routing? routing) fun h he => by
    rw [he] at routing
    cases routing

/-- Every effect of a tame run keeps the ledger. -/
theorem Effect.accounted {d : Deed} {r r' : Router} {D D' : Multiset Frame}
    (t : Effect true d r D r' D') (h : Accounted r D) (sound : AllSound r D) :
    Accounted r' D' := by
  cases t with
  | idle => exact h
  | @work c r f o N b ready paired =>
    have hf : f.Known r := h.known f (Multiset.mem_cons_self ..)
    refine ⟨b.ledger hf h.ledger (fun e => (sound e).released) fun hop hs hr => ?_, ?_⟩
    · have hmem : f ∈ (f ::ₘ N).filter fun f => f.isAbout hop.exchange :=
        Multiset.mem_filter.2 ⟨Multiset.mem_cons_self .., Frame.isAbout_of_routing? hr⟩
      have s := sound hop.exchange
      exact ⟨(s.aloft f hmem hop (Frame.aloft?_of_routing? hr)).2.1, s.unpinned f hmem hs⟩
    · intro g hg t ht
      refine Nat.lt_of_lt_of_le ?_ b.size_le
      rcases Multiset.mem_add.1 hg with hg | hg
      · exact b.known hf h.ledger g hg t ht
      · exact h.known g (Multiset.mem_cons_of_mem hg) t ht
  | request request other =>
    refine ⟨h.ledger, fun g hg t ht => ?_⟩
    rcases Multiset.mem_cons.1 hg with rfl | hg
    · cases g with
      | deliver s e => exact absurd rfl (other s e)
      | send | sendSync | register | unregister | receive => cases ht
      | _ => cases request
    · exact h.known g hg t ht
  | deliver s e wild => cases wild
  | delivers name hop s N =>
    have hk := h.known _ (Multiset.mem_cons_self ..)
    refine ⟨h.ledger, fun g hg t ht => ?_⟩
    rcases Multiset.mem_cons.1 hg with rfl | hg
    · exact hk t (List.mem_cons_of_mem _ ht)
    · rcases Multiset.mem_cons.1 hg with rfl | hg
      · exact hk t ht
      · exact h.known g (Multiset.mem_cons_of_mem hg) t ht
  | answer N carried => exact ⟨h.ledger, fun g hg => h.known g (Multiset.mem_cons_of_mem hg)⟩
  | @refuse r name s delivered hop err N undelivered =>
    refine ⟨h.ledger, fun g hg t ht => ?_⟩
    rcases Multiset.mem_cons.1 hg with rfl | hg
    · exact h.known (.routed hop) (Multiset.mem_cons_of_mem (Multiset.mem_cons_self ..)) t ht
    · exact h.known g (Multiset.mem_cons_of_mem (Multiset.mem_cons_of_mem hg)) t ht
  | operate o alive =>
    exact ⟨o.ledger alive h.ledger, fun g hg t ht =>
      Nat.lt_of_lt_of_le (h.known g hg t ht) (o.size_le alive r)⟩
  | fork =>
    refine ⟨h.ledger, fun g hg t ht => ?_⟩
    rcases Multiset.mem_cons.1 hg with rfl | hg
    · cases ht
    · exact h.known g hg t ht

theorem ledger_start {config : Config} {r : Router} (h : Router.start config = .ok r) :
    Router.Ledger [] r := by
  rw [Router.eq_of_start h]
  constructor
  case slots => exact fun s hs => absurd hs (Nat.not_lt_zero _)
  case ends => exact fun e s hs => by cases hs
  case owed => exact fun s hs => by cases hs
  case registered => exact fun name g hg => by cases hg
  case enlisted => exact fun s name hs => absurd hs (Nat.not_lt_zero _)

/-- In a tame run the router keeps its ledger. -/
theorem Run.accounted {config : Config} {h : History} {m : Machine} (run : Run config h m)
    (tame : Tame h) : Accounted m.router m.duties := by
  obtain ⟨r, hr, p⟩ := run
  induction p with
  | nil =>
    refine ⟨ledger_start hr, fun f hf t ht => ?_⟩
    change f ∈ (([.call .application] : List Frame) : Multiset Frame) + 0 at hf
    rw [add_zero, Multiset.mem_coe, List.mem_singleton] at hf
    rw [hf] at ht
    cases ht
  | cons p hm ih =>
    have run : Run config _ _ := ⟨r, hr, p⟩
    exact (Machine.effect_of_move run.stacked (fun _ => tame _ List.mem_cons_self) hm).accounted
      (ih tame.tail) (run.sound tame.tail)

end Engine

end MessageRouter
