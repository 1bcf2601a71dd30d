import MessageRouter.Proofs.Accounts
import MessageRouter.Proofs.Sends

/-!
# Handing over

Every accepted send is meant to be handed over once: the other party is woken if it waits, and
otherwise the exchange is turned over to its slot.  A duty that has still to see to this owes it;
it goes from frame to frame until the exchange is handed over, or dropped on its way.
-/

namespace MessageRouter

namespace Exchange

/-- The slot of the party whose turn it is not. -/
def counterpart (x : Exchange) : Option SlotId :=
  match x.role with
  | .consumer => x.destination
  | .provider => x.source

end Exchange

namespace Engine

/-- How a party gets an exchange. -/
inductive Handing where
  | wakes (role : Role)
  | calls (s : SlotId)
  deriving DecidableEq

namespace Deed

/-- The exchange is handed over: a party that waits is woken, or the exchange is turned over to a
slot for which nobody waits. -/
def hands? (e : ExchangeId) (x : Exchange) : Deed → Option Handing
  | .work _ (.wake e' role) => if e' = e then some (.wakes role) else none
  | .work _ (.hand s e') =>
    if e' = e ∧ x.waiting.get x.role.opposite = false then some (.calls s) else none
  | _ => none

/-- The exchange is dropped on its way: no flow takes it to where it should go, or the flow that
carries it is through and has not had it delivered. -/
def drops (e : ExchangeId) : Deed → Bool
  | .work _ (.lost h _) => h.exchange == e
  | .answer (.carry _ h _ delivered) _ => h.exchange == e && !delivered
  | _ => false

end Deed

/-- How an exchange was handed over in the moves of a history, the latest first. -/
def handings (e : ExchangeId) (h : History) : List Handing :=
  h.filterMap fun p => (p.1.deed p.2).hands? e (p.1.router.exchange e)

theorem handings_cons (e : ExchangeId) (m : Machine) (mv : Move) (h : History) :
    handings e ((m, mv) :: h) =
      ((m.deed mv).hands? e (m.router.exchange e)).toList ++ handings e h := by
  rw [handings, List.filterMap_cons]
  cases (m.deed mv).hands? e (m.router.exchange e) <;> rfl

namespace Frame

/-- The frame owes somebody the exchange. -/
def owes : Frame → Bool
  | .sent _ | .lost .. | .route _ | .offer .. | .offered .. | .routeTo .. | .reaching ..
  | .deliver .. | .hand .. | .wake .. => true
  | .call (.carry _ _ _ delivered) => !delivered
  | _ => false

/-- The frame takes the exchange to a slot or gives a party its answer, but only these. -/
def leadsTo (s : SlotId) (role : Role) : Frame → Bool
  | .routeTo _ s' | .reaching _ s' | .deliver s' _ | .hand s' _ | .call (.carry _ _ s' _) => s' == s
  | .wake _ role' => role' == role
  | .offer .. | .offered .. => false
  | _ => true

/-- The frame gives a party its answer, or the exchange changes hands on it. -/
def turns : Frame → Bool
  | .wake .. | .woken .. | .process .. => true
  | _ => false

variable {c : Context} {r : Router} {f g : Frame} {o : Outcome} {e : ExchangeId} {s : SlotId}
  {h : Hop}

theorem owes_of_isCarrier (hg : g.isCarrier s h = true) : g.owes = true := by
  obtain rfl | ⟨name, rfl⟩ := eq_of_isCarrier hg <;> rfl

theorem carries_of_owes (hf : f.owes = true) (ht : f.turns = false) : f.carries = true := by
  cases f with
  | call c => cases c <;> exact hf
  | wake => cases ht
  | _ => first | rfl | cases hf

/-- Whoever owes the exchange hands it over, or owes it to the next frame, or drops it. -/
theorem Becomes.owes (b : Becomes c r f o) (hf : f.owes = true) (about : f.isAbout e = true)
    (alive : c.alive = true) (kept : (Deed.work c f).drops e = false) :
    ((Deed.work c f).hands? e (r.exchange e)).isSome = true ∨
      ∃ g ∈ o.above, g.owes = true ∧ g.isAbout e = true := by
  have next {g : Frame} {fs : List Frame} (hg : g.owes = true ∧ g.isAbout e = true) :
      ∃ g' ∈ g :: fs, g'.owes = true ∧ g'.isAbout e = true := ⟨g, List.mem_cons_self, hg⟩
  have about' {h : Hop} {fl : Flow} {s : SlotId} (ha : h.exchange = e) :
      (carryFrame fl h s).isAbout e = true := by
    rw [isAbout, subject_carryFrame, ha, beq_self_eq_true]
  cases b
  case sendBack | strandWaiter | strand =>
    all_goals
      have hne : _ ≠ e := beq_eq_false_iff_ne.1 kept
      exact absurd (Option.some.inj (beq_iff_eq.1 about)) hne
  case wake e' role =>
    have he : e' = e := Option.some.inj (beq_iff_eq.1 about)
    exact .inl (by rw [Deed.hands?, if_pos he]; rfl)
  case turnsOver s e' busy | leaves s e' lane apart busy =>
    all_goals
      have he : e' = e := Option.some.inj (beq_iff_eq.1 about)
      subst he
      exact .inl (by rw [Deed.hands?, if_pos ⟨rfl, busy⟩]; rfl)
  case answers => exact .inr ⟨_, List.mem_cons_of_mem _ List.mem_cons_self, rfl, about⟩
  case pins | reaches =>
    all_goals
      exact .inr (next ⟨owes_of_isCarrier (isCarrier_carryFrame ..),
        about' (Option.some.inj (beq_iff_eq.1 about))⟩)
  case notDelivered gone => exact absurd (gone.symm.trans alive) Bool.false_ne_true
  case considers | seeks =>
    all_goals exact .inr ⟨_, List.mem_cons_of_mem _ List.mem_cons_self, rfl, about⟩
  case sent | searches | goesTo | noWay | noCandidate | passesOver | cannotPin | noFlow | gone |
      noFlowBack | deliver =>
    all_goals exact .inr (next ⟨rfl, about⟩)
  -- no other frame owes anything
  all_goals cases hf

end Frame

/-! ## The last send of an exchange -/

/-- What nobody changes any more in an exchange that has ended. -/
structure Frozen (x x' : Exchange) : Prop where
  status : x'.status = x.status
  error : x'.error = x.error
  pattern : x'.pattern = x.pattern
  source : x'.source = x.source
  destination : x'.destination = x.destination
  output : x'.output = x.output
  fault : x'.fault = x.fault

theorem Frozen.refl (x : Exchange) : Frozen x x := ⟨rfl, rfl, rfl, rfl, rfl, rfl, rfl⟩

theorem Frozen.trans {x x' x'' : Exchange} (h : Frozen x x') (h' : Frozen x' x'') :
    Frozen x x'' where
  status := h'.status.trans h.status
  error := h'.error.trans h.error
  pattern := h'.pattern.trans h.pattern
  source := h'.source.trans h.source
  destination := h'.destination.trans h.destination
  output := h'.output.trans h.output
  fault := h'.fault.trans h.fault

/-- An exchange has ended as in `x₀`, and its last send is handed over to the slot `peer` or to the
party that waits there, at most once.  Until then the turn is the sender's. -/
structure Final (x₀ : Exchange) (peer : SlotId) (G : List Handing) (x : Exchange)
    (D : Multiset Frame) : Prop where
  sound : Sound x D
  frozen : Frozen x₀ x
  arrived : x.completed = false → x.inTransit = false
  owed : G.length + count Frame.owes D ≤ x.completed.toNat
  given : ∀ g ∈ G, g = .wakes x₀.role.opposite ∨ g = .calls peer
  leads : ∀ f ∈ D, f.owes = true → f.leadsTo peer x₀.role.opposite = true
  turn : (x.role = x₀.role ∧ x.token = ⟨false, false⟩ ∧ ∀ f ∈ D, f.turns = false) ∨
    x.completed = true ∧ ∀ f ∈ D, f.owes = true → f.turns = true

section

variable {c : Context} {e : ExchangeId} {d : Deed} {f g : Frame} {x₀ x x' : Exchange}
  {peer : SlotId}
  {G : List Handing} {fs : List Frame} {N D D' : Multiset Frame}

namespace Final

/-- A step that hands nothing over leaves to the next frames what the last one owed. -/
theorem pass (final : Final x₀ peer G x (f ::ₘ N)) (sound : Sound x' (fs + N))
    (frozen : Frozen x x')
    (completed : x'.completed = x.completed)
    (arrived : x.completed = false → x'.inTransit = x.inTransit)
    (owed : count Frame.owes (fs + N) ≤ count Frame.owes (f ::ₘ N))
    (leads : ∀ g ∈ fs, g.owes = true → g.leadsTo peer x₀.role.opposite = true)
    (turn : f.turns = false → x.token = ⟨false, false⟩ → x'.role = x.role ∧ x'.token = x.token ∧
      ∀ g ∈ fs, g.turns = false)
    (later : ∀ g ∈ fs, g.owes = true → f.owes = true ∧ f.turns = false) :
    Final x₀ peer G x' (fs + N) where
  sound
  frozen := final.frozen.trans frozen
  arrived hc := by
    rw [completed] at hc
    rw [arrived hc]
    exact final.arrived hc
  owed := by
    rw [completed]
    exact Nat.le_trans (Nat.add_le_add_left owed _) final.owed
  given := final.given
  leads g hg := (Multiset.mem_add.1 hg).elim (leads g) fun hg =>
    final.leads g (Multiset.mem_cons_of_mem hg)
  turn := by
    rcases final.turn with ⟨hr, ht, hturns⟩ | ⟨hc, howes⟩
    · obtain ⟨hr', ht', hturns'⟩ := turn (hturns f (Multiset.mem_cons_self ..)) ht
      refine .inl ⟨hr'.trans hr, ht'.trans ht, fun g hg => ?_⟩
      exact (Multiset.mem_add.1 hg).elim (hturns' g) fun hg =>
        hturns g (Multiset.mem_cons_of_mem hg)
    · refine .inr ⟨completed.trans hc, fun g hg hog => ?_⟩
      refine (Multiset.mem_add.1 hg).elim (fun hg => ?_) fun hg =>
        howes g (Multiset.mem_cons_of_mem hg) hog
      obtain ⟨hof, hturns⟩ := later g hg hog
      exact absurd (hturns.symm.trans (howes f (Multiset.mem_cons_self ..) hof))
        Bool.false_ne_true

/-- A step that has nothing to do with handing over. -/
theorem quiet (final : Final x₀ peer G x (f ::ₘ N)) (sound : Sound x' (fs + N))
    (hfs : ∀ g ∈ fs, g.owes = false ∧ g.turns = false) (frozen : Frozen x x')
    (completed : x'.completed = x.completed) (inTransit : x'.inTransit = x.inTransit)
    (role : x'.role = x.role) (token : x'.token = x.token) : Final x₀ peer G x' (fs + N) := by
  refine final.pass sound frozen completed (fun _ => inTransit) ?_ (fun g hg ho => ?_)
    (fun _ _ => ⟨role, token, fun g hg => (hfs g hg).2⟩) fun g hg ho => ?_
  · rw [count_quiet fun g hg => (hfs g hg).1, count_cons]
    exact Nat.le_add_right ..
  · exact absurd ((hfs g hg).1.symm.trans ho) Bool.false_ne_true
  · exact absurd ((hfs g hg).1.symm.trans ho) Bool.false_ne_true

/-- What is owed goes on to one other frame. -/
theorem hop (final : Final x₀ peer G x (f ::ₘ N)) (sound : Sound x ([g] + N)) (hf : f.owes = true)
    (ht : f.turns = false) (hg : g.turns = false)
    (leads : g.owes = true → g.leadsTo peer x₀.role.opposite = true) :
    Final x₀ peer G x ([g] + N) := by
  refine final.pass sound (.refl x) rfl (fun _ => rfl) ?_ ?_ (fun _ _ => ⟨rfl, rfl, ?_⟩) ?_
  · simp only [count_cons_add, count_nil_add, count_cons, hf, Bool.toNat_true]
    exact Nat.add_le_add_left (Bool.toNat_le _) _
  · simpa using leads
  · simpa using hg
  · exact fun _ _ _ => ⟨hf, ht⟩

/-- Whoever owes the exchange is the only one, and nobody has got it yet. -/
theorem alone (final : Final x₀ peer G x (f ::ₘ N)) (hf : f.owes = true) :
    G = [] ∧ count Frame.owes N = 0 ∧ x.completed = true := by
  have howed := final.owed
  have hle := Bool.toNat_le x.completed
  rw [count_cons, hf, Bool.toNat_true] at howed
  refine ⟨List.eq_nil_of_length_eq_zero (by omega), by omega, ?_⟩
  by_contra hc
  rw [eq_false_of_ne_true hc, Bool.toNat_false] at howed
  omega

/-- As long as the exchange has not been handed over, the turn is the sender's. -/
theorem kept (final : Final x₀ peer G x (f ::ₘ N)) (hf : f.owes = true) (ht : f.turns = false) :
    x.role = x₀.role ∧ x.token = ⟨false, false⟩ ∧ ∀ g ∈ N, g.turns = false := by
  rcases final.turn with ⟨hr, htoken, hturns⟩ | ⟨-, howes⟩
  · exact ⟨hr, htoken, fun g hg => hturns g (Multiset.mem_cons_of_mem hg)⟩
  · have := howes f (Multiset.mem_cons_self ..) hf
    exact absurd (ht.symm.trans this) Bool.false_ne_true

/-- As long as the exchange has not been handed over, it is meant for the sender's counterpart. -/
theorem counterpart (final : Final x₀ peer G x (f ::ₘ N)) (hf : f.owes = true)
    (ht : f.turns = false) : x.counterpart = x₀.counterpart := by
  obtain ⟨role, -⟩ := final.kept hf ht
  simp only [Exchange.counterpart, role, final.frozen.source, final.frozen.destination]

/-- An exchange that ends with an accepted send is owed to the counterpart from then on. -/
theorem accept {s : SlotId} {hop : Hop} (final : Final x₀ peer G x (.accept s e ::ₘ N))
    (sound : Sound (x.sentBy s) (([.sent hop] : List Frame) + N)) (failed : x.status = .error)
    (allowed : x.checkSend s = .ok ()) :
    Final x₀ peer G (x.sentBy s) (([.sent hop] : List Frame) + N) := by
  obtain ⟨rest, turn⟩ := Exchange.checkSend_ok.1 allowed
  have hsource : x.source.isSome = true := by
    rcases turn with opens | answers | closes
    · exact absurd (failed.symm.trans opens.active) (by decide)
    · exact final.sound.started (by rw [answers.sender]; rfl)
    · rw [closes.sender]
      rfl
  obtain ⟨source, hs⟩ := Option.isSome_iff_exists.1 hsource
  have howed := final.owed
  rw [rest.going, Bool.toNat_false, count_cons] at howed
  have hended : (x.sentBy s).completed = true := by
    simp only [Exchange.sentBy, failed]
    rfl
  have hfrozen : Frozen x (x.sentBy s) :=
    ⟨rfl, rfl, rfl, by simp [Exchange.sentBy, hs], rfl, rfl, rfl⟩
  refine ⟨sound, final.frozen.trans hfrozen, fun hc => ?_, ?_, final.given, ?_, ?_⟩
  · exact absurd (hc.symm.trans hended) Bool.false_ne_true
  · rw [hended]
    simp [Frame.owes]
    omega
  · intro g hg ho
    rcases Multiset.mem_add.1 hg with hg | hg
    · obtain rfl := List.mem_singleton.1 hg
      rfl
    · exact final.leads g (Multiset.mem_cons_of_mem hg) ho
  · rcases final.turn with ⟨hr, ht, hturns⟩ | ⟨hc, -⟩
    · refine .inl ⟨hr, ht, fun g hg => ?_⟩
      rcases Multiset.mem_add.1 hg with hg | hg
      · obtain rfl := List.mem_singleton.1 hg
        rfl
      · exact hturns g (Multiset.mem_cons_of_mem hg)
    · exact absurd (rest.going.symm.trans hc) Bool.false_ne_true

/-- Whoever owes the exchange hands it over, or gives way to the wake that will. -/
theorem handOver {G' : List Handing} (final : Final x₀ peer G x (f ::ₘ N)) (hf : f.owes = true)
    (sound : Sound x' (fs + N)) (frozen : Frozen x x') (completed : x'.completed = x.completed)
    (owed : count Frame.owes N = 0 → G'.length + count Frame.owes (fs + N) ≤ 1)
    (given : ∀ g ∈ G', g = .wakes x₀.role.opposite ∨ g = .calls peer)
    (leads : ∀ g ∈ fs, g.owes = true →
      g.leadsTo peer x₀.role.opposite = true ∧ g.turns = true) :
    Final x₀ peer (G' ++ G) x' (fs + N) := by
  obtain ⟨rfl, hN, hc⟩ := final.alone hf
  have none : ∀ g ∈ N, g.owes = false := fun g hg => by
    by_contra ho
    have := count_pos.2 ⟨g, hg, eq_true_of_ne_false ho⟩
    omega
  have hc' := completed.trans hc
  have towards : ∀ g ∈ (fs + N : Multiset Frame), g.owes = true →
      g.leadsTo peer x₀.role.opposite = true ∧ g.turns = true := fun g hg ho =>
    (Multiset.mem_add.1 hg).elim (fun hg => leads g hg ho) fun hg =>
      absurd ((none g hg).symm.trans ho) Bool.false_ne_true
  refine ⟨sound, final.frozen.trans frozen, fun h => ?_, ?_, ?_, fun g hg ho => ?_,
    .inr ⟨hc', fun g hg ho => ?_⟩⟩
  · exact absurd (h.symm.trans hc') Bool.false_ne_true
  · rw [hc', List.append_nil]
    exact owed hN
  · rwa [List.append_nil]
  · exact (towards g hg ho).1
  · exact (towards g hg ho).2

/-- Whoever owes the exchange takes it to the counterpart. -/
theorem lead (final : Final x₀ peer G x (f ::ₘ N)) (hf : f.owes = true) :
    f.leadsTo peer x₀.role.opposite = true :=
  final.leads f (Multiset.mem_cons_self ..) hf

/-- A hop that knows where to go goes to the counterpart. -/
theorem goesTo {h : Hop} {s : SlotId} (final : Final x₀ peer G x (.route h ::ₘ N))
    (sound : Sound x (([.routeTo h s] : List Frame) + N))
    (counterpart : x₀.counterpart = some peer)
    (known : x.role = .consumer ∧ x.destination = some s ∨
      x.role = .provider ∧ x.source = some s) :
    Final x₀ peer G x (([.routeTo h s] : List Frame) + N) := by
  rw [← final.counterpart rfl rfl, Exchange.counterpart] at counterpart
  refine final.hop sound rfl rfl rfl fun _ => beq_iff_eq.2 ?_
  rcases known with ⟨hr, hs⟩ | ⟨hr, hs⟩
  · rw [hr, hs] at counterpart
    exact Option.some.inj counterpart
  · rw [hr, hs] at counterpart
    exact Option.some.inj counterpart

/-- A hop that finds no way owes the exchange until it gives it up. -/
theorem loses {h : Hop} {err : RouterError} (final : Final x₀ peer G x (f ::ₘ N))
    (sound : Sound x (([.lost h err] : List Frame) + N)) (hop : f.hop? = some h) :
    Final x₀ peer G x (([.lost h err] : List Frame) + N) := by
  have hf : f.owes = true ∧ f.turns = false := by
    cases f <;> first | exact ⟨rfl, rfl⟩ | cases hop
  exact final.hop sound hf.1 hf.2 rfl fun _ => rfl

/-- A flow that is given the exchange takes it where the hop was going. -/
theorem reaches {h : Hop} {s : SlotId} (final : Final x₀ peer G x (.reaching h s ::ₘ N))
    (sound : Sound x (([g, .routed h] : List Frame) + N)) (carrier : g.isCarrier s h = true) :
    Final x₀ peer G x (([g, .routed h] : List Frame) + N) := by
  have hs : s = peer := beq_iff_eq.1 (final.lead rfl)
  obtain rfl | ⟨name, rfl⟩ := Frame.eq_of_isCarrier carrier
  all_goals
    refine final.pass sound (.refl x) rfl (fun _ => rfl) ?_ ?_ (fun _ _ => ⟨rfl, rfl, ?_⟩) ?_
    · simp [Frame.owes]
    · simp [Frame.owes, Frame.leadsTo, hs]
    · simp [Frame.turns]
    · exact fun _ _ _ => ⟨rfl, rfl⟩

/-- The counterpart waits and is to be woken. -/
theorem answers {s : SlotId} (final : Final x₀ peer G x (.hand s e ::ₘ N))
    (sound : Sound x.answered (([.wake e x.role.opposite] : List Frame) + N)) :
    Final x₀ peer G x.answered (([.wake e x.role.opposite] : List Frame) + N) := by
  obtain ⟨hrole, -⟩ := final.kept rfl rfl
  show Final x₀ peer ([] ++ G) _ _
  exact final.handOver rfl sound ⟨rfl, rfl, rfl, rfl, rfl, rfl, rfl⟩ rfl
    (fun hN => by simp [Frame.owes, hN]) (by simp) (by simp [Frame.leadsTo, Frame.turns, hrole])

/-- The counterpart is woken. -/
theorem wake {role : Role} (final : Final x₀ peer G x (.wake e role ::ₘ N))
    (sound : Sound (x.setToken role true) (([] : List Frame) + N)) :
    Final x₀ peer ([.wakes role] ++ G) (x.setToken role true) (([] : List Frame) + N) := by
  have hrole : role = x₀.role.opposite := beq_iff_eq.1 (final.lead rfl)
  exact final.handOver rfl sound ⟨rfl, rfl, rfl, rfl, rfl, rfl, rfl⟩ rfl
    (fun hN => by simp [hN]) (by simp [hrole]) (by simp)

/-- Nobody waits, and the exchange is turned over to the slot of the counterpart. -/
theorem turnsOver {s : SlotId} (final : Final x₀ peer G x (.hand s e ::ₘ N))
    (sound : Sound x (([.process s e] : List Frame) + N)) :
    Final x₀ peer ([.calls s] ++ G) x (([.process s e] : List Frame) + N) := by
  have hs : s = peer := beq_iff_eq.1 (final.lead rfl)
  exact final.handOver rfl sound (.refl x) rfl (fun hN => by simp [Frame.owes, hN])
    (by simp [hs]) (by simp [Frame.owes])

/-- Who takes a token has been woken before. -/
theorem takeToken {role : Role} {deadline : Option Nat}
    (final : Final x₀ peer G x (.waiting e role deadline ::ₘ N))
    (sound : Sound (x.setToken role false) (([.woken e role] : List Frame) + N))
    (token : x.token.get role = true) :
    Final x₀ peer G (x.setToken role false) (([.woken e role] : List Frame) + N) := by
  refine final.pass sound ⟨rfl, rfl, rfl, rfl, rfl, rfl, rfl⟩ rfl (fun _ => rfl)
    (by simp [Frame.owes]) (by simp [Frame.owes]) (fun _ ht => ?_) (by simp [Frame.owes])
  have empty : x.token.get role = false := by
    rw [ht]
    cases role <;> rfl
  exact absurd (empty.symm.trans token) Bool.false_ne_true

end Final

/-- The slots and parties that an exchange is handed over to are those to which it was led. -/
theorem Work.final (w : Work c x e f x' fs) (paired : Paired N)
    (final : Final x₀ peer G x (f ::ₘ N)) (error : x₀.status = .error)
    (counterpart : x₀.counterpart = some peer) (kept : (Deed.work c f).drops e = false) :
    Final x₀ peer (((Deed.work c f).hands? e x).toList ++ G) x' (fs + N) := by
  have sound := w.sound final.sound paired
  have failed : x.status = .error := final.frozen.status.trans error
  cases w with
  | ends subject mayEnd =>
    have hhands : (Deed.work c f).hands? e x = none := by
      cases f <;> first | rfl | cases mayEnd
    rw [hhands]
    exact final.quiet sound (by simp) (.refl x) rfl rfl rfl rfl
  | mark s e timeout active =>
    rw [failed] at active
    cases active
  | takeToken e deadline token => exact final.takeToken sound token
  | woken e role =>
    exact final.pass sound ⟨rfl, rfl, rfl, rfl, rfl, rfl, rfl⟩ rfl (fun _ => rfl)
      (by simp [Frame.owes]) (by simp) (fun ht => by cases ht) (by simp)
  | accept s e allowed => exact final.accept sound failed allowed
  | sent h => exact final.hop sound rfl rfl rfl fun _ => rfl
  | sendBack | strandWaiter | strand =>
    all_goals
      rw [Deed.drops, beq_self_eq_true] at kept
      cases kept
  | wake e role =>
    rw [Deed.hands?, if_pos rfl]
    exact final.wake sound
  | searches turn unpinned =>
    rw [← final.counterpart rfl rfl, Exchange.counterpart, turn, unpinned] at counterpart
    cases counterpart
  | goesTo known => exact final.goesTo sound counterpart known
  | loses err hop =>
    have hhands (e : ExchangeId) : (Deed.work c f).hands? e x = none := by
      cases f <;> first | rfl | cases hop
    rw [hhands]
    exact final.loses sound hop
  | passesOver | considers | pins | noFlow => all_goals cases final.lead rfl
  | seeks h s => exact final.hop sound rfl rfl rfl fun _ => final.lead rfl
  | reaches carrier => exact final.reaches sound carrier
  | deliver s e alive => exact final.hop sound rfl rfl rfl fun _ => final.lead rfl
  | notDelivered s e gone =>
    exact final.pass sound (.refl x) rfl (fun _ => rfl) (by simp) (by simp)
      (fun _ _ => ⟨rfl, rfl, by simp⟩) (by simp)
  | answers s e waits =>
    have hhands : (Deed.work c (.hand s e)).hands? e x = none := by simp [Deed.hands?, waits]
    rw [hhands]
    exact final.answers sound
  | turnsOver s e busy =>
    rw [Deed.hands?, if_pos ⟨rfl, busy⟩]
    exact final.turnsOver sound
  | process s e =>
    refine final.pass sound ⟨rfl, rfl, rfl, rfl, rfl, rfl, rfl⟩ rfl (fun hc => ?_)
      (by simp [Frame.owes]) (by simp [Frame.owes]) (fun ht => by cases ht) (by simp [Frame.owes])
    exact (final.arrived hc).symm
  | fails s f' failed' unsent arrived active =>
    exact absurd (failed.symm.trans active) (by decide)
  | send | sendSync | unmark | wait | giveUp | waitOn | dispatch | ended | release | enters =>
    all_goals
      exact final.quiet sound (by simp [Frame.owes, Frame.turns])
        ⟨rfl, rfl, rfl, rfl, rfl, rfl, rfl⟩ rfl rfl rfl rfl

theorem Deed.hands?_eq_none (h : f.subject ≠ some e) : (Deed.work c f).hands? e x = none := by
  have hne {e' : ExchangeId} (he : f.subject = some e') : e' ≠ e := fun h' => h (h' ▸ he)
  cases f with
  | wake e' role => exact if_neg (hne rfl)
  | hand s e' => exact if_neg fun h => hne rfl h.1
  | _ => rfl

theorem Turn.final (t : Turn true e d x D x' D') (final : Final x₀ peer G x D)
    (error : x₀.status = .error) (counterpart : x₀.counterpart = some peer)
    (kept : d.drops e = false) :
    Final x₀ peer ((d.hands? e x).toList ++ G) x' D' := by
  have sound := t.sound final.sound
  have failed : x.status = .error := final.frozen.status.trans error
  have more {D' : Multiset Frame} (sound : Sound x D')
      (owed : count Frame.owes D' = count Frame.owes D)
      (known : ∀ f ∈ D', f.owes = false ∧ f.turns = false ∨ ∃ g ∈ D, g.owes = f.owes ∧
        g.turns = f.turns ∧ g.leadsTo peer x₀.role.opposite = f.leadsTo peer x₀.role.opposite) :
      Final x₀ peer G x D' := by
    refine ⟨sound, final.frozen, final.arrived, owed ▸ final.owed, final.given, ?_, ?_⟩
    · intro f hf ho
      obtain ⟨hno, -⟩ | ⟨g, hg, howes, -, hleads⟩ := known f hf
      · exact absurd (hno.symm.trans ho) Bool.false_ne_true
      · exact hleads ▸ final.leads g hg (howes.trans ho)
    · refine final.turn.imp (fun ⟨hr, ht, hturns⟩ => ⟨hr, ht, fun f hf => ?_⟩)
        fun ⟨hc, howes⟩ => ⟨hc, fun f hf ho => ?_⟩
      · obtain ⟨-, hno⟩ | ⟨g, hg, -, hgturns, -⟩ := known f hf
        · exact hno
        · exact hgturns ▸ hturns g hg
      · obtain ⟨hno, -⟩ | ⟨g, hg, hgowes, hgturns, -⟩ := known f hf
        · exact absurd (hno.symm.trans ho) Bool.false_ne_true
        · exact hgturns ▸ howes g hg (hgowes.trans ho)
  cases t with
  | idle idle =>
    have hhands : d.hands? e x = none := by
      cases d with
      | work c f => cases f <;> first | rfl | cases idle
      | _ => rfl
    rw [hhands]
    exact final
  | elsewhere other =>
    rw [Deed.hands?_eq_none other]
    exact final
  | elsewhereAnswer => exact final
  | work w paired => exact w.final paired final error counterpart kept
  | send s | sendSync s timeout =>
    all_goals
      refine more sound (by simp [Frame.owes]) fun f hf => ?_
      rcases Multiset.mem_cons.1 hf with rfl | hf
      · exact .inl ⟨rfl, rfl⟩
      · exact .inr ⟨f, hf, rfl, rfl, rfl⟩
  | deliver s wild => cases wild
  | delivers name s N same =>
    refine more sound (by simp [Frame.owes]) fun f hf => ?_
    rcases Multiset.mem_cons.1 hf with rfl | hf
    · exact .inr ⟨_, Multiset.mem_cons_self .., rfl, rfl, rfl⟩
    · rcases Multiset.mem_cons.1 hf with rfl | hf
      · exact .inl ⟨rfl, rfl⟩
      · exact .inr ⟨f, Multiset.mem_cons_of_mem hf, rfl, rfl, rfl⟩
  | answer name s delivered N same =>
    have : delivered = true := by simpa [Deed.drops, same] using kept
    subst this
    exact more sound (by simp [Frame.owes]) fun f hf =>
      .inr ⟨f, Multiset.mem_cons_of_mem hf, rfl, rfl, rfl⟩
  | refuse name s err N same undelivered =>
    cases undelivered rfl
    rw [Deed.drops, same, beq_self_eq_true] at kept
    cases kept
  | create => exact absurd failed (by decide)
  | change c changed =>
    have going := (Exchange.change_ok changed).2
    rw [failed] at going
    cases going

theorem Work.completes (w : Work c x e f x' fs) (going : x.completed = false)
    (ended : x'.completed = true) :
    (∃ s, f = .accept s e) ∨ (Deed.work c f).drops e = true := by
  cases w with
  | accept s e allowed => exact .inl ⟨s, rfl⟩
  | sendBack | strandWaiter | strand => all_goals exact .inr (beq_self_eq_true _)
  | _ => exact absurd (going.symm.trans ended) Bool.false_ne_true

theorem Turn.completes {tame : Bool} (t : Turn tame e d x D x' D') (going : x.completed = false)
    (ended : x'.completed = true) :
    (∃ c s, d = .work c (.accept s e)) ∨ d.drops e = true := by
  cases t with
  | work w => exact (w.completes going ended).imp_left fun ⟨s, hf⟩ => ⟨_, s, by rw [hf]⟩
  | create => cases ended
  | change c changed =>
    have same := (Exchange.change_ok changed).1.completed
    exact absurd (going.symm.trans (same.symm.trans ended)) Bool.false_ne_true
  | _ => exact absurd (going.symm.trans ended) Bool.false_ne_true

/-- An exchange that is not dropped ends with a send that is accepted. -/
theorem Machine.accepted_of_completed {m m' : Machine} {mv : Move} {tame : Bool}
    (hm : m.move? mv = some m')
    (t : Turn tame e (m.deed mv) (m.router.exchange e) D (m'.router.exchange e) D')
    (kept : (m.deed mv).drops e = false) (going : (m.router.exchange e).completed = false)
    (ended : (m'.router.exchange e).completed = true) : (m.accepted? e mv).isSome = true := by
  obtain ⟨c, s, hd⟩ := (t.completes going ended).resolve_right fun hdrops =>
    absurd (kept.symm.trans hdrops) Bool.false_ne_true
  by_contra ha
  have same := exchange_of_not_accepted hm hd (Option.not_isSome_iff_eq_none.1 ha)
  rw [same, going] at ended
  cases ended

end

end Engine

end MessageRouter
