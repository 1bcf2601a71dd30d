import MessageRouter.Proofs.DeadEnds
import MessageRouter.Proofs.FirstHops

/-!
# The parties to an exchange

An exchange is carried and handed only to its source and its destination (`Parties`), and to each
of them in its turn, as long as no party that has waited takes it back while it is on its way
(`InTurn`).
-/

namespace MessageRouter

namespace Exchange

variable {x x' : Exchange} {s : SlotId}

/-- The slot is the source of the exchange or its destination. -/
def HasParty (x : Exchange) (s : SlotId) : Prop := x.source = some s ∨ x.destination = some s

theorem hasParty_of_counterpart (h : x.counterpart = some s) : x.HasParty s := by
  unfold counterpart at h
  split at h
  · exact .inr h
  · exact .inl h

theorem holder_turned (x : Exchange) : x.turned.holder = x.counterpart := by
  unfold holder counterpart turned
  cases x.role <;> rfl

theorem counterpart_congr (role : x'.role = x.role) (source : x'.source = x.source)
    (destination : x'.destination = x.destination) : x'.counterpart = x.counterpart := by
  unfold counterpart
  rw [role, source, destination]

theorem holder_congr (role : x'.role = x.role) (source : x'.source = x.source)
    (destination : x'.destination = x.destination) : x'.holder = x.holder := by
  unfold holder
  rw [role, source, destination]

theorem HasParty.congr (h : x.HasParty s) (source : x'.source = x.source)
    (destination : x'.destination = x.destination ∨ x.destination = none) : x'.HasParty s := by
  rcases h with hs | hd
  · exact .inl (source.trans hs)
  · rcases destination with same | none
    · exact .inr (same.trans hd)
    · rw [none] at hd
      cases hd

end Exchange

namespace Engine

namespace Frame

/-- The slot to which a frame takes an exchange. -/
def goal? : Frame → Option SlotId
  | .routeTo _ s | .reaching _ s | .deliver s _ | .hand s _ | .process s _
  | .call (.carry _ _ s false) => some s
  | _ => none

/-- The exchange is on its way, or it is about to be handed over as its `sends`-th send left
it. -/
def isUnderWay (sends : Nat) : Frame → Bool
  | .enter _ _ n => n == sends
  | f => f.carries

variable {f : Frame} {h : Hop} {s : SlotId}

theorem carries_of_goal? (hf : f.goal? = some s) : f.carries = true := by
  unfold goal? at hf
  split at hf <;> first | rfl | cases hf

theorem carries_of_searching (hf : f.searching = true) : f.carries = true := by
  cases f <;> first | rfl | cases hf

theorem isUnderWay_of_carries (hf : f.carries = true) (sends : Nat) :
    f.isUnderWay sends = true := by
  cases f <;> first | exact hf | cases hf

theorem isUnderWay_eq_false (hc : f.carries = false) (he : f.isEnter = false) (sends : Nat) :
    f.isUnderWay sends = false := by
  cases f <;> first | exact hc | cases he

theorem enter_of_isUnderWay {sends : Nat} (hu : f.isUnderWay sends = true)
    (hc : f.carries = false) : ∃ s e, f = .enter s e sends := by
  cases f with
  | enter s e n =>
    obtain rfl := beq_iff_eq.1 hu
    exact ⟨s, e, rfl⟩
  | _ => cases hc.symm.trans hu

theorem goal?_of_isCarrier {g : Frame} (hg : g.isCarrier s h = true) : g.goal? = some s := by
  obtain rfl | ⟨name, rfl⟩ := eq_of_isCarrier hg <;> rfl

namespace Follows

variable {g : Frame}

theorem goal (a : g.Follows f) (hf : f.goal? = some s) : g.goal? = some s := by
  cases a with
  | same => exact hf
  | delivers => exact hf
  | refused => cases hf

theorem searching (a : g.Follows f) (hf : f.searching = true) : g.searching = true := by
  cases a with
  | same => exact hf
  | delivers | refused => all_goals cases hf

theorem isUnderWay (a : g.Follows f) {sends : Nat} (hf : f.isUnderWay sends = true) :
    g.isUnderWay sends = true := by
  cases a with
  | same => exact hf
  | delivers | refused => all_goals rfl

theorem eq_enter {e : ExchangeId} {n : Nat} (a : g.Follows (.enter s e n)) : g = .enter s e n := by
  cases a
  rfl

end Follows

theorem kind_of_isUnderWay {sends : Nat} (hu : f.isUnderWay sends = true) :
    f.carries = true ∨ f.isEnter = true := by
  by_cases hc : f.carries = true
  · exact .inl hc
  · obtain ⟨s, e, rfl⟩ := enter_of_isUnderWay hu (eq_false_of_ne_true hc)
    exact .inr rfl

end Frame

variable {tame : Bool} {c : Context} {e : ExchangeId} {d : Deed} {f g : Frame} {x x' : Exchange}
  {fs : List Frame} {N D D' : Multiset Frame} {s : SlotId}

/-! ## Where an exchange goes -/

/-- A search sets the destination, and nothing else changes it. -/
theorem Work.destination (w : Work c x e f x' fs) :
    x'.destination = x.destination ∨
      ∃ h target s rest denied, f = .offered h target s rest denied ∧ h.exchange = e ∧
        x' = { x with destination := some s } := by
  cases w with
  | pins target rest denied carrier => exact .inr ⟨_, _, _, _, _, rfl, rfl, rfl⟩
  | strandWaiter | strand => all_goals exact .inl (x.destination_stranded ..)
  | _ => exact .inl rfl

/-- A duty takes the exchange to where it takes it already, to the party whose turn it is not, or
to the destination that has just been found. -/
theorem Work.goal (w : Work c x e f x' fs) (hf : f.carries = true)
    (outset : Outset x (f ::ₘ N)) (hg : g ∈ fs) (hs : g.goal? = some s) :
    f.goal? = some s ∧ x' = x ∨ x'.counterpart = some s ∨
      f.searching = true ∧ x' = { x with destination := some s } := by
  have one {g' : Frame} (hmem : g ∈ [g']) : g'.goal? = some s :=
    List.mem_singleton.1 hmem ▸ hs
  cases w with
  | @goesTo h s' known =>
    cases one hg
    right
    left
    unfold Exchange.counterpart
    rcases known with ⟨hr, hd⟩ | ⟨hr, hd⟩
    · rw [hr]
      exact hd
    · rw [hr]
      exact hd
  | @sendBack h err first =>
    have source := (outset.first _ (Multiset.mem_cons_self ..) h rfl first).1
    simp only [List.mem_cons, List.not_mem_nil, or_false] at hg
    rcases hg with rfl | rfl
    · cases hs
      exact .inr (.inl source)
    · cases hs
  | seeks | deliver | turnsOver =>
    all_goals
      cases one hg
      exact .inl ⟨rfl, rfl⟩
  | pins target rest denied carrier | reaches carrier =>
    all_goals
      simp only [List.mem_cons, List.not_mem_nil, or_false] at hg
      rcases hg with rfl | rfl
      · rw [Frame.goal?_of_isCarrier carrier] at hs
        cases hs
        first | exact .inl ⟨rfl, rfl⟩ | exact .inr (.inr ⟨rfl, rfl⟩)
      · cases hs
  | strandWaiter =>
    simp only [List.mem_cons, List.not_mem_nil, or_false] at hg
    rcases hg with rfl | rfl <;> cases hs
  | ends | notDelivered => all_goals cases hg
  | accept | woken | unmark | giveUp | release | wake | send | sendSync | mark | wait | takeToken
    | waitOn | dispatch | ended | enters | fails => all_goals cases hf
  | _ => cases one hg

/-- The exchange is handed over where it has come to, and it is the receiver's turn then. -/
theorem Work.enters_of_carries (w : Work c x e f x' fs) (hf : f.carries = true) {e' : ExchangeId}
    {n : Nat} (hg : .enter s e' n ∈ fs) :
    f.goal? = some s ∧ n = x.sends ∧ x' = x.turned := by
  cases w with
  | process s' e =>
    cases List.mem_singleton.1 hg
    exact ⟨rfl, rfl, rfl⟩
  | pins target rest denied carrier | reaches carrier =>
    all_goals
      simp only [List.mem_cons, List.not_mem_nil, or_false, reduceCtorEq] at hg
      subst hg
      cases carrier
  | _ => simp at hg

/-- Whoever is given an exchange is one of its parties. -/
structure Parties (x : Exchange) (D : Multiset Frame) : Prop where
  goal : ∀ f ∈ D, ∀ s, f.goal? = some s → x.HasParty s
  entered : ∀ s e n, .enter s e n ∈ D →
    x.HasParty s ∧ n ≤ x.sends ∧ (x.inTransit = true → n < x.sends)

namespace Parties

theorem aside (h : Parties x D) (aside : Aside x D x' D') : Parties x' D' where
  goal f hf s hs := by
    obtain ⟨g, hg, follows⟩ := aside.duties f hf (.inl (Frame.carries_of_goal? hs))
    exact (h.goal g hg s (follows.goal hs)).congr aside.source (.inl aside.destination)
  entered s e n hf := by
    obtain ⟨g, hg, follows⟩ := aside.duties _ hf (.inr rfl)
    rw [aside.sends, aside.inTransit]
    obtain ⟨party, le⟩ := h.entered s e n (follows.eq_enter ▸ hg)
    exact ⟨party.congr aside.source (.inl aside.destination), le⟩

/-- A party takes an exchange back. -/
theorem takenBack {role : Role} (h : Parties x (f ::ₘ N)) : Parties { x with role } N where
  goal g hg := h.goal g (Multiset.mem_cons_of_mem hg)
  entered s e n hg := h.entered s e n (Multiset.mem_cons_of_mem hg)

theorem work (w : Work c x e f x' fs) (sound : Sound x (f ::ₘ N)) (outset : Outset x (f ::ₘ N))
    (h : Parties x (f ::ₘ N)) : Parties x' (fs + N) := by
  by_cases hf : f.carries = true
  · obtain ⟨source, -, sends, -⟩ := w.forwards hf
    have destination : x'.destination = x.destination ∨ x.destination = none := by
      rcases w.destination with same | ⟨h, target, s, rest, denied, rfl, -⟩
      · exact .inl same
      · exact .inr (sound.unpinned _ (Multiset.mem_cons_self ..) rfl)
    refine ⟨fun g hg s hs => ?_, fun s e' n hg => ?_⟩
    · rcases Multiset.mem_add.1 hg with hg | hg
      · rcases w.goal hf outset hg hs with ⟨hfs, rfl⟩ | counterpart | ⟨-, rfl⟩
        · exact h.goal f (Multiset.mem_cons_self ..) s hfs
        · exact Exchange.hasParty_of_counterpart counterpart
        · exact .inr rfl
      · have := sound.custody.alone hf hg
        rw [Frame.carries_of_goal? hs] at this
        cases this
    · rcases Multiset.mem_add.1 hg with hg | hg
      · obtain ⟨hfs, rfl, rfl⟩ := w.enters_of_carries hf hg
        refine ⟨(h.goal f (Multiset.mem_cons_self ..) s hfs).congr rfl (.inl rfl), le_rfl,
          fun ht => by cases ht⟩
      · obtain ⟨party, le, lt⟩ := h.entered s e' n (Multiset.mem_cons_of_mem hg)
        rw [sends]
        have sent := sound.custody.inTransit (Multiset.mem_cons_self ..) hf
        exact ⟨party.congr source destination, le, fun _ => lt sent⟩
  · rcases w.aside (eq_false_of_ne_true hf) with ⟨s, rfl, allowed, rfl, rfl⟩ |
      ⟨role, rfl, rfl, rfl⟩ | aside
    · obtain ⟨rest, -⟩ := Exchange.checkSend_ok.1 allowed
      refine ⟨fun g hg t ht => ?_, fun t e' n hg => ?_⟩
      · have hc := Frame.carries_of_goal? ht
        rcases Multiset.mem_add.1 hg with hg | hg
        · cases List.mem_singleton.1 hg
          cases ht
        · rw [sound.custody.carries_eq_false rest.arrived (Multiset.mem_cons_of_mem hg)] at hc
          cases hc
      · rcases Multiset.mem_add.1 hg with hg | hg
        · cases List.mem_singleton.1 hg
        · obtain ⟨party, le, -⟩ := h.entered t e' n (Multiset.mem_cons_of_mem hg)
          show (x.sentBy s).HasParty t ∧ n ≤ x.sends + 1 ∧ (_ → n < x.sends + 1)
          refine ⟨?_, by omega, fun _ => by omega⟩
          rcases party with hs | hd
          · exact .inl (by simp [Exchange.sentBy, hs])
          · exact .inr hd
    · rw [Multiset.coe_nil, zero_add]
      exact h.takenBack
    · exact h.aside (aside N)

theorem turn (t : Turn true e d x D x' D') (sound : Sound x D) (outset : Outset x D)
    (h : Parties x D) : Parties x' D' := by
  rcases t.aside with ⟨c, f, N, fs, rfl, rfl, rfl, w⟩ | aside
  · exact work w sound outset h
  · exact h.aside aside

end Parties

/-! ## Whose turn it is -/

/-- The parties get the exchange in their turn, provided that `calm`; and nobody has an answer that
is still to be taken while the exchange is under way, provided that `orderly`. -/
structure InTurn (calm orderly : Prop) (x : Exchange) (D : Multiset Frame) : Prop where
  toward : calm → ∀ f ∈ D, ∀ s, f.goal? = some s → x.counterpart = some s
  seeking : calm → ∀ f ∈ D, f.searching = true → x.role = .consumer
  current : calm → ∀ s e, .enter s e x.sends ∈ D → x.holder = some s
  free : orderly → ∀ f ∈ D, f.isUnderWay x.sends = true → ∀ r, handed r x D = 0

namespace InTurn

variable {calm calm' orderly orderly' : Prop}

theorem aside (h : InTurn calm orderly x D) (hcalm : calm' → calm) (horderly : orderly' → orderly)
    (aside : Aside x D x' D') : InTurn calm' orderly' x' D' := by
  have counterpart := Exchange.counterpart_congr aside.role aside.source aside.destination
  have holder := Exchange.holder_congr aside.role aside.source aside.destination
  constructor
  · intro hc f hf s hs
    obtain ⟨g, hg, follows⟩ := aside.duties f hf (.inl (Frame.carries_of_goal? hs))
    rw [counterpart]
    exact h.toward (hcalm hc) g hg s (follows.goal hs)
  · intro hc f hf hs
    obtain ⟨g, hg, follows⟩ := aside.duties f hf (.inl (Frame.carries_of_searching hs))
    rw [aside.role]
    exact h.seeking (hcalm hc) g hg (follows.searching hs)
  · intro hc s e hf
    obtain ⟨g, hg, follows⟩ := aside.duties _ hf (.inr rfl)
    rw [follows.eq_enter, aside.sends] at hg
    rw [holder]
    exact h.current (hcalm hc) s e hg
  · intro ho f hf hu r
    rw [aside.sends] at hu
    obtain ⟨g, hg, follows⟩ := aside.duties f hf (Frame.kind_of_isUnderWay hu)
    exact Nat.le_zero.1 (h.free (horderly ho) g hg (follows.isUnderWay hu) r ▸ aside.answers r)

/-- Work on a duty that carries the exchange. -/
theorem carried (w : Work c x e f x' fs) (hf : f.carries = true) (sound : Sound x (f ::ₘ N))
    (outset : Outset x (f ::ₘ N)) (parties : Parties x (f ::ₘ N))
    (h : InTurn calm orderly x (f ::ₘ N)) (hcalm : calm' → calm)
    (horderly : orderly' → orderly) : InTurn calm' orderly' x' (fs + N) := by
  obtain ⟨source, -, sends, -, -, answers⟩ := w.forwards hf
  have alone {g : Frame} (hg : g ∈ (fs + N : Multiset Frame)) (hc : g.carries = true) : g ∈ fs := by
    rcases Multiset.mem_add.1 hg with hg | hg
    · exact hg
    · rw [sound.custody.alone hf hg] at hc
      cases hc
  -- whatever has been handed over is older than the send that is on its way
  have older {s : SlotId} {e' : ExchangeId} (hg : .enter s e' x.sends ∈ N) : False := by
    have sent := sound.custody.inTransit (Multiset.mem_cons_self ..) hf
    have := (parties.entered s e' x.sends (Multiset.mem_cons_of_mem hg)).2.2 sent
    omega
  have top : f ∈ f ::ₘ N := Multiset.mem_cons_self ..
  constructor
  · intro hc g hg s hs
    rcases w.goal hf outset (alone hg (Frame.carries_of_goal? hs)) hs with
      ⟨hfs, rfl⟩ | counterpart | ⟨hsearch, rfl⟩
    · exact h.toward (hcalm hc) f top s hfs
    · exact counterpart
    · have role := h.seeking (hcalm hc) f top hsearch
      unfold Exchange.counterpart
      rw [role]
  · intro hc g hg hs
    have hmem := alone hg (Frame.carries_of_searching hs)
    cases w with
    | searches turn unpinned => exact turn
    | passesOver | considers | noFlow => all_goals exact h.seeking (hcalm hc) _ top rfl
    | pins target rest denied carrier | reaches carrier =>
      all_goals
        simp only [List.mem_cons, List.not_mem_nil, or_false] at hmem
        rcases hmem with rfl | rfl
        · obtain rfl | ⟨name, rfl⟩ := Frame.eq_of_isCarrier carrier <;> cases hs
        · cases hs
    | sendBack | strandWaiter | mark =>
      all_goals
        simp only [List.mem_cons, List.not_mem_nil, or_false] at hmem
        rcases hmem with rfl | rfl <;> cases hs
    | ends | unmark | giveUp | woken | release | wake | notDelivered => all_goals cases hmem
    | _ =>
      cases List.mem_singleton.1 hmem
      cases hs
  · intro hc s e' hg
    rw [sends] at hg
    rcases Multiset.mem_add.1 hg with hg | hg
    · obtain ⟨hfs, -, rfl⟩ := w.enters_of_carries hf hg
      rw [Exchange.holder_turned]
      exact h.toward (hcalm hc) f top s hfs
    · exact (older hg).elim
  · intro ho g hg hu r
    rw [sends] at hu
    rcases answers with same | quiet
    · rw [same]
      exact h.free (horderly ho) f top (Frame.isUnderWay_of_carries hf _) r
    · exfalso
      rcases Multiset.mem_add.1 hg with hg | hg
      · rw [Frame.isUnderWay_eq_false (quiet g hg).1 (quiet g hg).2] at hu
        cases hu
      · obtain ⟨s, e', rfl⟩ := Frame.enter_of_isUnderWay hu (sound.custody.alone hf hg)
        exact older hg

/-- A send has been accepted. -/
theorem accepted {hop : Hop} (sound : Sound x (f ::ₘ N)) (parties : Parties x (f ::ₘ N))
    (arrived : x.inTransit = false) (taken : orderly → ∀ r, handed r x (f ::ₘ N) = 0) :
    InTurn calm orderly (x.sentBy s) (([.sent hop] : List Frame) + N) := by
  have none {g : Frame} (hg : g ∈ (([.sent hop] : List Frame) + N : Multiset Frame)) :
      g = .sent hop ∨ g ∈ N ∧ g.carries = false := by
    rcases Multiset.mem_add.1 hg with hg | hg
    · exact .inl (List.mem_singleton.1 hg)
    · exact .inr ⟨hg, sound.custody.carries_eq_false arrived (Multiset.mem_cons_of_mem hg)⟩
  constructor
  · intro _ g hg t ht
    rcases none hg with rfl | ⟨-, hc⟩
    · cases ht
    · rw [Frame.carries_of_goal? ht] at hc
      cases hc
  · intro _ g hg hs
    rcases none hg with rfl | ⟨-, hc⟩
    · cases hs
    · rw [Frame.carries_of_searching hs] at hc
      cases hc
  · intro _ t e' hg
    rcases none hg with same | ⟨hg, -⟩
    · cases same
    · have : x.sends + 1 ≤ x.sends := (parties.entered t e' _ (Multiset.mem_cons_of_mem hg)).2.1
      omega
  · intro ho g _ _ r
    have answers : handed r x N ≤ handed r x (f ::ₘ N) := by
      rw [handed_cons]
      omega
    rw [taken ho r] at answers
    simpa [handed, Frame.returns, Exchange.sentBy] using answers

/-- A party takes the exchange back; in an orderly run nobody else has it under way then. -/
theorem takenBack {role : Role} (h : InTurn calm orderly x (.woken e role ::ₘ N))
    (hcalm : calm' → orderly) (horderly : orderly' → orderly) :
    InTurn calm' orderly' { x with role } N := by
  have given : 0 < handed role x (.woken e role ::ₘ N) := by
    rw [handed_cons]
    simp [Frame.returns]
  have still (ho : orderly) {g : Frame} (hg : g ∈ N) (hu : g.isUnderWay x.sends = true) :
      False := by
    have := h.free ho g (Multiset.mem_cons_of_mem hg) hu role
    omega
  constructor
  · intro hc g hg t ht
    have hu := Frame.isUnderWay_of_carries (Frame.carries_of_goal? ht) x.sends
    exact (still (hcalm hc) hg hu).elim
  · intro hc g hg hs
    have hu := Frame.isUnderWay_of_carries (Frame.carries_of_searching hs) x.sends
    exact (still (hcalm hc) hg hu).elim
  · intro hc t e' hg
    exact (still (hcalm hc) hg (beq_self_eq_true _)).elim
  · intro ho g hg hu
    exact (still (horderly ho) hg hu).elim

theorem work (w : Work c x e f x' fs) (sound : Sound x (f ::ₘ N)) (outset : Outset x (f ::ₘ N))
    (parties : Parties x (f ::ₘ N)) (h : InTurn calm orderly x (f ::ₘ N))
    (hcalm : calm' → (∃ s, f = .accept s e ∧ x' = x.sentBy s) ∨
      calm ∧ ∀ role, f = .woken e role → orderly)
    (horderly : orderly' → orderly ∧ ∀ s, f = .accept s e → x' = x.sentBy s →
      ∀ r, handed r x (f ::ₘ N) = 0) : InTurn calm' orderly' x' (fs + N) := by
  have notAccept (hx : x'.sends = x.sends) : ¬∃ s, f = .accept s e ∧ x' = x.sentBy s := by
    rintro ⟨s, -, rfl⟩
    exact Nat.succ_ne_self _ hx
  have order (ho : orderly') : orderly := (horderly ho).1
  by_cases hf : f.carries = true
  · have unsent := notAccept (w.forwards hf).sends
    exact carried w hf sound outset parties h (fun hc => ((hcalm hc).resolve_left unsent).1) order
  · rcases w.aside (eq_false_of_ne_true hf) with ⟨s, rfl, allowed, rfl, rfl⟩ |
      ⟨role, rfl, rfl, rfl⟩ | aside
    · obtain ⟨rest, -⟩ := Exchange.checkSend_ok.1 allowed
      exact accepted sound parties rest.arrived fun ho => (horderly ho).2 s rfl rfl
    · rw [Multiset.coe_nil, zero_add]
      exact h.takenBack (fun hc => ((hcalm hc).resolve_left (notAccept rfl)).2 role rfl) order
    · have unsent := notAccept (aside N).sends
      exact h.aside (fun hc => ((hcalm hc).resolve_left unsent).1) order (aside N)

/-- A turn keeps the parties in turn, unless a party takes the exchange back out of order. -/
theorem turn (t : Turn true e d x D x' D') (sound : Sound x D) (outset : Outset x D)
    (parties : Parties x D) (h : InTurn calm orderly x D)
    (hcalm : calm' → (∃ c s, d = .work c (.accept s e) ∧ x' = x.sentBy s) ∨
      calm ∧ ∀ c role, d = .work c (.woken e role) → orderly)
    (horderly : orderly' → orderly ∧ ∀ c s, d = .work c (.accept s e) → x' = x.sentBy s →
      ∀ r, handed r x D = 0) : InTurn calm' orderly' x' D' := by
  rcases t.aside with ⟨c, f, N, fs, rfl, rfl, rfl, w⟩ | aside
  · refine work w sound outset parties h (fun hc => ?_) fun ho => ?_
    · rcases hcalm hc with ⟨c', s, hd, hx⟩ | ⟨hc, hw⟩
      · cases hd
        exact .inl ⟨s, rfl, hx⟩
      · exact .inr ⟨hc, fun role hf => hw c role (by rw [hf])⟩
    · obtain ⟨ho, taken⟩ := horderly ho
      exact ⟨ho, fun s hs hx => taken c s (by rw [hs]) hx⟩
  · refine h.aside (fun hc => ?_) (fun ho => (horderly ho).1) aside
    rcases hcalm hc with ⟨c, s, -, rfl⟩ | ⟨hc, -⟩
    · exact absurd aside.sends (Nat.succ_ne_self _)
    · exact hc

end InTurn

end Engine

end MessageRouter
