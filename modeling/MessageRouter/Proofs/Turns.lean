import MessageRouter.Proofs.Effects
import MessageRouter.Proofs.RouterState

/-!
# The life of one exchange

Every move of a machine is, for each exchange, a `Turn` of that exchange alone: of its state and
the duties about it.  What the slots, the flows and the other exchanges contribute appears as a
choice between turns.  `Machine.turn_of_move` shows that there are no other turns.
-/

namespace MessageRouter.Engine

namespace Frame

/-- A frame that may be through without any effect on its exchange. -/
def mayEnd : Frame → Bool
  | .send .. | .sendSync .. | .mark .. | .dispatch .. | .accept .. | .enter .. | .handle .. => true
  | .routed h => !h.terminal
  | _ => false

/-- A hop on which no flow carries the exchange yet. -/
def hop? : Frame → Option Hop
  | .route h | .offer h _ _ _ | .offered h _ _ _ _ | .routeTo h _ | .reaching h _ => some h
  | _ => none

/-- A flow begins to carry an exchange to a slot. -/
def isCarrier (s : SlotId) (h : Hop) : Frame → Bool
  | .deliver s' e => s' == s && e == h.exchange
  | .call (.carry _ h' s' delivered) => s' == s && h' == h && !delivered
  | _ => false

theorem eq_of_isCarrier {s : SlotId} {h : Hop} {f : Frame} (hf : f.isCarrier s h = true) :
    f = .deliver s h.exchange ∨ ∃ name, f = .call (.carry name h s false) := by
  unfold isCarrier at hf
  split at hf
  · simp only [Bool.and_eq_true, beq_iff_eq] at hf
    obtain ⟨rfl, rfl⟩ := hf
    exact .inl rfl
  · simp only [Bool.and_eq_true, beq_iff_eq, Bool.not_eq_true'] at hf
    obtain ⟨⟨rfl, rfl⟩, rfl⟩ := hf
    exact .inr ⟨_, rfl⟩
  · cases hf

theorem isCarrier_carryFrame (f : Flow) (h : Hop) (s : SlotId) :
    (carryFrame f h s).isCarrier s h = true := by
  unfold carryFrame isCarrier
  cases f.kind <;> simp

end Frame

/-- What the work on a frame makes of its exchange, and the frames about it that come of it. -/
inductive Work (c : Context) (x : Exchange) : ExchangeId → Frame → Exchange → List Frame → Prop
  | ends {e : ExchangeId} {f : Frame} (subject : f.subject = some e) (mayEnd : f.mayEnd = true) :
    Work c x e f x []
  /- Sends. -/
  | send (s : SlotId) (e : ExchangeId) : Work c x e (.send s e) x [.dispatch s e]
  | sendSync (s : SlotId) (e : ExchangeId) (timeout : Option Nat) :
    Work c x e (.sendSync s e timeout) x [.mark s e timeout]
  | mark (s : SlotId) (e : ExchangeId) (timeout : Option Nat)
    (active : x.status.isTerminal = false) :
    Work c x e (.mark s e timeout) (x.setWaiting x.role true)
      [.dispatch s e, .marked e x.role timeout]
  | unmark (e : ExchangeId) (role : Role) (timeout : Option Nat)
    (refused : c.reply.isRefusal = true) :
    Work c x e (.marked e role timeout) (x.setWaiting role false) []
  | wait (e : ExchangeId) (role : Role) (timeout deadline : Option Nat)
    (sent : c.reply.isRefusal = false) :
    Work c x e (.marked e role timeout) x [.waiting e role deadline]
  | takeToken (e : ExchangeId) {role : Role} (deadline : Option Nat)
    (token : x.token.get role = true) :
    Work c x e (.waiting e role deadline) (x.setToken role false) [.woken e role]
  | giveUp (e : ExchangeId) {role : Role} (deadline : Option Nat)
    (waits : x.waiting.get role = true) (empty : x.token.get role = false) :
    Work c x e (.waiting e role deadline) (x.setWaiting role false) []
  | waitOn (e : ExchangeId) {role : Role} (deadline : Option Nat)
    (claimed : x.waiting.get role = false) :
    Work c x e (.waiting e role deadline) x [.waiting e role none]
  | woken (e : ExchangeId) (role : Role) : Work c x e (.woken e role) { x with role } []
  | dispatch (s : SlotId) (e : ExchangeId) : Work c x e (.dispatch s e) x [.accept s e]
  | accept (s : SlotId) (e : ExchangeId) (allowed : x.checkSend s = .ok ()) :
    Work c x e (.accept s e) (x.sentBy s)
      [.sent ⟨s, e, x.source.isNone, x.status.isTerminal, x.role⟩]
  | sent (h : Hop) : Work c x h.exchange (.sent h) x [.route h]
  | ended {h : Hop} (terminal : h.terminal = true) :
    Work c x h.exchange (.routed h) x [.release h.exchange]
  | sendBack {h : Hop} {err : RouterError} (first : h.first = true) :
    Work c x h.exchange (.lost h err) (x.returned err)
      [.hand h.sender h.exchange, .release h.exchange]
  | strandWaiter {h : Hop} {err : RouterError} (later : h.first = false)
    (waits : x.waiting.get h.role = true) :
    Work c x h.exchange (.lost h err) (x.stranded h.role err)
      [.wake h.exchange h.role, .release h.exchange]
  | strand {h : Hop} {err : RouterError} (later : h.first = false)
    (free : x.waiting.get h.role = false) :
    Work c x h.exchange (.lost h err) (x.stranded h.role err) [.release h.exchange]
  | release (e : ExchangeId) : Work c x e (.release e) { x with released := true } []
  | wake (e : ExchangeId) (role : Role) : Work c x e (.wake e role) (x.setToken role true) []
  /- Routing. -/
  | searches {h : Hop} {target : Reference} {candidates : List SlotId}
    (turn : x.role = .consumer) (unpinned : x.destination = none) :
    Work c x h.exchange (.route h) x [.offer h target candidates none]
  | goesTo {h : Hop} {s : SlotId} (known : x.role = .consumer ∧ x.destination = some s ∨
      x.role = .provider ∧ x.source = some s) :
    Work c x h.exchange (.route h) x [.routeTo h s]
  | loses {f : Frame} {h : Hop} (err : RouterError) (hop : f.hop? = some h) :
    Work c x h.exchange f x [.lost h err]
  | passesOver (h : Hop) (target : Reference) (candidates rest : List SlotId)
    (denied denied' : Option String) :
    Work c x h.exchange (.offer h target candidates denied) x [.offer h target rest denied']
  | considers (h : Hop) (target : Reference) (s : SlotId) (candidates rest : List SlotId)
    (denied : Option String) :
    Work c x h.exchange (.offer h target candidates denied) x [.offered h target s rest denied]
  | pins {h : Hop} {s : SlotId} {g : Frame} (target : Reference) (rest : List SlotId)
    (denied : Option String) (carrier : g.isCarrier s h = true) :
    Work c x h.exchange (.offered h target s rest denied) { x with destination := some s }
      [g, .routed h]
  | noFlow (h : Hop) (target : Reference) (s : SlotId) (rest : List SlotId)
    (denied : Option String) :
    Work c x h.exchange (.offered h target s rest denied) x [.offer h target rest denied]
  | seeks (h : Hop) (s : SlotId) : Work c x h.exchange (.routeTo h s) x [.reaching h s]
  | reaches {h : Hop} {s : SlotId} {g : Frame} (carrier : g.isCarrier s h = true) :
    Work c x h.exchange (.reaching h s) x [g, .routed h]
  /- Deliveries. -/
  | deliver (s : SlotId) (e : ExchangeId) (alive : c.alive = true) :
    Work c x e (.deliver s e) x [.hand s e]
  | notDelivered (s : SlotId) (e : ExchangeId) (gone : c.alive = false) :
    Work c x e (.deliver s e) x []
  | answers (s : SlotId) (e : ExchangeId) (waits : x.waiting.get x.role.opposite = true) :
    Work c x e (.hand s e) x.answered [.wake e x.role.opposite]
  | turnsOver (s : SlotId) (e : ExchangeId) (busy : x.waiting.get x.role.opposite = false) :
    Work c x e (.hand s e) x [.process s e]
  | process (s : SlotId) (e : ExchangeId) :
    Work c x e (.process s e) x.turned [.enter s e x.sends]
  | enters (s : SlotId) (e : ExchangeId) (sends : Nat) :
    Work c x e (.enter s e sends) x [.handle s e sends]
  | fails (s : SlotId) {e : ExchangeId} {sends : Nat} (f : Failure)
    (failed : c.reply = .failed f) (unsent : x.sends = sends)
    (arrived : x.inTransit = false) (active : x.status = .active) :
    Work c x e (.handle s e sends) (x.fail f) [.dispatch s e]

/-- A turn in the life of an exchange: what a deed makes of its state and of the duties about
it. -/
inductive Turn (tame : Bool) (e : ExchangeId) :
    Deed → Exchange → Multiset Frame → Exchange → Multiset Frame → Prop
  | idle {d : Deed} {x : Exchange} {D : Multiset Frame} (idle : d.mayIdle = true) :
    Turn tame e d x D x D
  | elsewhere {c : Context} {f : Frame} {x : Exchange} {D : Multiset Frame}
    (other : f.subject ≠ some e) : Turn tame e (.work c f) x D x D
  | elsewhereAnswer {c : Call} {refused : Bool} {x : Exchange} {D : Multiset Frame}
    (other : (Frame.call c).subject ≠ some e) : Turn tame e (.answer c refused) x D x D
  | work {c : Context} {f : Frame} {x x' : Exchange} {fs : List Frame} {N : Multiset Frame}
    (work : Work c x e f x' fs) (paired : Paired N) :
    Turn tame e (.work c f) x (f ::ₘ N) x' (fs + N)
  | send {x : Exchange} {D : Multiset Frame} (s : SlotId) :
    Turn tame e .other x D x (.send s e ::ₘ D)
  | sendSync {x : Exchange} {D : Multiset Frame} (s : SlotId) (timeout : Option Nat) :
    Turn tame e .other x D x (.sendSync s e timeout ::ₘ D)
  | deliver {x : Exchange} {D : Multiset Frame} (s : SlotId) (wild : tame = false) :
    Turn tame e .other x D x (.deliver s e ::ₘ D)
  | delivers {x : Exchange} {h : Hop} (name : String) (s : SlotId) (N : Multiset Frame)
    (same : h.exchange = e) :
    Turn tame e .other x (.call (.carry name h s false) ::ₘ N) x
      (.deliver s e ::ₘ .call (.carry name h s true) ::ₘ N)
  | answer {x : Exchange} {h : Hop} (name : String) (s : SlotId) (delivered : Bool)
    (N : Multiset Frame) (same : h.exchange = e) :
    Turn tame e (.answer (.carry name h s delivered) false) x
      (.call (.carry name h s delivered) ::ₘ N) x N
  | refuse {x : Exchange} {h : Hop} {delivered : Bool} (name : String) (s : SlotId)
    (err : RouterError) (N : Multiset Frame) (same : h.exchange = e)
    (undelivered : tame = true → delivered = false) :
    Turn tame e (.answer (.carry name h s delivered) true) x
      (.call (.carry name h s delivered) ::ₘ .routed h ::ₘ N) x (.lost h err ::ₘ N)
  | create {D : Multiset Frame} (p : Pattern) :
    Turn tame e .other default D { pattern := p } D
  | change {x x' : Exchange} {D : Multiset Frame} (c : Exchange.Change)
    (changed : x.change c = .ok x') : Turn tame e .other x D x' D

namespace Frame

theorem subject_carryFrame (f : Flow) (h : Hop) (s : SlotId) :
    (carryFrame f h s).subject = some h.exchange := by
  obtain hf | ⟨name, hf⟩ := eq_of_isCarrier (isCarrier_carryFrame f h s) <;> rw [hf] <;> rfl

/-- What is read off frames, but not of those that carry an exchange. -/
theorem filterMap_carryFrame {α : Type} {read : Frame → Option α} {f : Flow} {h : Hop} {s : SlotId}
    (straight : read (.deliver s h.exchange) = none)
    (custom : ∀ name, read (.call (.carry name h s false)) = none)
    (routed : read (.routed h) = none) : [carryFrame f h s, .routed h].filterMap read = [] := by
  have carries : read (carryFrame f h s) = none := by
    obtain hf | ⟨name, hf⟩ := eq_of_isCarrier (isCarrier_carryFrame f h s)
    · rw [hf, straight]
    · rw [hf, custom]
  rw [List.filterMap_cons_none carries, List.filterMap_cons_none routed, List.filterMap_nil]

theorem filter_carryFrame (f : Flow) (h : Hop) (s : SlotId) (e : ExchangeId) :
    [carryFrame f h s, .routed h].filter (isAbout e) =
      if h.exchange = e then [carryFrame f h s, .routed h] else [] := by
  have hc : (carryFrame f h s).isAbout e = (Frame.routed h).isAbout e := by
    rw [isAbout, subject_carryFrame]
    rfl
  by_cases he : h.exchange = e
  · have hr : (Frame.routed h).isAbout e = true := by simp [isAbout, subject, he]
    rw [if_pos he, List.filter_cons_of_pos (hc.trans hr), List.filter_cons_of_pos hr,
      List.filter_nil]
  · have hr : ¬(Frame.routed h).isAbout e = true := by simp [isAbout, subject, he]
    rw [if_neg he, List.filter_cons_of_neg (hc ▸ hr), List.filter_cons_of_neg hr,
      List.filter_nil]

variable {c : Context} {r : Router} {f : Frame} {o : Outcome} {e : ExchangeId}

/-- What a step does to the exchange that the frame is about. -/
theorem Becomes.work (b : Becomes c r f o) (ready : f.pending c.reply = f)
    (hf : f.subject = some e) :
    Work c (r.exchange e) e f ((o.router r).exchange e) (o.frames.filter (isAbout e)) := by
  cases b
  case' pins | reaches => rw [Outcome.frames, filter_carryFrame]
  all_goals simp only [subject, Option.some.injEq, reduceCtorEq] at hf
  all_goals
    subst hf
    simp only [Outcome.router, Outcome.frames, isAbout, subject, List.filter_cons, List.filter_nil,
      beq_iff_eq, if_true, reduceCtorEq, if_false, Router.exchange_setExchange_self,
      Router.exchange_setSlot]
  case send => exact .send ..
  case sendSync => exact .sendSync ..
  case mark active => exact .mark _ _ _ active
  case unmark err refused => exact .unmark _ _ _ (by rw [refused]; rfl)
  case wait sent => exact .wait _ _ _ _ sent
  case takeToken token => exact .takeToken _ _ token
  case giveUp waits empty => exact .giveUp _ _ waits empty
  case waitOn claimed =>
    rw [Exchange.setWaiting_of_eq claimed]
    exact .waitOn _ _ claimed
  case woken => exact .woken ..
  case dispatch => exact .dispatch ..
  case accept r' accepted =>
    obtain ⟨allowed, ⟨-, rfl⟩ | ⟨-, -, rfl⟩⟩ := Router.accept_ok accepted
    all_goals
      rw [Router.exchange_setExchange_self]
      exact .accept _ _ allowed
  case notAccepted r' err refused =>
    obtain rfl | ⟨-, rfl⟩ := Router.accept_error refused <;> exact .ends rfl rfl
  case sent => exact .sent _
  case refused err refused =>
    rw [refused] at ready
    cases ready
  case ended carried terminal => exact .ended terminal
  case passed carried going => exact .ends rfl (by simp only [mayEnd, going, Bool.not_false])
  case sendBack first => exact .sendBack first
  case strandWaiter later waits => exact .strandWaiter later waits
  case strand later free => exact .strand later free
  case release =>
    rw [Router.exchange_releasePins, if_pos rfl]
    exact .release _
  case wake => exact .wake ..
  case searches turn unpinned asked => exact .searches turn unpinned
  case goesTo known => exact .goesTo known
  case noWay | noCandidate | gone | noFlowBack => exact .loses _ rfl
  case passesOver => exact .passesOver ..
  case considers => exact .considers ..
  case pins r' f pinned =>
    obtain ⟨-, rfl⟩ := Router.pin_ok pinned
    rw [Router.exchange_setExchange_self]
    exact .pins _ _ _ (isCarrier_carryFrame ..)
  case cannotPin r' retired =>
    obtain ⟨-, rfl⟩ := Router.pin_error retired
    exact .noFlow ..
  case noFlow => exact .noFlow ..
  case seeks => exact .seeks ..
  case reaches => exact .reaches (isCarrier_carryFrame ..)
  case deliver alive => exact .deliver _ _ alive
  case notDelivered gone => exact .notDelivered _ _ gone
  case answers waits => exact .answers _ _ waits
  case turnsOver busy | leaves lane busy =>
    rw [Exchange.setWaiting_of_eq busy]
    exact .turnsOver _ _ busy
  case process => exact .process ..
  case calls | notPosted => exact .enters ..
  case fails f failed unsent arrived active => exact .fails _ f failed unsent arrived active
  all_goals exact .ends rfl rfl

/-- A step does nothing to any other exchange. -/
theorem Becomes.elsewhere (b : Becomes c r f o) (hf : f.subject ≠ some e) :
    (o.router r).exchange e = r.exchange e ∧ o.frames.filter (isAbout e) = [] := by
  have hne : ∀ e', some e' = f.subject → e' ≠ e := fun e' h he => hf (he ▸ h.symm)
  cases b
  case' pins | reaches => rw [Outcome.frames, filter_carryFrame]
  all_goals
    simp only [Outcome.router, Outcome.frames, isAbout, subject, List.filter_cons,
      List.filter_nil, beq_iff_eq, reduceCtorEq, if_false, and_true, Router.exchange_setSlot,
      Option.some.injEq, forall_eq] at hne ⊢
  all_goals try simp only [if_neg hne, and_true, Router.exchange_setExchange_ne hne]
  case accept r' accepted =>
    obtain ⟨-, ⟨-, rfl⟩ | ⟨-, -, rfl⟩⟩ := Router.accept_ok accepted
    · exact Router.exchange_setExchange_ne hne
    · exact Router.exchange_setExchange_ne hne
  case notAccepted r' err refused =>
    obtain rfl | ⟨-, rfl⟩ := Router.accept_error refused <;> rfl
  case release => rw [Router.exchange_releasePins, if_neg hne]
  case pins r' f pinned =>
    obtain ⟨-, rfl⟩ := Router.pin_ok pinned
    exact Router.exchange_setExchange_ne hne
  case cannotPin r' retired =>
    obtain ⟨-, rfl⟩ := Router.pin_error retired
    rfl
  case reserves unknown reserved => exact Router.exchange_reserve reserved
  case unregisters removed => exact Router.exchange_unregister removed
  all_goals rfl

end Frame

namespace Operation

/-- An operation closes, empties or retires slots, but only a change gets at an exchange that was
there before. -/
theorem turn_apply (o : Operation) (alive tame : Bool) (r : Router) (e : ExchangeId)
    (D : Multiset Frame) :
    Turn tame e .other (r.exchange e) D ((o.apply alive r).exchange e) D := by
  have same {r' : Router} (h : r'.exchange e = r.exchange e) :
      Turn tame e .other (r.exchange e) D (r'.exchange e) D := h ▸ .idle rfl
  have closeIn (s : SlotId) (r : Router) : (closeIn alive s r).exchange e = r.exchange e := by
    unfold closeIn Router.closeChannel
    split
    · split <;> rfl
    · rfl
  cases o with
  | create p =>
    simp only [apply, Router.exchange_addExchange]
    split
    · rename_i he
      rw [Router.exchange_of_size_le he.ge]
      exact .create p
    · exact .idle rfl
  | change e' c =>
    simp only [apply, Router.change]
    split
    · rename_i x hx
      by_cases he : e' = e
      · subst he
        rw [Router.exchange_setExchange_self]
        exact .change c hx
      · exact same (Router.exchange_setExchange_ne he)
    · exact .idle rfl
  | close s => exact same (closeIn s r)
  | abandon s =>
    simp only [apply]
    split
    · exact same (closeIn s _)
    · exact .idle rfl
  | take s =>
    simp only [apply]
    split
    · exact same rfl
    · exact .idle rfl
  | _ => exact .idle rfl

end Operation

theorem Paired.filter {N : Multiset Frame} (h : Paired N) (e : ExchangeId) :
    Paired (N.filter fun f => f.isAbout e) := by
  intro name hop s delivered hmem
  obtain ⟨hN, he⟩ := Multiset.mem_filter.1 hmem
  exact Multiset.mem_filter.2 ⟨h name hop s delivered hN, he⟩

/-- An effect is a turn for every exchange. -/
theorem Effect.turn {tame : Bool} {d : Deed} {r r' : Router} {D D' : Multiset Frame}
    (h : Effect tame d r D r' D') (e : ExchangeId) :
    Turn tame e d (r.exchange e) (D.filter fun f => f.isAbout e) (r'.exchange e)
      (D'.filter fun f => f.isAbout e) := by
  have cons (f : Frame) (N : Multiset Frame) : (f ::ₘ N).filter (fun f => f.isAbout e) =
      if f.subject = some e then f ::ₘ N.filter (fun f => f.isAbout e)
      else N.filter (fun f => f.isAbout e) := by
    rw [Multiset.filter_cons]
    simp only [Frame.isAbout, beq_iff_eq]
    split
    · rw [Multiset.singleton_add]
    · rw [zero_add]
  cases h with
  | idle idle => exact .idle idle
  | @work c r f o N step ready paired =>
    rw [Multiset.filter_add, Multiset.filter_coe, cons]
    by_cases hf : f.subject = some e
    · rw [if_pos hf]
      simpa only [Bool.decide_eq_true] using Turn.work (step.work ready hf) (paired.filter e)
    · obtain ⟨hx, hfs⟩ := step.elsewhere hf
      rw [if_neg hf, hx]
      simp only [Bool.decide_eq_true, hfs, Multiset.coe_nil, zero_add]
      exact .elsewhere hf
  | @request r D f request other =>
    rw [cons]
    split
    · rename_i hf
      cases f with
      | send s e' => exact Option.some.inj hf ▸ .send s
      | sendSync s e' timeout => exact Option.some.inj hf ▸ .sendSync s timeout
      | deliver s e' => exact absurd rfl (other s e')
      | register | unregister | receive => cases hf
      | _ => cases request
    · exact .idle rfl
  | deliver s e' wild =>
    simp only [cons, Frame.subject, Option.some.injEq]
    split
    · rename_i he
      subst he
      exact .deliver s wild
    · exact .idle rfl
  | delivers name h s N =>
    simp only [cons, Frame.subject, Option.some.injEq]
    split
    · rename_i he
      subst he
      exact .delivers name s _ rfl
    · exact .idle rfl
  | @answer r c refused N carried =>
    rw [cons]
    by_cases hc : (Frame.call c).subject = some e
    · rw [if_pos hc]
      cases c with
      | carry name h s delivered =>
        cases carried rfl
        exact .answer name s delivered _ (Option.some.inj hc)
      | _ => cases hc
    · rw [if_neg hc]
      exact .elsewhereAnswer hc
  | @refuse r name s delivered h err N undelivered =>
    simp only [cons, Frame.subject, Option.some.injEq]
    split
    · rename_i he
      subst he
      exact .refuse name s err _ rfl undelivered
    · rename_i he
      exact .elsewhereAnswer (by simpa [Frame.subject] using he)
  | operate o alive => exact o.turn_apply alive tame r e _
  | fork =>
    rw [cons, if_neg (by simp [Frame.subject])]
    exact .idle rfl

namespace Machine

variable {m m' : Machine} {mv : Move}

/-- A move of a machine is a turn for every exchange. -/
theorem turn_of_move {tame : Bool} (hs : m.Stacked) (ht : tame = true → m.isTame mv = true)
    (hm : m.move? mv = some m') (e : ExchangeId) :
    Turn tame e (m.deed mv) (m.router.exchange e) (m.dutiesFor e) (m'.router.exchange e)
      (m'.dutiesFor e) :=
  (effect_of_move hs ht hm).turn e

@[simp] theorem dutiesFor_ofRouter (r : Router) (e : ExchangeId) :
    (ofRouter r).dutiesFor e = 0 := rfl

end Machine

/-! ## Whole paths -/

/-- A property of an exchange, its duties and the history that every turn keeps holds all along
a path. -/
theorem Path.turns {P : History → Exchange → Multiset Frame → Prop} {m₀ m : Machine} {h : History}
    {tame : Bool} (e : ExchangeId) (p : Path m₀ h m) (hs : m₀.Stacked)
    (ht : tame = true → Tame h) (start : P [] (m₀.router.exchange e) (m₀.dutiesFor e))
    (turn : ∀ h (m m' : Machine) mv, P h (m.router.exchange e) (m.dutiesFor e) →
      m.move? mv = some m' →
      Turn tame e (m.deed mv) (m.router.exchange e) (m.dutiesFor e) (m'.router.exchange e)
        (m'.dutiesFor e) → P ((m, mv) :: h) (m'.router.exchange e) (m'.dutiesFor e)) :
    P h (m.router.exchange e) (m.dutiesFor e) := by
  induction p with
  | nil => exact start
  | cons p hm ih =>
    have hstacked := p.induct hs fun _ _ _ hs hm => hs.move hm
    exact turn _ _ _ _ (ih fun h => fun q hq => ht h q (List.mem_cons_of_mem _ hq)) hm
      (Machine.turn_of_move hstacked (fun h => ht h _ List.mem_cons_self) hm e)

/-- All exchanges of a new router are as good as new. -/
theorem exchange_start {config : Config} {r : Router} (h : Router.start config = .ok r)
    (e : ExchangeId) : r.exchange e = default := by
  rw [Router.eq_of_start h]
  rfl

/-- A property of an exchange and its duties that every turn keeps holds in every run. -/
theorem Run.turns {P : Exchange → Multiset Frame → Prop} {config : Config} {h : History}
    {m : Machine} (run : Run config h m) (e : ExchangeId) {tame : Bool}
    (ht : tame = true → Tame h) (start : P default 0)
    (turn : ∀ d x D x' D', P x D → Turn tame e d x D x' D' → P x' D') :
    P (m.router.exchange e) (m.dutiesFor e) := by
  obtain ⟨r, hr, p⟩ := run
  refine p.turns (P := fun _ => P) e (Machine.stacked_ofRouter r) ht ?_
    fun _ _ _ _ hP _ t => turn _ _ _ _ _ hP t
  rw [Machine.dutiesFor_ofRouter, Machine.ofRouter, exchange_start hr]
  exact start

end MessageRouter.Engine
