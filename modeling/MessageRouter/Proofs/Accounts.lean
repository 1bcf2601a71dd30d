import MessageRouter.Proofs.Pins
import MessageRouter.Proofs.Script
import MessageRouter.Proofs.Tasks

/-!
# Slots in the course of a run

What the ledger of a router means for those who use it: a slot is there as long as an exchange
needs it, and no longer.  An exchange that is over is released when the dispatch that ended it is
through, so at rest the router has no slots but those of endpoints and clients.
-/

namespace MessageRouter.Engine

namespace Frame

variable {c : Context} {r : Router} {f : Frame} {o : Outcome} {e : ExchangeId}

/-- Only a dispatch ends an exchange, and it leaves itself a frame to release it. -/
theorem Becomes.completes (b : Becomes c r f o) (going : (r.exchange e).completed = false)
    (ended : ((o.router r).exchange e).completed = true) :
    f.dispatches = true ∧ ∃ fs g, o.above = fs ++ [g] ∧ g.closes = true ∧ g.isAbout e = true := by
  by_cases hf : f.subject = some e
  · cases b
    all_goals simp only [subject, Option.some.injEq, reduceCtorEq] at hf
    all_goals
      subst hf
      simp only [Outcome.router, Router.exchange_setExchange_self, Router.exchange_setSlot,
        Exchange.setWaiting, Exchange.setToken, Exchange.answered, Exchange.turned,
        Exchange.fail, going, Bool.false_eq_true] at ended
    case accept s e' r' accepted =>
      obtain ⟨allowed, ⟨-, rfl⟩ | ⟨-, -, rfl⟩⟩ := Router.accept_ok accepted
      all_goals
        rw [Router.exchange_setExchange_self] at ended
        exact ⟨rfl, [_], _, rfl, ended, beq_self_eq_true _⟩
    case sendBack => exact ⟨rfl, [_, _], _, rfl, rfl, beq_self_eq_true _⟩
    case strandWaiter => exact ⟨rfl, [_, _], _, rfl, rfl, beq_self_eq_true _⟩
    case strand => exact ⟨rfl, [_], _, rfl, rfl, beq_self_eq_true _⟩
    case notAccepted r' err refused =>
      obtain rfl | ⟨-, rfl⟩ := Router.accept_error refused
      · rw [going] at ended
        cases ended
      · rw [Router.exchange_setSlot, going] at ended
        cases ended
    case release =>
      rw [Router.exchange_releasePins, if_pos rfl] at ended
      rw [going] at ended
      cases ended
    case pins r' fl pinned =>
      obtain ⟨-, rfl⟩ := Router.pin_ok pinned
      rw [Router.exchange_setExchange_self, going] at ended
      cases ended
    case cannotPin r' retired =>
      obtain ⟨-, rfl⟩ := Router.pin_error retired
      rw [Router.exchange_setSlot, going] at ended
      cases ended
    all_goals
      have : (r.exchange _).completed = true := ended
      rw [going] at this
      cases this
  · rw [(b.elsewhere hf).1, going] at ended
    cases ended

/-- A dispatch that has an exchange to release has that still to do after a step, or has done
it. -/
theorem Becomes.closes (b : Becomes c r f o) (hf : f.closes = true) (about : f.isAbout e = true) :
    o.above = [] ∧ ((o.router r).exchange e).released = true ∨
      ∃ fs g, o.above = fs ++ [g] ∧ g.closes = true ∧ g.isAbout e = true := by
  cases b
  case release e' =>
    have : e' = e := Option.some.inj (beq_iff_eq.1 about)
    exact .inl ⟨rfl, by rw [Outcome.router, Router.exchange_releasePins, if_pos this]⟩
  case passed carried going =>
    rw [closes, going] at hf
    cases hf
  case sendBack | strandWaiter => exact .inr ⟨[_, _], .release _, rfl, rfl, about⟩
  case strand => exact .inr ⟨[_], .release _, rfl, rfl, about⟩
  case pins | reaches => exact .inr ⟨[_], .routed _, rfl, hf, about⟩
  case seeks | considers => exact .inr ⟨[_], _, rfl, hf, about⟩
  case ended => exact .inr ⟨[], _, rfl, rfl, about⟩
  case sent | searches | goesTo | noWay | noCandidate | passesOver | cannotPin | noFlow | gone |
      noFlowBack | refused =>
    all_goals exact .inr ⟨[], _, rfl, hf, about⟩
  -- no other frame has anything to release
  all_goals cases hf

end Frame

/-- An exchange stays released. -/
theorem Turn.released {tame : Bool} {e : ExchangeId} {d : Deed} {x x' : Exchange}
    {D D' : Multiset Frame} (t : Turn tame e d x D x' D') (h : x.released = true) :
    x'.released = true := by
  cases t with
  | work w =>
    cases w with
    | strandWaiter later waits | strand later free =>
      all_goals exact (x.released_stranded ..).trans h
    | release => rfl
    | _ => exact h
  | change c changed => rw [(Exchange.change_ok changed).1.released, h]
  | create p => cases h
  | _ => exact h

/-- Nobody but a task at work ends an exchange. -/
theorem Turn.completed_of_other {tame : Bool} {e : ExchangeId} {x x' : Exchange}
    {D D' : Multiset Frame} (t : Turn tame e .other x D x' D') : x'.completed = x.completed := by
  cases t with
  | change c changed => exact (Exchange.change_ok changed).1.completed
  | _ => rfl

namespace Machine

variable {m m' : Machine} {mv : Move} {t n : Nat} {e : ExchangeId}

/-- On a task a dispatch under way has `n` frames below it, and it will release an exchange. -/
def WillRelease (m : Machine) (t n : Nat) (e : ExchangeId) : Prop :=
  ∃ above f rest, (m.task t).frames = above ++ f :: rest ∧ rest.length = n ∧
    f.closes = true ∧ f.isAbout e = true

theorem WillRelease.lt_length (h : m.WillRelease t n e) : n < (m.task t).frames.length := by
  obtain ⟨above, f, rest, hf, rfl, -⟩ := h
  rw [hf, List.length_append, List.length_cons]
  omega

theorem WillRelease.of_frames {above rest : List Frame} (h : ∃ fs g, above = fs ++ [g] ∧
    g.closes = true ∧ g.isAbout e = true) (hf : (m.task t).frames = above ++ rest) :
    m.WillRelease t rest.length e := by
  obtain ⟨fs, g, rfl, hg⟩ := h
  exact ⟨fs, g, rest, by rw [hf, List.append_assoc]; rfl, rfl, hg⟩

/-- A dispatch keeps in mind that it has an exchange to release until it has done so. -/
theorem WillRelease.move (h : m.WillRelease t n e) (hm : m.move? mv = some m') :
    (m'.router.exchange e).released = true ∨ m'.WillRelease t n e := by
  have hlt : t < m.tasks.size := lt_size_of_frames fun hnil => by
    have := h.lt_length
    rw [hnil] at this
    cases this
  obtain ⟨above, f, rest, hf, rfl, hcloses, habout⟩ := h
  rcases touches_of_move hm hlt with ⟨hsame, -⟩ | touches
  · exact .inr ⟨above, f, rest, hsame ▸ hf, rfl, hcloses, habout⟩
  · cases touches with
    | @advance g rest' o hframes b =>
      rw [hf] at hframes
      cases above with
      | nil =>
        obtain ⟨rfl, rfl⟩ := List.cons.inj hframes
        refine (b.closes hcloses habout).imp (fun ⟨_, hr⟩ => ?_) fun hg =>
          .of_frames hg (frames_settle b)
        cases o with
        | blocked => cases b
        | _ => exact hr
      | cons a above =>
        obtain ⟨rfl, rfl⟩ := List.cons.inj hframes
        exact .inr ⟨o.above ++ above, f, rest,
          (frames_settle b).trans (List.append_assoc ..).symm, rfl, hcloses, habout⟩
    | @request g c rest' hframes request =>
      rw [hf] at hframes
      cases above with
      | nil =>
        obtain ⟨rfl, rfl⟩ := List.cons.inj hframes
        cases hcloses
      | cons a above =>
        refine .inr ⟨g :: g.note a :: above, f, rest, ?_, rfl, hcloses, habout⟩
        rw [Machine.request, task_setTask_self, hf]
        rfl
    | @answer c rest' reply hframes =>
      rw [hf] at hframes
      cases above with
      | nil =>
        obtain ⟨rfl, rfl⟩ := List.cons.inj hframes
        cases hcloses
      | cons a above =>
        refine .inr ⟨above, f, rest, ?_, rfl, hcloses, habout⟩
        rw [finish, task_setTask_self, hf]
        rfl

theorem released_of_move (hm : m.move? mv = some m') (hs : m.Stacked)
    (h : (m.router.exchange e).released = true) : (m'.router.exchange e).released = true := by
  have turn : Turn false e _ _ _ _ _ := turn_of_move hs (fun h => by cases h) hm e
  exact turn.released h

/-- What has to be released is released when the stack is down to where the dispatch began. -/
theorem WillRelease.path {h : History} (will : m.WillRelease t n e) (hs : m.Stacked)
    (p : Path m h m') : (m'.router.exchange e).released = true ∨ m'.WillRelease t n e := by
  induction p with
  | nil => exact .inr will
  | cons p hm ih =>
    have hstacked := p.induct hs fun _ _ _ hs hm => hs.move hm
    rcases ih with hr | hw
    · exact .inl (released_of_move hm hstacked hr)
    · exact hw.move hm

/-- Whatever ends an exchange is a dispatch, and the exchange is released when it has returned. -/
theorem released_of_return (hs : m.Stacked) (hm : m.move? mv = some m')
    (going : (m.router.exchange e).completed = false)
    (ended : (m'.router.exchange e).completed = true) :
    ∃ t f rest, mv = .advance t ∧ (m.task t).frames = f :: rest ∧ f.dispatches = true ∧
      ∀ h m'', Path m' h m'' → (m''.task t).frames.length ≤ rest.length →
        (m''.router.exchange e).released = true := by
  cases mv with
  | advance t =>
    obtain ⟨f, rest, o, hf, b, rfl⟩ := exists_becomes hm
    rw [router_settle b] at ended
    obtain ⟨hd, hg⟩ := b.completes going ended
    refine ⟨t, f, rest, rfl, hf, hd, fun h m'' p hlen => ?_⟩
    have will : (m.settle t rest o).WillRelease t rest.length e :=
      .of_frames hg (frames_settle b)
    rcases will.path (hs.move hm) p with hr | hw
    · exact hr
    · exact absurd hw.lt_length (by omega)
  | operate o =>
    cases hm
    have turn : Turn false e .other _ 0 _ 0 := o.turn_apply m.routerAlive false m.router e 0
    exact absurd (going.symm.trans (turn.completed_of_other.symm.trans ended)) Bool.false_ne_true
  | request t f =>
    obtain ⟨-, rfl⟩ := request_of_move hm
    exact absurd (going.symm.trans ended) Bool.false_ne_true
  | answer t reply =>
    obtain ⟨-, rfl⟩ := finish_of_move hm
    exact absurd (going.symm.trans ended) Bool.false_ne_true
  | fork | elapse duration =>
    all_goals
      cases hm
      exact absurd (going.symm.trans ended) Bool.false_ne_true

/-! ## The accounts of a machine -/

/-- What the users of a router rely on when slots come and go. -/
structure KeepsAccounts (m : Machine) : Prop where
  /-- A slot counts the unreleased exchanges that name it as their source or destination. -/
  counted : ∀ s, (m.router.slot s).inFlight = m.router.pins s
  /-- So there is something to take off its count when one of them is released. -/
  enough : ∀ e s, (m.router.exchange e).released = false →
    (m.router.exchange e).ends.count s ≤ (m.router.slot s).inFlight
  /-- A slot is there as long as an unreleased exchange names it. -/
  present : ∀ e, ∀ s ∈ (m.router.exchange e).ends, (m.router.exchange e).released = false →
    m.router.isPresent s = true
  /-- In particular no hop finds that the slot it goes to is missing. -/
  reachable : ∀ t h s, .routeTo h s ∈ (m.task t).frames → m.router.isPresent s = true
  /-- A retired slot has left when nothing unreleased names it. -/
  gone : ∀ s, (m.router.slot s).retired = true → m.router.pins s = 0 →
    m.router.isPresent s = false
  /-- Only exchanges that are over are released. -/
  released : ∀ e, (m.router.exchange e).released = true → (m.router.exchange e).completed = true
  /-- It is a dispatch that ends an exchange, which is released when the dispatch has returned. -/
  returned : ∀ mv m' e, m.move? mv = some m' → (m.router.exchange e).completed = false →
    (m'.router.exchange e).completed = true →
    ∃ t f rest, mv = .advance t ∧ (m.task t).frames = f :: rest ∧ f.dispatches = true ∧
      ∀ h m'', Path m' h m'' → (m''.task t).frames.length ≤ rest.length →
        (m''.router.exchange e).released = true
  /-- When all that has been sent is over, only endpoints and clients have slots. -/
  slots : m.Calm →
    (∀ e, (m.router.exchange e).source.isSome = true → (m.router.exchange e).completed = true) →
    m.router.slotCount = m.router.registry.endpoints.size + m.router.openClients

end Machine

variable {config : Config} {h : History} {m : Machine}

/-- When all that has been sent is over and no dispatch is in progress, nothing is counted. -/
theorem Run.pins_eq_zero (run : Run config h m) (tame : Tame h) (calm : m.Calm)
    (ended : ∀ e, (m.router.exchange e).source.isSome = true →
      (m.router.exchange e).completed = true) (s : SlotId) : m.router.pins s = 0 := by
  have free (x : ExchangeId) : (m.router.exchange x).pinsOn s = 0 := by
    have sound := run.sound tame x
    by_cases hr : (m.router.exchange x).released = true
    · exact Exchange.pinsOn_of_released hr s
    · have hr := eq_false_of_ne_true hr
      have hsource : (m.router.exchange x).source = none := by
        by_contra hne
        have hc := ended x (Option.isSome_iff_ne_none.2 hne)
        have := sound.closing
        rw [calm.closes x, hc, hr] at this
        cases this
      have hdestination : (m.router.exchange x).destination = none := by
        by_contra hne
        have := sound.started (Option.isSome_iff_ne_none.2 hne)
        rw [hsource] at this
        cases this
      rw [Exchange.pinsOn_of_not_released hr, Exchange.ends, hsource, hdestination]
      rfl
  rw [Router.pins_eq_sum]
  refine List.sum_eq_zero fun n hn => ?_
  obtain ⟨x, hx, rfl⟩ := List.mem_map.1 hn
  obtain ⟨i, hi, rfl⟩ := List.mem_iff_getElem.1 hx
  have := free ⟨i⟩
  rwa [Router.exchange, Table.get, List.getD_eq_getElem?_getD, List.getElem?_eq_getElem hi] at this

/-- In every tame run slots come and go as the users of the router rely on. -/
theorem Run.keepsAccounts (run : Run config h m) (tame : Tame h) : m.KeepsAccounts := by
  have ledger := (run.accounted tame).ledger
  constructor
  case counted => exact ledger.counted
  case enough => exact fun e s hr => ledger.count_ends_le hr s
  case present => exact fun e s hs hr => ledger.isPresent_of_mem_ends hr hs
  case reachable =>
    intro t hop s hf
    have sound := run.sound tame hop.exchange
    have hmem : .routeTo hop s ∈ m.dutiesFor hop.exchange :=
      Multiset.mem_filter.2 ⟨Machine.mem_duties hf (fun _ h => by cases h), beq_self_eq_true _⟩
    have hr := (sound.aloft _ hmem hop rfl).2.1
    refine ledger.isPresent_of_mem_ends hr ?_
    rcases sound.bound _ hmem s (beq_self_eq_true s) with hs | hs <;> simp [Exchange.ends, hs]
  case gone => exact fun s hr hp => ledger.isPresent_of_retired hr hp
  case released => exact fun e => (run.sound tame e).released
  case returned =>
    exact fun mv m' e hm going ended => Machine.released_of_return run.stacked hm going ended
  case slots => exact fun calm ended => ledger.slotCount (run.pins_eq_zero tame calm ended)

/-- The exchange is sent through the client's channel and comes back done. -/
def Cue.oneWay : List Cue :=
  asking .inOnly ++ [operate (.change ⟨0⟩ (.status .done)), request 1 (.send ⟨0⟩ ⟨0⟩), runs 1]

theorem Run.keepsAccounts_oneWay : ∃ h m, Run {} h m ∧ Tame h ∧
    (m.router.exchange ⟨0⟩).released = true ∧ m.router.slotCount = 2 ∧ m.KeepsAccounts := by
  obtain ⟨h, m, p, hq⟩ := Path.exists_of_enact .usual Cue.oneWay
    (fun p => p.1.all (fun q => q.1.isTame q.2) && (p.2.router.exchange ⟨0⟩).released &&
      p.2.router.slotCount == 2) (by rfl)
  simp only [Bool.and_eq_true, beq_iff_eq, List.all_eq_true] at hq
  obtain ⟨⟨tame, hr⟩, hs⟩ := hq
  exact ⟨h, m, p.run, tame, hr, hs, p.run.keepsAccounts tame⟩

end MessageRouter.Engine
