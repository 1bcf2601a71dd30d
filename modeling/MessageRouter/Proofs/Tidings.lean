import Mathlib.Algebra.Ring.Nat
import MessageRouter.Proofs.Sends

/-!
# What listeners are told

A task raises an event of an exchange and then tells those one after the other who are listeners
when it begins to do so.  A listener that is one of them every time is told of every event once:
what it has been told, and what it is still to be told, is what has been raised.
-/

namespace MessageRouter.Engine

/-- An endpoint or a client could not take an exchange. -/
def Reply.isFailed : Reply → Bool
  | .failed _ => true
  | _ => false

namespace Deed

variable (event : ExchangeEvent) (e : ExchangeId)

/-- An event is raised in a deed. -/
def raises (r : Router) : Deed → Bool
  | .work _ (.accept s e') => .sent == event && e' == e && (r.accept e' s).1.isOk
  | .work _ (.hand _ e') =>
    .delivered == event && e' == e && (r.exchange e').waiting.get (r.exchange e').role.opposite
  | .work _ (.process _ e') => .delivered == event && e' == e
  | .work _ (.lost h _) => .failed == event && h.exchange == e
  | .work c (.handle _ e' sends) =>
    .failed == event && e' == e && c.reply.isFailed && (r.exchange e').sends == sends &&
      !(r.exchange e').inTransit && (r.exchange e').status == .active
  | _ => false

/-- Somebody finds out in a deed who is to be told of an event. -/
def announces : Deed → Bool
  | .work _ (.announce event' e') => event' == event && e' == e
  | _ => false

/-- A listener is told of an event in a deed. -/
def tells (l : String) : Deed → Bool
  | .work _ (.notify event' e' (l' :: _)) => event' == event && e' == e && l' == l
  | _ => false

end Deed

section

variable (l : String) (event : ExchangeEvent) (e : ExchangeId)

/-- How often an event has been raised. -/
def raised (h : History) : Nat := h.countP fun q => (q.1.deed q.2).raises event e q.1.router

/-- How often a listener has been told of an event. -/
def told (h : History) : Nat := h.countP fun q => (q.1.deed q.2).tells event e l

/-- How often a listener stands among those that are told of an exchange now. -/
def Machine.hearings (m : Machine) : Nat :=
  (Frame.hearing m.router Listener.hearsExchanges).count l

namespace Frame

/-- How often a frame will tell a listener of an event. -/
def tells : Frame → Nat
  | .announce event' e' => (event' == event && e' == e).toNat
  | .notify event' e' ls => if event' == event && e' == e then ls.count l else 0
  | _ => 0

end Frame

/-- How often a listener is still to be told of an event. -/
def toTell (D : Multiset Frame) : Nat := (D.map (Frame.tells l event e)).sum

end

namespace Frame

variable {c : Context} {r : Router} {f : Frame} {o : Outcome} {l : String}
  {event : ExchangeEvent} {e : ExchangeId}

theorem tells_carryFrame (fl : Flow) (h : Hop) (s : SlotId) :
    (carryFrame fl h s).tells l event e = 0 := by
  unfold carryFrame
  split <;> rfl

/-- A step raises an event, or looks up who is to be told of it, or tells somebody. -/
theorem Becomes.tells (b : Becomes c r f o) :
    (o.frames.map (Frame.tells l event e)).sum +
        ((Deed.work c f).tells event e l).toNat + ((Deed.work c f).announces event e).toNat =
      f.tells l event e + ((Deed.work c f).raises event e r).toNat +
        ((Deed.work c f).announces event e).toNat *
          (hearing r Listener.hearsExchanges).count l := by
  cases b
  case pins | reaches =>
    all_goals
      rw [Outcome.frames, List.map_cons, List.sum_cons, tells_carryFrame]
      simp [Frame.tells, Deed.tells, Deed.raises, Deed.announces]
  case announce event' e' =>
    simp only [Outcome.frames, Frame.tells, Deed.tells, Deed.raises, Deed.announces, List.map_cons,
      List.map_nil, List.sum_singleton]
    rcases Bool.eq_false_or_eq_true (event' == event && e' == e) with same | other
    · simp only [same, if_true, Bool.toNat_true, Bool.toNat_false]
      omega
    · simp [other]
  case notify event' e' l' ls =>
    simp only [Outcome.frames, Frame.tells, Deed.tells, Deed.raises, Deed.announces, List.map_cons,
      List.map_nil, List.sum_cons, List.sum_nil, List.count_cons]
    cases event' == event && e' == e <;> cases l' == l <;> simp
  case handled s e' sends settled =>
    have unfailed : (Deed.work c (.handle s e' sends)).raises event e r = false := by
      rcases hc : c.reply <;> simp [Deed.raises, Reply.isFailed, hc]
      exact fun _ _ unsent arrived active => settled _ hc ⟨unsent, arrived, active⟩
    simp [Outcome.frames, Frame.tells, Deed.tells, Deed.announces, unfailed]
  all_goals
    simp [Outcome.frames, Frame.tells, Deed.tells, Deed.raises, Deed.announces, Except.isOk,
      Except.toBool, Reply.isFailed, *]

end Frame

section

variable {l : String} {event : ExchangeEvent} {e : ExchangeId}

@[simp] theorem toTell_cons (f : Frame) (N : Multiset Frame) :
    toTell l event e (f ::ₘ N) = f.tells l event e + toTell l event e N := by
  rw [toTell, Multiset.map_cons, Multiset.sum_cons, toTell]

@[simp] theorem toTell_add (fs : List Frame) (N : Multiset Frame) :
    toTell l event e (fs + N) = (fs.map (Frame.tells l event e)).sum + toTell l event e N := by
  rw [toTell, Multiset.map_add, Multiset.sum_add, Multiset.map_coe, Multiset.sum_coe, toTell]

/-- Nobody but a task at work raises an event or tells a listener. -/
theorem Effect.tells {tame : Bool} {d : Deed} {r r' : Router} {D D' : Multiset Frame}
    (ef : Effect tame d r D r' D') :
    toTell l event e D' + (d.tells event e l).toNat + (d.announces event e).toNat =
      toTell l event e D + (d.raises event e r).toNat +
        (d.announces event e).toNat * (Frame.hearing r Listener.hearsExchanges).count l := by
  cases ef with
  | idle idle =>
    have silent : d.tells event e l = false ∧ d.announces event e = false ∧
        d.raises event e r = false := by
      cases d with
      | work c f => cases f <;> first | exact ⟨rfl, rfl, rfl⟩ | cases idle
      | answer => cases idle
      | other => exact ⟨rfl, rfl, rfl⟩
    simp [silent]
  | work step =>
    have := @Frame.Becomes.tells _ _ _ _ l event e step
    simp only [toTell_add, toTell_cons]
    omega
  | @request r D f request other =>
    have silent : f.tells l event e = 0 := by
      cases f <;> first | rfl | cases request
    simp [silent, Deed.tells, Deed.announces, Deed.raises]
  | _ => simp [Frame.tells, Deed.tells, Deed.announces, Deed.raises]

/-- What a listener has been told of an event, what it is still to be told, and what has been
raised, after another move. -/
theorem Machine.told_of_move {m m' : Machine} {mv : Move} (event : ExchangeEvent) (h : History)
    (hs : m.Stacked) (hm : m.move? mv = some m') :
    told l event e ((m, mv) :: h) + toTell l event e m'.duties + raised event e h +
        ((m.deed mv).announces event e).toNat =
      told l event e h + toTell l event e m.duties + raised event e ((m, mv) :: h) +
        ((m.deed mv).announces event e).toNat * m.hearings l := by
  have effect : Effect false _ _ _ _ _ := effect_of_move hs (fun h => by cases h) hm
  have := @Effect.tells l event e _ _ _ _ _ _ effect
  have cons (b : Bool) : (if b = true then 1 else 0) = b.toNat := by cases b <;> rfl
  simp only [told, raised, List.countP_cons, cons, hearings]
  omega

/-- A listener is among those that are told of an event, every time. -/
def Attends (l : String) (event : ExchangeEvent) (e : ExchangeId) (h : History) : Prop :=
  ∀ q ∈ h, (q.1.deed q.2).announces event e = true → q.1.hearings l = 1

theorem Attends.tail {q : Machine × Move} {h : History} (attends : Attends l event e (q :: h)) :
    Attends l event e h :=
  fun p hp => attends p (List.mem_cons_of_mem q hp)

variable {m₀ m : Machine} {h : History}

/-- A listener that attends has been told of an event as often as it has been raised, but for the
times when it is still to be told. -/
theorem Path.told_eq (p : Path m₀ h m) (hs : m₀.Stacked) (attends : Attends l event e h) :
    told l event e h + toTell l event e m.duties =
      raised event e h + toTell l event e m₀.duties := by
  induction p with
  | nil => rfl
  | @cons h m m' mv p hm ih =>
    have before := ih attends.tail
    have := @Machine.told_of_move l e m m' mv event h
      (p.induct hs fun _ _ _ hs hm => hs.move hm) hm
    have now : ((m.deed mv).announces event e).toNat * m.hearings l =
        ((m.deed mv).announces event e).toNat := by
      cases ha : (m.deed mv).announces event e with
      | true => rw [attends _ List.mem_cons_self ha, Nat.mul_one]
      | false => exact Nat.zero_mul _
    omega

/-- A listener that is never told twice at once is not told of an event more often than it has been
raised. -/
theorem Path.told_le (p : Path m₀ h m) (hs : m₀.Stacked) (once : ∀ q ∈ h, q.1.hearings l ≤ 1) :
    told l event e h + toTell l event e m.duties ≤
      raised event e h + toTell l event e m₀.duties := by
  induction p with
  | nil => exact Nat.le_refl _
  | @cons h m m' mv p hm ih =>
    have before := ih fun q hq => once q (List.mem_cons_of_mem _ hq)
    have := @Machine.told_of_move l e m m' mv event h
      (p.induct hs fun _ _ _ hs hm => hs.move hm) hm
    have := Nat.mul_le_mul_left ((m.deed mv).announces event e).toNat
      (once (m, mv) List.mem_cons_self)
    simp only [Nat.mul_one] at this
    omega

end

/-! ## Listeners that only look on -/

/-- A listener calls nobody back while it is told something. -/
def Machine.observes (m : Machine) : Move → Bool
  | .request t _ =>
    match (m.task t).call? with
    | some (.exchangeEvent ..) | some (.slotEvent ..) => false
    | _ => true
  | _ => true

/-- All listeners only looked on. -/
def Observed (h : History) : Prop := ∀ q ∈ h, q.1.observes q.2

theorem Observed.tail {q : Machine × Move} {h : History} (observed : Observed (q :: h)) :
    Observed h :=
  fun p hp => observed p (List.mem_cons_of_mem q hp)

/-! ## Whoever tells of an event -/

/-- The event that a frame will tell of. -/
def Frame.tidings? : Frame → Option (ExchangeEvent × ExchangeId)
  | .announce event e | .notify event e _ => some (event, e)
  | _ => none

theorem Frame.tidings?_carryFrame (f : Flow) (h : Hop) (s : SlotId) :
    (carryFrame f h s).tidings? = none := by
  unfold carryFrame
  split <;> rfl

/-- Whoever will tell of an event was about to do so before, or the event has just been raised. -/
theorem Frame.Becomes.tidings {c : Context} {r : Router} {f : Frame} {o : Outcome}
    (b : Becomes c r f o) {event : ExchangeEvent} {e : ExchangeId} :
    ∀ g ∈ o.frames, g.tidings? = some (event, e) →
      f.tidings? = some (event, e) ∨ (Deed.work c f).raises event e r = true := by
  cases b
  case pins | reaches =>
    all_goals
      rw [Outcome.frames, List.forall_mem_cons, tidings?_carryFrame]
      simp [tidings?]
  all_goals
    simp [Outcome.frames, tidings?, Deed.raises, Except.isOk, Except.toBool, Reply.isFailed, *]

theorem raised_cons (event : ExchangeEvent) (e : ExchangeId) (m : Machine) (mv : Move)
    (h : History) : raised event e ((m, mv) :: h) =
      raised event e h + ((m.deed mv).raises event e m.router).toNat := by
  rw [raised, raised, List.countP_cons]
  cases (m.deed mv).raises event e m.router <;> rfl

/-- An event has been raised by the time that somebody tells of it. -/
theorem Run.raised_pos {config : Config} {h : History} {m : Machine} (run : Run config h m)
    {f : Frame} (hf : f ∈ m.duties) {event : ExchangeEvent} {e : ExchangeId}
    (tidings : f.tidings? = some (event, e)) : 0 < raised event e h := by
  refine run.traced Frame.tidings? (fun h a => 0 < raised a.1 a.2 h) ?_ (fun c => rfl)
    (fun h err => rfl) ?_ ?_ f hf (event, e) tidings
  · intro f request
    cases f <;> first | rfl | cases request
  · rintro ⟨m, mv⟩ h a raised
    rw [raised_cons]
    omega
  · intro h m mv c f o run hd before b g hg a ha
    have now : (m.deed mv).raises a.1 a.2 m.router = true → 0 < raised a.1 a.2 ((m, mv) :: h) := by
      intro hr
      rw [raised_cons, hr]
      exact Nat.succ_pos _
    rw [hd] at now
    rcases b.tidings g hg ha with telling | raises
    · have := before a telling
      rw [raised_cons]
      omega
    · exact now raises

/-- A listener is told of an event only after it has been raised. -/
theorem Run.raised_of_tells {config : Config} {h : History} {m : Machine} (run : Run config h m)
    {mv : Move} {l : String} {event : ExchangeEvent} {e : ExchangeId}
    (tells : (m.deed mv).tells event e l = true) : 0 < raised event e h := by
  unfold Deed.tells at tells
  split at tells
  · rename_i c event' e' l' ls hd
    simp only [Bool.and_eq_true, beq_iff_eq] at tells
    obtain ⟨⟨rfl, rfl⟩, -⟩ := tells
    obtain ⟨t, rest, -, hf⟩ := Machine.exists_advance hd
    exact run.raised_pos (Machine.mem_duties (hf ▸ List.mem_cons_self) fun _ h => by cases h) rfl
  · cases tells

end MessageRouter.Engine
