import MessageRouter.Proofs.Selection
import MessageRouter.Proofs.Shutdown
import MessageRouter.Proofs.SlotChanges
import MessageRouter.Proofs.StraightHops

/-!
# Closed channels

A channel that has been closed stays closed, whatever is registered, given up or reclaimed later
(`Run.closed_for_good`): sends through it are refused, and no search that comes upon its slot later
chooses it.  A search that is asking flows about the slot when its channel is closed may still
choose it, and an exchange that names the slot goes on to be handed to it.
-/

namespace MessageRouter

namespace Slot

variable {slot slot' : Slot}

/-- The channel of a slot is closed, or the slot has left the router. -/
def IsShut (slot : Slot) : Prop :=
  slot.closed = true ∨ slot.retired = true ∧ slot.present = false

/-- A closed channel stays closed, and a slot that has left the router does not come back. -/
structure Wanes (slot slot' : Slot) : Prop where
  closed : slot.closed = true → slot'.closed = true
  gone : slot.retired = true ∧ slot.present = false →
    slot'.retired = true ∧ slot'.present = false

theorem Wanes.isShut (wanes : slot.Wanes slot') (shut : slot.IsShut) : slot'.IsShut :=
  shut.imp wanes.closed wanes.gone

theorem wanes_reap (slot : Slot) : slot.Wanes slot.reap := by
  unfold reap
  split
  · exact ⟨id, fun h => ⟨h.1, rfl⟩⟩
  · exact ⟨id, id⟩

theorem wanes_retire (slot : Slot) : slot.Wanes slot.retire := by
  have reap := wanes_reap { slot with retired := true }
  exact ⟨reap.closed, fun h => reap.gone ⟨rfl, h.2⟩⟩

theorem lasting_wanes : Lasting Wanes where
  refl _ := ⟨id, id⟩
  trans h h' := ⟨h'.closed ∘ h.closed, h'.gone ∘ h.gone⟩
  added _ := by
    constructor
    · intro h
      cases h
    · intro h
      cases h.1
  counts _ _ := ⟨id, id⟩
  reap := wanes_reap
  closes slot := by
    split
    · exact ⟨fun _ => (wanes_retire slot.close).closed rfl, (wanes_retire slot.close).gone⟩
    · exact ⟨fun _ => rfl, id⟩
  mail _ _ _ := ⟨id, id⟩

theorem IsShut.isAvailable (shut : slot.IsShut) : slot.isAvailable = false := by
  rcases shut with closed | ⟨retired, -⟩
  · simp [Slot.isAvailable, closed]
  · simp [Slot.isAvailable, retired]

end Slot

namespace Engine

namespace Frame

variable {c : Context} {r : Router} {f g : Frame} {o : Outcome} {e : ExchangeId} {s : SlotId}

/-- No step opens a channel that is closed or brings back a slot that has left. -/
theorem Becomes.wanes (b : Becomes c r f o) (s : SlotId) :
    (r.slot s).Wanes ((o.router r).slot s) := by
  by_cases hf : f.registers = true
  · have lasting := Slot.lasting_wanes
    cases b with
    | registered =>
      refine Router.Relates.setSlot lasting ?_ s
      exact ⟨id, id⟩
    | reserves unknown reserved =>
      cases reserved
      exact Router.Relates.addSlot lasting s
    | confirms | notConfirmed | notRegistered => all_goals exact lasting.refl _
    | unregisters removed =>
      obtain ⟨g, registry, -, rfl, rfl⟩ := Router.unregister_eq_some.1 removed
      exact Router.Relates.setSlot (r := { r with registry }) lasting (Slot.wanes_retire _) s
    | _ => cases hf
  · exact b.relates Slot.lasting_wanes (eq_false_of_ne_true hf) s

/-- A search asks flows only about slots that are available. -/
theorem Becomes.isAvailable_of_offered (b : Becomes c r f o) (hg : g ∈ o.frames)
    (ho : g.offered? = some (e, s)) : (r.slot s).isAvailable = true := by
  have mem : (e, s) ∈ o.frames.filterMap offered? := List.mem_filterMap.2 ⟨g, hg, ho⟩
  cases b with
  | considers authorization available =>
    simp only [Outcome.frames, List.filterMap_cons, offered?, List.filterMap_nil,
      List.mem_singleton, Prod.mk.injEq] at mem
    exact mem.2 ▸ available
  | pins | reaches =>
    all_goals
      rw [Outcome.frames, filterMap_carryFrame rfl (fun _ => rfl) rfl] at mem
      cases mem
  | _ => cases mem

theorem checkChannel_error {err : RouterError} (h : checkChannel c r s = .error err) :
    err = if c.alive then .channelClosed s.text else .routerShutdown := by
  unfold checkChannel at h
  cases hp : r.isPresent s <;> cases ha : c.alive <;> simp_all

end Frame

namespace Machine

variable {m m' : Machine} {mv : Move} {e : ExchangeId} {s : SlotId} {h : History}

theorem wanes_of_move (hm : m.move? mv = some m') (s : SlotId) :
    (m.router.slot s).Wanes (m'.router.slot s) := by
  rcases router_of_move hm with same | ⟨o, applied⟩ | ⟨c, f, o, b, stepped⟩
  · rw [same]
    exact Slot.lasting_wanes.refl _
  · rw [applied]
    exact o.relates Slot.lasting_wanes m.routerAlive m.router s
  · rw [stepped]
    exact b.wanes s

/-! ## Channels that are shut -/

/-- A channel is of no use any more: it has been closed, or the router is gone. -/
def IsShut (m : Machine) (s : SlotId) : Prop := m.routerAlive = false ∨ (m.router.slot s).IsShut

theorem IsShut.move (shut : m.IsShut s) (hm : m.move? mv = some m')
    (entitled : Entitled ((m, mv) :: h)) : m'.IsShut s :=
  shut.imp (gone_of_move hm entitled) (wanes_of_move hm s).isShut

theorem IsShut.path (shut : m.IsShut s) (p : Path m h m') (entitled : Entitled h) :
    m'.IsShut s := by
  induction p with
  | nil => exact shut
  | cons p hm ih => exact (ih entitled.tail).move hm entitled

theorem IsShut.isClosed (shut : m.IsShut s) :
    m.routerAlive = false ∨ m.router.isClosed s = true := by
  refine shut.imp_right fun shut => ?_
  unfold Router.isClosed Router.isPresent
  rcases shut with closed | ⟨-, absent⟩
  · rw [closed, Bool.or_true]
  · rw [absent]
    rfl

/-- A slot that is still there can only be shut by its channel. -/
theorem IsShut.closed (shut : m.IsShut s) (alive : m.routerAlive = true)
    (present : m.router.isPresent s = true) : (m.router.slot s).closed = true := by
  rcases shut with gone | closed | ⟨-, absent⟩
  · cases gone.symm.trans alive
  · exact closed
  · cases absent.symm.trans present

/-- A channel that is closed is shut. -/
theorem isShut_of_close {config : Config} (run : Run config h m) (tame : Tame h)
    (known : s ∈ m.router.allSlots) (hm : m.move? (.operate (.close s)) = some m') :
    m'.IsShut s := by
  cases hm
  unfold IsShut
  simp only [Operation.apply, Operation.closeIn]
  by_cases alive : m.routerAlive = true
  · right
    rw [if_pos alive, Router.closeChannel]
    split
    · rw [Router.modifySlot, Router.slot_setSlot, if_pos rfl]
      left
      split
      · exact (Slot.wanes_retire _).closed rfl
      · rfl
    · rename_i absent
      obtain ⟨i, hi, rfl⟩ := List.mem_map.1 known
      have accounts := (run.accounted tame).ledger.slots ⟨i⟩ (List.mem_range.1 hi)
      have absent := eq_false_of_ne_true absent
      exact .inr ⟨(accounts.reaped.1 absent).1, absent⟩
  · left
    rw [if_neg alive]
    exact eq_false_of_ne_true alive

end Machine

/-! ## Sends that are refused -/

/-- A move of a task. -/
def Move.isOf (t : Nat) : Move → Bool
  | .advance u => u == t
  | _ => false

/-- How many steps a task has taken. -/
def stepsOf (t : Nat) (h : History) : Nat := h.countP fun q => q.2.isOf t

/-- The error with which a send through a closed channel fails. -/
def Machine.closedError (m : Machine) (s : SlotId) : RouterError :=
  if m.routerAlive then .channelClosed s.text else .routerShutdown

/-- The frames of a send through a closed channel that has `n` steps at most to go until it has been
refused. -/
inductive Rebuff (r : Router) (s : SlotId) (e : ExchangeId) (err : RouterError) (reply : Reply) :
    List Frame → Nat → Prop
  | mark (timeout : Option Nat) (closed : (r.slot s).closed = true)
    (why : err = .channelClosed s.text) : Rebuff r s e err reply [.mark s e timeout] 3
  | dispatch {l : List Frame} (closed : (r.slot s).closed = true)
    (why : err = .channelClosed s.text)
    (waits : ∀ f ∈ l, ∃ role timeout, f = .marked e role timeout) :
    Rebuff r s e err reply (.dispatch s e :: l) (l.length + 1)
  | refused {l : List Frame} (refused : reply = .refused err)
    (waits : ∀ f ∈ l, ∃ role timeout, f = .marked e role timeout) :
    Rebuff r s e err reply l l.length

namespace Rebuff

variable {c : Context} {r r' : Router} {s : SlotId} {e : ExchangeId} {err : RouterError}
  {reply : Reply} {f : Frame} {above : List Frame} {n : Nat} {o : Outcome}

theorem congr (rebuff : Rebuff r s e err reply above n)
    (closed : (r.slot s).closed = true → (r'.slot s).closed = true) :
    Rebuff r' s e err reply above n := by
  cases rebuff with
  | mark timeout isClosed why => exact .mark timeout (closed isClosed) why
  | dispatch isClosed why waits => exact .dispatch (closed isClosed) why waits
  | refused refused waits => exact .refused refused waits

/-- With every step of its own such a send comes nearer to being refused. -/
theorem step (rebuff : Rebuff r s e err c.reply (f :: above) n) (b : Frame.Becomes c r f o)
    (active : ∀ timeout, f :: above = [.mark s e timeout] → (r.exchange e).status = .active) :
    ∃ n' < n, Rebuff (o.router r) s e err o.reply (o.above ++ above) n' := by
  cases rebuff with
  | mark timeout closed why =>
    cases b with
    | mark =>
      refine ⟨2, by omega, .dispatch (l := [_]) closed why fun f hf => ?_⟩
      exact ⟨_, _, List.mem_singleton.1 hf⟩
    | notMarked err' ended =>
      rw [active timeout rfl] at ended
      cases ended
  | dispatch closed why waits =>
    cases b with
    | dispatch isOpen => cases isOpen.symm.trans closed
    | closed => exact ⟨above.length, Nat.lt_succ_self _, .refused (by rw [why]; rfl) waits⟩
  | refused refused waits =>
    obtain ⟨role, timeout, rfl⟩ := waits _ List.mem_cons_self
    cases b with
    | unmark err' refused' =>
      refine ⟨above.length, Nat.lt_succ_self _, .refused ?_ fun f hf =>
        waits f (List.mem_cons_of_mem _ hf)⟩
      rw [refused] at refused'
      exact refused'.symm
    | wait deadline sent =>
      rw [refused] at sent
      cases sent

/-- Such a send does not have to wait, and it is not accepted. -/
theorem goesOn (rebuff : Rebuff r s e err c.reply (f :: above) n) :
    f.step c r ≠ .blocked ∧ ∀ s' e', f ≠ .accept s' e' := by
  cases rebuff with
  | mark timeout =>
    refine ⟨?_, fun s' e' h => by cases h⟩
    simp only [Frame.step, Frame.stepMark]
    split <;> simp
  | dispatch =>
    exact ⟨Frame.step_ne_blocked rfl fun c h => (by cases h), fun s' e' h => by cases h⟩
  | refused refused waits =>
    obtain ⟨role, timeout, rfl⟩ := waits _ List.mem_cons_self
    refine ⟨?_, fun s' e' h => by cases h⟩
    simp only [Frame.step, Frame.stepMarked]
    split <;> simp

end Rebuff

/-- A frame with which a send begins. -/
def Frame.begins (s : SlotId) (e : ExchangeId) (f : Frame) : Prop :=
  f = .send s e ∨ ∃ timeout, f = .sendSync s e timeout

/-- How far a task has come with a send through a closed channel. -/
inductive Rebuffed (t : Nat) (f : Frame) (s : SlotId) (e : ExchangeId) (below : List Frame)
    (h : History) (m : Machine) : Prop
  | begins (frames : (m.task t).frames = f :: below) (still : stepsOf t h = 0)
  | goesOn {q : Machine × Move} {above : List Frame} {n : Nat}
    (frames : (m.task t).frames = above ++ below) (looked : q ∈ h)
    (comes : q.1.ComesTo t f below.length q.2)
    (rebuff : Rebuff m.router s e (q.1.closedError s) (m.task t).reply above n)
    (steps : stepsOf t h + n ≤ 4)

section

variable {m m' : Machine} {mv : Move} {h : History} {t : Nat} {f : Frame} {s : SlotId}
  {e : ExchangeId} {below : List Frame}

theorem stepsOf_cons_of_ne (hne : mv ≠ .advance t) : stepsOf t ((m, mv) :: h) = stepsOf t h := by
  refine List.countP_cons_of_neg fun own => hne ?_
  cases mv with
  | advance u => rw [beq_iff_eq.1 own]
  | _ => cases own

theorem stepsOf_advance : stepsOf t ((m, .advance t) :: h) = stepsOf t h + 1 :=
  List.countP_cons_of_pos (beq_self_eq_true t)

/-- The first look at a channel that is shut tells that it is. -/
theorem Rebuffed.look (hf : f.begins s e) (shut : m.IsShut s)
    (frames : (m.task t).frames = f :: below) {o : Outcome}
    (b : Frame.Becomes ⟨m.routerAlive, m.now, (m.task t).reply⟩ m.router f o) :
    ∃ n ≤ 3, Rebuff (o.router m.router) s e (m.closedError s) o.reply o.above n := by
  have usable {c : Context} (hc : c.alive = m.routerAlive)
      (hu : Frame.checkChannel c m.router s = .ok ()) :
      (m.router.slot s).closed = true ∧ m.closedError s = .channelClosed s.text := by
    obtain ⟨alive, present⟩ := Frame.checkChannel_ok.1 hu
    rw [hc] at alive
    exact ⟨shut.closed alive present, if_pos alive⟩
  rcases hf with rfl | ⟨timeout, rfl⟩
  · cases b with
    | send hu =>
      obtain ⟨closed, why⟩ := usable rfl hu
      exact ⟨1, by omega, .dispatch (l := []) closed why fun f hf => by cases hf⟩
    | notSent hu =>
      refine ⟨0, by omega, .refused (l := []) ?_ fun f hf => by cases hf⟩
      rw [Frame.checkChannel_error hu]
      rfl
  · cases b with
    | sendSync hu =>
      obtain ⟨closed, why⟩ := usable rfl hu
      exact ⟨3, le_rfl, .mark timeout closed why⟩
    | notSentSync hu =>
      refine ⟨0, by omega, .refused (l := []) ?_ fun f hf => by cases hf⟩
      rw [Frame.checkChannel_error hu]
      rfl

theorem Rebuffed.move (hf : f.begins s e) (rebuffed : Rebuffed t f s e below h m)
    (hm : m.move? mv = some m') (shut : m.IsShut s)
    (under : below.length < (m.task t).frames.length)
    (active : ∀ timeout, m.ComesTo t (.mark s e timeout) below.length mv →
      (m.router.exchange e).status = .active) :
    Rebuffed t f s e below ((m, mv) :: h) m' := by
  cases rebuffed with
  | begins frames still =>
    have call : ∀ c, f ≠ .call c := by
      rintro c rfl
      rcases hf with hf | ⟨timeout, hf⟩ <;> cases hf
    rcases Machine.work_of_move hm frames call with
      ⟨same, other⟩ | ⟨rfl, o, b, frames', reply', router'⟩
    · exact .begins (same ▸ frames) ((stepsOf_cons_of_ne other).trans still)
    · obtain ⟨n, hn, rebuff⟩ := Rebuffed.look hf shut frames b
      refine .goesOn frames' List.mem_cons_self ⟨rfl, below, frames, rfl⟩
        (router' ▸ reply' ▸ rebuff) ?_
      rw [stepsOf_advance, still]
      omega
  | @goesOn q above n frames looked comes rebuff steps =>
    cases above with
    | nil => exact absurd under (by rw [frames]; exact Nat.lt_irrefl _)
    | cons g above =>
      have call : ∀ c, g ≠ .call c := by
        rintro c rfl
        exact Rebuff.goesOn (c := ⟨m.routerAlive, m.now, (m.task t).reply⟩) rebuff |>.1 rfl
      rcases Machine.work_of_move hm frames call with
        ⟨same, other⟩ | ⟨rfl, o, b, frames', reply', router'⟩
      · refine .goesOn (same ▸ frames) (List.mem_cons_of_mem _ looked) comes ?_
          ((stepsOf_cons_of_ne other).symm ▸ steps)
        rw [same]
        exact rebuff.congr (Machine.wanes_of_move hm s).closed
      · obtain ⟨n', hn, rebuff'⟩ := Rebuff.step rebuff b fun timeout hg =>
          active timeout ⟨rfl, below, by rw [frames, hg]; rfl, rfl⟩
        refine .goesOn (frames'.trans (List.append_assoc ..).symm) (List.mem_cons_of_mem _ looked)
          comes (router' ▸ reply' ▸ rebuff') ?_
        rw [stepsOf_advance]
        omega

/-- A send on its way to being refused is not accepted, and its task can go on. -/
theorem Rebuffed.unaccepted (hf : f.begins s e) (rebuffed : Rebuffed t f s e below h m)
    (under : below.length < (m.task t).frames.length) :
    (∀ mv, ¬m.Accepts t s e mv) ∧ stepsOf t h < 4 ∧ (m.move? (.advance t)).isSome = true := by
  have go {g : Frame} {rest : List Frame} (frames : (m.task t).frames = g :: rest)
      (ready : g.step ⟨m.routerAlive, m.now, (m.task t).reply⟩ m.router ≠ .blocked)
      (other : ∀ s' e', g ≠ .accept s' e') :
      (∀ mv, ¬m.Accepts t s e mv) ∧ (m.move? (.advance t)).isSome = true := by
    refine ⟨fun mv => Machine.not_accepts_of_frames frames fun ⟨_, hg, _⟩ => other s e hg, ?_⟩
    rw [Machine.advance_of_step frames rfl ready]
    rfl
  cases rebuffed with
  | begins frames still =>
    obtain ⟨unaccepted, ready⟩ := go frames
      (by rcases hf with rfl | ⟨timeout, rfl⟩ <;> simp only [Frame.step] <;> split <;> simp)
      (by rcases hf with rfl | ⟨timeout, rfl⟩ <;> exact fun s' e' h => by cases h)
    exact ⟨unaccepted, by omega, ready⟩
  | @goesOn q above n frames looked comes rebuff steps =>
    cases above with
    | nil => exact absurd under (by rw [frames]; exact Nat.lt_irrefl _)
    | cons g above =>
      obtain ⟨ready, other⟩ := Rebuff.goesOn (c := ⟨m.routerAlive, m.now, (m.task t).reply⟩) rebuff
      obtain ⟨unaccepted, ready⟩ := go frames ready other
      refine ⟨unaccepted, ?_, ready⟩
      have : 0 < n := by cases rebuff <;> simp
      omega

end

/-- Every send that begins at a channel of a slot is refused: it comes back after at most four
steps of its task, none of which has to wait, with the error that the channel is closed, or that the
router is gone if it was when the send looked at the channel.  A send that waits for the other
party must find the exchange active when it gets past the look. -/
def Machine.RefusesSends (m : Machine) (s : SlotId) : Prop :=
  ∀ t f e below, (m.task t).frames = f :: below → f.begins s e → ∀ h m', Path m h m' →
    Entitled h → (∀ q ∈ h, below.length < (q.1.task t).frames.length) →
    (∀ q ∈ h, ∀ timeout, q.1.ComesTo t (.mark s e timeout) below.length q.2 →
      (q.1.router.exchange e).status = .active) →
    (∀ q ∈ h, ¬q.1.Accepts t s e q.2) ∧
    (below.length < (m'.task t).frames.length →
      stepsOf t h < 4 ∧ (m'.move? (.advance t)).isSome = true) ∧
    ((m'.task t).frames.length ≤ below.length → (m'.task t).frames = below ∧
      ∃ q ∈ h, q.1.ComesTo t f below.length q.2 ∧
        (m'.task t).reply = .refused (q.1.closedError s))

theorem Machine.IsShut.refusesSends {m : Machine} {s : SlotId} (shut : m.IsShut s) :
    m.RefusesSends s := by
  intro t f e below frames hf h m' p entitled under active
  have rebuffed : Rebuffed t f s e below h m' ∧ ∀ q ∈ h, ¬q.1.Accepts t s e q.2 := by
    induction p with
    | nil => exact ⟨.begins frames rfl, fun q hq => by cases hq⟩
    | cons p hm ih =>
      obtain ⟨rebuffed, unaccepted⟩ := ih entitled.tail
        (fun q hq => under q (List.mem_cons_of_mem _ hq))
        fun q hq => active q (List.mem_cons_of_mem _ hq)
      have under := under _ List.mem_cons_self
      exact ⟨rebuffed.move hf hm (shut.path p entitled.tail) under (active _ List.mem_cons_self),
        List.forall_mem_cons.2 ⟨(rebuffed.unaccepted hf under).1 _, unaccepted⟩⟩
  obtain ⟨rebuffed, unaccepted⟩ := rebuffed
  refine ⟨unaccepted, fun under => (rebuffed.unaccepted hf under).2, fun through => ?_⟩
  cases rebuffed with
  | begins frames =>
    rw [frames] at through
    exact absurd through (Nat.not_succ_le_self _)
  | @goesOn q above n frames looked comes rebuff steps =>
    obtain rfl : above = [] := by
      rw [frames, List.length_append] at through
      exact List.eq_nil_of_length_eq_zero (by omega)
    cases rebuff with
    | refused refused => exact ⟨frames, q, looked, comes, refused⟩

/-! ## Searches -/

namespace Machine

variable {m m' m₁ : Machine} {mv : Move} {e : ExchangeId} {s : SlotId} {h h₀ : History}
  {config : Config}

/-- A search is asking flows whether they take an exchange to a slot. -/
def Considers (m : Machine) (e : ExchangeId) (s : SlotId) : Prop :=
  ∃ t, ∃ f ∈ (m.task t).frames, f.offered? = some (e, s)

/-- No search comes to consider a slot whose channel is shut. -/
theorem considers_of_move (hm : m.move? mv = some m') (shut : m.IsShut s)
    (entitled : Entitled ((m, mv) :: h)) (considers : m'.Considers e s) : m.Considers e s := by
  have offered {f : Frame} (ho : f.offered? = some (e, s)) : f.holdsRouter = true := by
    cases f <;> first | rfl | cases ho
  by_contra before
  obtain ⟨t, f, hf, ho⟩ := considers
  rcases shut with gone | shut
  · cases (gone_of_move hm entitled gone).symm.trans (routerAlive_of_mem hf (offered ho))
  · refine each_of_move (P := fun f => f.offered? ≠ some (e, s)) hm
      (fun t f hf ho => before ⟨t, f, hf, ho⟩) (fun c ho => by cases ho) ?_ ?_ t f hf ho
    · rintro t f rest o - b g hg ho
      cases shut.isAvailable.symm.trans (b.isAvailable_of_offered hg ho)
    · rintro t f - request ho
      cases f with
      | offered => cases request
      | _ => cases ho

theorem considers_of_path (shut : m.IsShut s) (p : Path m h m') (entitled : Entitled h)
    (considers : m'.Considers e s) : m.Considers e s := by
  induction p with
  | nil => exact considers
  | cons p hm ih =>
    exact ih entitled.tail
      (considers_of_move hm (shut.path p entitled.tail) entitled considers)

/-- A slot whose channel is shut becomes a destination only by a search that was considering it
when the channel was shut. -/
theorem destination_of_shut (run : Run config h₀ m) (shut : m.IsShut s) (p : Path m h m')
    (entitled : Entitled h) (found : (m'.router.exchange e).destination = some s) :
    (m.router.exchange e).destination = some s ∨ m.Considers e s := by
  induction p with
  | nil => exact .inl found
  | cons p hm ih =>
    have turn : Turn false e _ _ _ _ _ :=
      turn_of_move (run.append p).stacked (fun h => by cases h) hm e
    rcases turn.destination with same | ⟨c, hop, target, s', rest, denied, -, duty, he, hs⟩
    · exact ih entitled.tail (same ▸ found)
    · obtain rfl : s' = s := Option.some.inj (hs.symm.trans found)
      refine .inr (considers_of_path shut p entitled.tail ?_)
      obtain ⟨t, hf | ⟨h, err, hl, -⟩⟩ := exists_frame_of_mem (Multiset.mem_of_mem_filter duty)
      · exact ⟨t, _, hf, by rw [Frame.offered?, he]⟩
      · cases hl

end Machine

/-- A send that is accepted and goes to a slot, as that of the other party, is handed over there, if
it is carried straight through and no party that has waited takes the exchange back while it is on
its way.  Until then its task is at work, so it is handed over before its dispatch returns. -/
def Machine.HandsTo (m : Machine) (s : SlotId) : Prop :=
  ∀ t e a m₁ below, (m.task t).frames = .accept a.sender e :: below →
    m.accepted? e (.advance t) = some a → m.move? (.advance t) = some m₁ →
    a.state.counterpart = some s → ∀ h m', Path m₁ h m' → Tame h →
    LeftInTransit e (a.state.sends + 1) h → CarriedStraight t below.length s h →
      HandsOver t (below.length + 1) e s a.state.role.opposite h ∨ m'.IsAtWork t below.length

/-- What holds at any time after the channel of a slot was closed in a machine `m₁`. -/
structure Machine.ClosedSince (m₁ m : Machine) (s : SlotId) : Prop where
  isClosed : m.routerAlive = false ∨ m.router.isClosed s = true
  refuses : m.RefusesSends s
  chosen : ∀ e, (m.router.exchange e).destination = some s →
    (m₁.router.exchange e).destination = some s ∨ m₁.Considers e s
  hands : m.HandsTo s

/-- A channel that has been closed stays closed, whatever happens later.  Sends through it are
refused, and no search chooses its slot but those that were considering it at the time; and yet
whatever is sent to the slot by the other party of an exchange is handed over. -/
theorem Run.closed_for_good {config : Config} {h₀ h : History} {m₀ m₁ m : Machine} {s : SlotId}
    (run : Run config h₀ m₀) (known : s ∈ m₀.router.allSlots)
    (close : m₀.move? (.operate (.close s)) = some m₁) (p : Path m₁ h m)
    (tame : Tame (h ++ (m₀, .operate (.close s)) :: h₀)) (entitled : Entitled h) :
    m₁.ClosedSince m s := by
  have tame₀ : Tame h₀ := fun q hq =>
    tame q (List.mem_append_right _ (List.mem_cons_of_mem _ hq))
  have shut := Machine.isShut_of_close run tame₀ known close
  have run₁ : Run config ((m₀, .operate (.close s)) :: h₀) m₁ := run.append (.cons .nil close)
  have later := shut.path p entitled
  refine ⟨later.isClosed, later.refusesSends, fun e found =>
    Machine.destination_of_shut run₁ shut p entitled found, ?_⟩
  intro t e a m₂ below frames accepted hm toward h' m' p' tame' left straight
  refine (run₁.append p).arrives hm frames accepted toward p' (fun q hq => ?_) left straight
  rcases List.mem_append.1 hq with hq | hq
  · exact tame' q hq
  · rcases List.mem_cons.1 hq with rfl | hq
    · rfl
    · exact tame q hq

/-! ## Closing at work -/

/-- A task is not about to carry an exchange, or it carries it straight through. -/
def Machine.isStraight (m : Machine) (t : Nat) : Bool :=
  match (m.task t).frames, (m.task t).reply with
  | .reaching .. :: _, .chosen (some fl) => fl.kind == .straightThrough
  | .reaching .. :: _, _ => false
  | _, _ => true

theorem carriedStraight_of_isStraight {t n : Nat} {s : SlotId} {h : History}
    (hh : ∀ q ∈ h, q.1.isStraight t = true) : CarriedStraight t n s h := by
  rintro q hq hop ⟨-, below, frames, -⟩
  have := hh q hq
  unfold Machine.isStraight at this
  rw [frames] at this
  split at this
  · rename_i fl _ reply
    exact ⟨fl, reply, beq_iff_eq.1 this⟩
  · cases this
  · rename_i other _
    exact absurd rfl (other _ _ _)

/-- The channel of a slot is closed in a tame run, which goes on after that. -/
structure ClosesIn (s : SlotId) (h₀ h : History) (m₀ m₁ m : Machine) : Prop where
  run : Run {} h₀ m₀
  known : s ∈ m₀.router.allSlots
  close : m₀.move? (.operate (.close s)) = some m₁
  path : Path m₁ h m
  tame : Tame (h ++ (m₀, .operate (.close s)) :: h₀)
  entitled : Entitled h

theorem exists_closesIn (s : SlotId) (before after : List Cue) (q : Machine → Machine → Bool)
    (hq : (Machine.usual.enact [] before).any (fun p =>
      p.1.all (fun q => q.1.isTame q.2) && p.2.router.allSlots.contains s &&
        (p.2.move? (.operate (.close s))).any fun m₁ => (m₁.enact [] after).any fun p' =>
          p'.1.all (fun q => q.1.isTame q.2 && q.1.isEntitled q.2) && q m₁ p'.2) = true) :
    ∃ h₀ h m₀ m₁ m, ClosesIn s h₀ h m₀ m₁ m ∧ q m₁ m = true := by
  obtain ⟨h₀, m₀, p₀, hq⟩ := Path.exists_of_enact _ _ _ hq
  simp only [Bool.and_eq_true, List.all_eq_true, List.contains_iff_mem,
    Option.any_eq_true_iff_get] at hq
  obtain ⟨⟨tame₀, known⟩, some₁, hq⟩ := hq
  obtain ⟨h, m, p, hq⟩ := Path.exists_of_enact _ _ (fun p' : History × Machine =>
    p'.1.all (fun q => q.1.isTame q.2 && q.1.isEntitled q.2) && q _ p'.2)
    (by simpa only [Option.any_eq_true_iff_get, Bool.and_eq_true, List.all_eq_true] using hq)
  simp only [Bool.and_eq_true, List.all_eq_true] at hq
  obtain ⟨each, hq⟩ := hq
  refine ⟨h₀, h, m₀, _, m, ⟨p₀.run, known, (Option.some_get some₁).symm, p, fun q hq => ?_,
    fun q hq => (each q hq).2⟩, hq⟩
  rcases List.mem_append.1 hq with hq | hq
  · exact (each q hq).1
  · rcases List.mem_cons.1 hq with rfl | hq
    · rfl
    · exact tame₀ q hq

/-- The client is about to send another exchange, and the answer of the endpoint to be accepted. -/
def Cue.exchanges : List Cue :=
  [operate (.create .inOut), request 0 (.send ⟨1⟩ ⟨1⟩),
    operate (.change ⟨0⟩ (.message .output default)), request 1 (.send ⟨0⟩ ⟨0⟩),
    halts 1 .accepts]

/-- A send is about to be accepted that goes to a slot. -/
def Machine.sendsTo (m : Machine) (t n : Nat) (e : ExchangeId) (s : SlotId) : Bool :=
  match m.accepted? e (.advance t) with
  | some a => a.state.counterpart == some s && m.stands t n fun f => match f with
    | .accept s' e' => s' == a.sender && e' == e
    | _ => false
  | none => false

theorem Machine.exists_of_sendsTo {m : Machine} {t n : Nat} {e : ExchangeId} {s : SlotId}
    (h : m.sendsTo t n e s = true) :
    ∃ a below, m.accepted? e (.advance t) = some a ∧ a.state.counterpart = some s ∧
      (m.task t).frames = .accept a.sender e :: below ∧ below.length = n := by
  unfold sendsTo at h
  split at h
  · rename_i a accepted
    obtain ⟨counterpart, stands⟩ := Bool.and_eq_true_iff.1 h
    obtain ⟨f, below, frames, hn, hf⟩ := frames_of_stands stands
    split at hf
    · obtain ⟨hs, he⟩ := Bool.and_eq_true_iff.1 hf
      obtain rfl := beq_iff_eq.1 hs
      obtain rfl := beq_iff_eq.1 he
      exact ⟨a, below, accepted, beq_iff_eq.1 counterpart, frames, hn⟩
    · cases hf
  · cases h

/-- The exchange is to be sent from the slot. -/
def Frame.isSend (s : SlotId) (e : ExchangeId) : Frame → Bool
  | .send s' e' => s' == s && e' == e
  | _ => false

theorem Frame.eq_of_isSend {s : SlotId} {e : ExchangeId} {f : Frame} (h : f.isSend s e = true) :
    f = .send s e := by
  unfold isSend at h
  split at h
  · simp only [Bool.and_eq_true, beq_iff_eq] at h
    obtain ⟨rfl, rfl⟩ := h
    rfl
  · cases h

/-- A client closes its channel while it has sent an exchange: it can send nothing else, but the
answer is handed to it. -/
theorem Run.closed_for_good_answered : ∃ h₀ h m₀ m₁ m, ClosesIn ⟨1⟩ h₀ h m₀ m₁ m ∧
    m₁.ClosedSince m ⟨1⟩ ∧
    (∃ below h' m', (m.task 0).frames = .send ⟨1⟩ ⟨1⟩ :: below ∧ Path m h' m' ∧
      (m'.task 0).frames = below ∧
      (m'.task 0).reply = .refused (.channelClosed (SlotId.text ⟨1⟩))) ∧
    ∃ m₂ h' m', m.move? (.advance 1) = some m₂ ∧ Path m₂ h' m' ∧
      HandsOver 1 3 ⟨0⟩ ⟨1⟩ .consumer h' := by
  obtain ⟨h₀, h, m₀, m₁, m, w, hq⟩ := exists_closesIn ⟨1⟩ (Cue.asking .inOut) Cue.exchanges
    (fun _ m => m.stands 0 1 (Frame.isSend ⟨1⟩ ⟨1⟩) &&
      (m.enact [] [.runs 0]).any (fun p : History × Machine =>
        p.1.all (fun q => q.1.isEntitled q.2 && q.1.routerAlive &&
          (q.1.router.exchange ⟨1⟩).status == .active &&
            decide (1 < (q.1.task 0).frames.length)) &&
          decide ((p.2.task 0).frames.length ≤ 1)) &&
      m.sendsTo 1 2 ⟨0⟩ ⟨1⟩ && (m.router.exchange ⟨0⟩).role == .provider &&
        (m.move? (.advance 1)).any fun m₂ =>
          (m₂.enact [] [.runs 1]).any fun p : History × Machine =>
            p.1.all (fun q => q.1.isTame q.2 && !(q.1.deed q.2).takesBack ⟨0⟩ &&
              q.1.isStraight 1) && decide ((p.2.task 1).frames.length ≤ 2)) (by rfl)
  have closed := Run.closed_for_good w.run w.known w.close w.path w.tame w.entitled
  simp only [Bool.and_eq_true] at hq
  obtain ⟨⟨⟨⟨sends, refused⟩, answers⟩, role⟩, handed⟩ := hq
  refine ⟨h₀, h, m₀, m₁, m, w, closed, ?_, ?_⟩
  · obtain ⟨h', m', p, hq⟩ := Path.exists_of_enact _ _ _ refused
    simp only [Bool.and_eq_true, List.all_eq_true, decide_eq_true_eq, beq_iff_eq] at hq
    obtain ⟨each, through⟩ := hq
    obtain ⟨f, below, frames, hn, hf⟩ := Machine.frames_of_stands sends
    obtain rfl := Frame.eq_of_isSend hf
    obtain ⟨-, -, back⟩ := closed.refuses 0 _ _ below frames (.inl rfl) h' m' p
      (fun q hq => (each q hq).1.1.1) (fun q hq => hn ▸ (each q hq).2)
      (fun q hq _ _ => (each q hq).1.2)
    obtain ⟨frames', q, hq, -, reply⟩ := back (hn ▸ through)
    rw [Machine.closedError, if_pos (each q hq).1.1.2] at reply
    exact ⟨below, h', m', frames, p, frames', reply⟩
  · obtain ⟨a, below, accepted, toward, frames, hn⟩ := Machine.exists_of_sendsTo answers
    obtain ⟨m₂, step, handed⟩ := (Option.any_eq_true ..).1 handed
    obtain ⟨h', m', p, hq⟩ := Path.exists_of_enact _ _ _ handed
    simp only [Bool.and_eq_true, List.all_eq_true, decide_eq_true_eq, Bool.not_eq_true'] at hq
    obtain ⟨each, through⟩ := hq
    have state := (Machine.accepted?_eq_some step accepted).2.1
    have handed := (closed.hands 1 ⟨0⟩ a m₂ below frames accepted step toward h' m' p
      (fun q hq => (each q hq).1.1) (fun q hq _ _ => (each q hq).1.2)
      (carriedStraight_of_isStraight fun q hq => (each q hq).2)).resolve_right fun work =>
        absurd work.1 (Nat.not_lt.2 (hn ▸ through))
    rw [hn, state, beq_iff_eq.1 role] at handed
    exact ⟨m₂, h', m', step, p, handed⟩

/-- A flow is asked whether it takes an exchange to an endpoint. -/
def Cue.considered : List Cue :=
  opening .inOut ++ [operate (.setFlows [⟨some "flow", .custom, ∅⟩]),
    request 0 (.send ⟨1⟩ ⟨0⟩), runs 0]

/-- A slot is chosen after its channel was closed by a search that was asking a flow about it.  And
if an endpoint answers twice, the client takes the exchange back while it is on its way to the
client's channel, which has been closed, and the endpoint gets what it has sent itself. -/
theorem Run.closed_for_good_races :
    (∃ h₀ h m₀ m₁ m, ClosesIn ⟨0⟩ h₀ h m₀ m₁ m ∧
      (m₁.router.exchange ⟨0⟩).destination = none ∧
        (m.router.exchange ⟨0⟩).destination = some ⟨0⟩) ∧
    ∃ h₀ h m₀ m₁ m, ClosesIn ⟨1⟩ h₀ h m₀ m₁ m ∧
      ∃ a below m₂ h' m', m.accepted? ⟨0⟩ (.advance 1) = some a ∧
        a.state.counterpart = some ⟨1⟩ ∧ (m.task 1).frames = .accept a.sender ⟨0⟩ :: below ∧
        m.move? (.advance 1) = some m₂ ∧ Path m₂ h' m' ∧ Tame h' ∧
        (∀ s, CarriedStraight 1 below.length s h') ∧ (m'.task 1).frames.length ≤ below.length ∧
        handings ⟨0⟩ h' = [.calls ⟨0⟩] := by
  constructor
  · obtain ⟨h₀, h, m₀, m₁, m, w, hq⟩ := exists_closesIn ⟨0⟩ Cue.considered
      [.answer 0 (.answer true), .halts 0 .delivers]
      (fun m₁ m => (m₁.router.exchange ⟨0⟩).destination == none &&
        (m.router.exchange ⟨0⟩).destination == some ⟨0⟩) (by rfl)
    simp only [Bool.and_eq_true, beq_iff_eq] at hq
    exact ⟨h₀, h, m₀, m₁, m, w, hq⟩
  · obtain ⟨h₀, h, m₀, m₁, m, w, hq⟩ := exists_closesIn ⟨1⟩ (Cue.awaiting .inOut ++ Cue.answering 1)
      [.request 1 (.send ⟨0⟩ ⟨0⟩), .halts 1 .accepts]
      (fun _ m => m.sendsTo 1 2 ⟨0⟩ ⟨1⟩ && (m.move? (.advance 1)).any fun m₂ =>
        (m₂.enact [] [.runs 0, .runs 1]).any
          fun p : History × Machine => p.1.all (fun q => q.1.isTame q.2 && q.1.isStraight 1) &&
            decide ((p.2.task 1).frames.length ≤ 2) &&
            handings ⟨0⟩ p.1 == [.calls ⟨0⟩]) (by rfl)
    simp only [Bool.and_eq_true] at hq
    obtain ⟨answers, handed⟩ := hq
    obtain ⟨a, below, accepted, toward, frames, hn⟩ := Machine.exists_of_sendsTo answers
    obtain ⟨m₂, step, handed⟩ := (Option.any_eq_true ..).1 handed
    obtain ⟨h', m', p, hq⟩ := Path.exists_of_enact _ _ _ handed
    simp only [Bool.and_eq_true, List.all_eq_true, decide_eq_true_eq, beq_iff_eq] at hq
    obtain ⟨⟨each, through⟩, given⟩ := hq
    exact ⟨h₀, h, m₀, m₁, m, w, a, below, m₂, h', m', accepted, toward, frames, step, p,
      fun q hq => (each q hq).1, fun s => carriedStraight_of_isStraight fun q hq => (each q hq).2,
      hn ▸ through, given⟩

end Engine

end MessageRouter
