import MessageRouter.Proofs.Closing
import MessageRouter.Proofs.Ledger
import MessageRouter.Proofs.Script
import MessageRouter.Proofs.Sends

/-!
# What a send leaves behind

A send that is accepted never ends in a refusal, whatever becomes of the exchange on its way.  One
that is refused leaves the router as it found it, but for one thing: a send that waits is marked
before it is tried, and the mark is taken back also where it stood before.  `Run.send_returns`
says both.
-/

namespace MessageRouter

/-! ## Slots that nobody needs -/

namespace Slot

variable {slot slot' : Slot}

/-- A retired slot that no exchange needs has left the router. -/
def Settled (s : Slot) : Prop := s.retired = true → s.inFlight = 0 → s.present = false

theorem Settled.congr (h : slot.Settled) (retired : slot'.retired = slot.retired)
    (inFlight : slot'.inFlight = slot.inFlight) (present : slot'.present = slot.present) :
    slot'.Settled := by
  unfold Settled
  rw [retired, inFlight, present]
  exact h

theorem Settled.reap_eq (h : slot.Settled) : slot.reap = slot := by
  unfold reap
  split
  · rename_i hr
    rw [← h hr.1 hr.2]
  · rfl

theorem settled_reap : slot.reap.Settled := by
  unfold reap
  split
  · exact fun _ _ => rfl
  · rename_i hr
    exact fun retired none => absurd ⟨retired, none⟩ hr

theorem settled_of_not_retired (h : slot.retired = false) : slot.Settled :=
  fun hr => absurd (h.symm.trans hr) Bool.false_ne_true

theorem settled_pinned : slot.pinned.Settled :=
  fun _ none => absurd none (Nat.succ_ne_zero _)

theorem Settled.post {e : ExchangeId} (h : slot.Settled) (hp : slot.post? e = some slot') :
    slot'.Settled := by
  unfold post? at hp
  split at hp
  · cases hp
    exact h.congr rfl rfl rfl
  · cases hp

theorem Settled.take {e : ExchangeId} (h : slot.Settled) (ht : slot.take? = some (e, slot')) :
    slot'.Settled := by
  unfold take? at ht
  split at ht
  · cases ht
    exact h.congr rfl rfl rfl
  · cases ht

theorem Settled.abandon (h : slot.Settled) : slot.abandon.Settled := by
  unfold Slot.abandon
  split
  · exact h.congr rfl rfl rfl
  · exact h

end Slot

namespace Router

variable {r r' : Router} {e : ExchangeId} {s : SlotId} {slot : Slot} {x y : Exchange}

theorem setExchange_self (h : e.index < r.exchanges.size) :
    r.setExchange e (r.exchange e) = r := by
  rw [setExchange, exchange, Table.set_get_self _ h]

theorem setExchange_setExchange (h : e.index < r.exchanges.size) :
    (r.setExchange e x).setExchange e y = r.setExchange e y := by
  simp only [setExchange, Table.set_set _ h]

/-- All retired slots that no exchange needs have left. -/
def Settled (r : Router) : Prop := ∀ s, (r.slot s).Settled

/-- In a router that is settled a slot that is retired has nothing to be reaped for. -/
theorem Settled.setSlot_reap (h : r.Settled) (retired : (r.slot s).retired = true) :
    r.setSlot s (r.slot s).reap = r := by
  have hs : s.index < r.slots.size := Ledger.index_lt fun hs => by
    rw [hs] at retired
    cases retired
  rw [(h s).reap_eq, setSlot, slot, Table.set_get_self _ hs]

namespace Settled

theorem setSlot (h : r.Settled) (hs : slot.Settled) : (r.setSlot s slot).Settled := by
  intro s'
  rw [slot_setSlot]
  split
  · exact hs
  · exact h s'

theorem addSlot (h : r.Settled) (hs : slot.Settled) : (r.addSlot slot).2.Settled := by
  intro s'
  rw [Ledger.slot_addSlot]
  split
  · exact hs
  · exact h s'

theorem accept {result : Except RouterError Unit} (h : r.Settled)
    (ha : r.accept e s = (result, r')) : r'.Settled := by
  cases result with
  | error err =>
    obtain rfl | ⟨-, rfl⟩ := accept_error ha
    · exact h
    · exact h.setSlot Slot.settled_reap
  | ok =>
    obtain ⟨-, ⟨-, rfl⟩ | ⟨-, -, rfl⟩⟩ := accept_ok ha
    · exact h
    · exact h.setSlot Slot.settled_pinned

theorem pin {b : Bool} (h : r.Settled) (hp : r.pin e s = (b, r')) : r'.Settled := by
  cases b with
  | false =>
    obtain ⟨-, rfl⟩ := pin_error hp
    exact h.setSlot Slot.settled_reap
  | true =>
    obtain ⟨-, rfl⟩ := pin_ok hp
    exact h.setSlot Slot.settled_pinned

theorem foldl_unpin (h : r.Settled) (l : List SlotId) : (l.foldl unpin r).Settled := by
  induction l generalizing r with
  | nil => exact h
  | cons s l ih =>
    refine ih ?_
    unfold unpin
    split
    · exact h.setSlot Slot.settled_reap
    · exact h

theorem releasePins (h : r.Settled) : (r.releasePins e).Settled := by
  by_cases hr : (r.exchange e).released = true
  · rwa [releasePins_of_released hr]
  · rw [releasePins_eq (eq_false_of_ne_true hr)]
    exact foldl_unpin (r := r.setExchange e { r.exchange e with released := true }) h _

theorem closeChannel (h : r.Settled) : (r.closeChannel s).Settled := by
  unfold Router.closeChannel
  split
  · refine h.setSlot ?_
    dsimp only
    split
    · exact Slot.settled_reap
    · exact (h s).congr rfl rfl rfl
  · exact h

theorem unregister {name : String} (h : r.Settled) (hu : r.unregister name = some (s, r')) :
    r'.Settled := by
  obtain ⟨g, registry, -, rfl, rfl⟩ := unregister_eq_some.1 hu
  exact setSlot (r := { r with registry }) h Slot.settled_reap

end Settled

end Router

namespace Engine

namespace Frame

variable {c : Context} {r : Router} {f g : Frame} {o : Outcome} {s : SlotId} {e : ExchangeId}
  {below : List Frame}

theorem Becomes.settled (b : Becomes c r f o) (h : r.Settled) : (o.router r).Settled := by
  cases b
  case accept accepted => exact h.accept accepted
  case notAccepted refused => exact h.accept refused
  case release => exact h.releasePins
  case pins pinned => exact h.pin pinned
  case cannotPin retired => exact h.pin retired
  case posts posted => exact h.setSlot ((h _).post posted)
  case receives taken => exact h.setSlot ((h _).take taken)
  case registered known => exact h.setSlot ((h _).congr rfl rfl rfl)
  case reserves unknown reserved =>
    cases reserved
    exact h.addSlot (Slot.settled_of_not_retired rfl)
  case unregisters removed => exact h.unregister removed
  all_goals exact h

end Frame

theorem Operation.settled {alive : Bool} {r : Router} (o : Operation) (h : r.Settled) :
    (o.apply alive r).Settled := by
  have closeIn {r : Router} (h : r.Settled) (s : SlotId) : (closeIn alive s r).Settled := by
    unfold Operation.closeIn
    split
    · exact h.closeChannel
    · exact h
  cases o with
  | openChannel => exact h.addSlot (Slot.settled_of_not_retired rfl)
  | close s => exact closeIn h s
  | abandon s =>
    simp only [apply]
    split
    · exact closeIn (h.setSlot (h s).abandon) s
    · exact h
  | take s =>
    simp only [apply]
    split
    · rename_i ht
      exact h.setSlot ((h s).take ht)
    · exact h
  | change e c =>
    simp only [apply, Router.change]
    split <;> exact h
  | _ => exact h

namespace Machine

variable {m m' : Machine}

theorem settled_move {mv : Move} (h : m.router.Settled) (hm : m.move? mv = some m') :
    m'.router.Settled := by
  cases mv with
  | advance t =>
    obtain ⟨f, rest, o, -, b, rfl⟩ := exists_becomes hm
    rw [router_settle b]
    exact b.settled h
  | request t f => exact (request_of_move hm).2 ▸ h
  | answer t reply => exact (finish_of_move hm).2 ▸ h
  | operate o => exact Option.some.inj hm ▸ o.settled h
  | fork => exact Option.some.inj hm ▸ h
  | elapse duration => exact Option.some.inj hm ▸ h

end Machine

theorem Run.settled {config : Config} {h : History} {m : Machine} (run : Run config h m) :
    m.router.Settled := by
  obtain ⟨r, hr, p⟩ := run
  refine p.induct (I := fun m => m.router.Settled) ?_ fun _ _ _ hs hm => Machine.settled_move hs hm
  rw [Machine.ofRouter, Router.eq_of_start hr]
  exact fun s => Slot.settled_of_not_retired rfl

/-! ## Accepted sends -/

namespace Frame

/-- The frame of a dispatch whose send has been accepted. -/
def passesOn : Frame → Bool
  | .routed _ | .release _ => true
  | f => f.routing?.isSome

/-- What a send hands down when it has been accepted. -/
def Hears (g : Frame) (reply : Reply) : Prop :=
  g.isSync = true ∧ (∃ b, reply = .answer b) ∨ g.isSync = false ∧ reply = .done

/-- The frames of a send that has been accepted and begins with `g`. -/
inductive Passing (g : Frame) (e : ExchangeId) (reply : Reply) : List Frame → Prop
  | passes (above : List Frame) {f : Frame} {below : List Frame} (passesOn : f.passesOn = true)
    (marks : g.Marks e below) : Passing g e reply (above ++ f :: below)
  | passed {below : List Frame} (marks : g.Marks e below) (done : reply = .done) :
    Passing g e reply below
  | waits (role : Role) (deadline : Option Nat) (sync : g.isSync = true) :
    Passing g e reply [.waiting e role deadline]
  | woken (role : Role) (sync : g.isSync = true) : Passing g e reply [.woken e role]
  | answered (b : Bool) (sync : g.isSync = true) (answer : reply = .answer b) : Passing g e reply []

variable {c : Context} {r : Router} {f g : Frame} {o : Outcome} {s : SlotId} {e : ExchangeId}
  {below : List Frame}

/-- A dispatch that passes an exchange on refuses nothing. -/
theorem Becomes.passesOn (b : Becomes c r f o) (hf : f.passesOn = true) :
    o.above = [] ∧ o.reply = .done ∨ ∃ fs f', o.above = fs ++ [f'] ∧ f'.passesOn = true := by
  cases b
  case release | passed => exact .inl ⟨rfl, rfl⟩
  case sendBack | strandWaiter => exact .inr ⟨[_, _], .release _, rfl, rfl⟩
  case strand | pins | reaches | seeks | considers => all_goals exact .inr ⟨[_], _, rfl, rfl⟩
  case sent | refused | ended | searches | goesTo | noWay | noCandidate | passesOver | cannotPin |
      noFlow | gone | noFlowBack =>
    all_goals exact .inr ⟨[], _, rfl, rfl⟩
  all_goals cases hf

theorem Passing.hears {reply : Reply} (h : Passing g e reply []) : g.Hears reply := by
  generalize hl : ([] : List Frame) = l at h
  cases h with
  | passes above => cases above <;> cases hl
  | passed marks done =>
    subst hl
    exact .inr ⟨marks, done⟩
  | waits | woken => all_goals cases hl
  | answered b sync answer => exact .inl ⟨sync, b, answer⟩

end Frame

namespace Machine

variable {m m' : Machine} {mv : Move} {e : ExchangeId} {s : SlotId} {t : Nat} {f g : Frame}
  {rest : List Frame}

/-- On a task a send has been accepted. -/
def Passes (m : Machine) (t : Nat) (g : Frame) (e : ExchangeId) (rest : List Frame) : Prop :=
  ∃ above, (m.task t).frames = above ++ rest ∧ Frame.Passing g e (m.task t).reply above

theorem Passes.move (h : m.Passes t g e rest) (hm : m.move? mv = some m')
    (under : rest.length < (m.task t).frames.length) : m'.Passes t g e rest := by
  obtain ⟨above, hf, passing⟩ := h
  have still (hsame : m'.task t = m.task t) : m'.Passes t g e rest :=
    ⟨above, hsame ▸ hf, hsame ▸ passing⟩
  cases passing with
  | @passes above f below passesOn marks =>
    rw [List.append_assoc] at hf
    cases above with
    | cons a above =>
      obtain ⟨above', hf'⟩ := frames_of_move hm hf
      refine ⟨above' ++ above ++ f :: below, ?_, .passes _ passesOn marks⟩
      rw [hf']
      simp
    | nil =>
      rcases work_of_move hm hf (fun c hc => by rw [hc] at passesOn; cases passesOn) with
        ⟨hsame, -⟩ | ⟨-, o, b, hf', hr, -⟩
      · exact still hsame
      · rcases b.passesOn passesOn with ⟨none, done⟩ | ⟨fs, f', some, passesOn'⟩
        · exact ⟨below, by rw [hf', none]; rfl, .passed marks (hr.trans done)⟩
        · refine ⟨fs ++ f' :: below, ?_, .passes fs passesOn' marks⟩
          rw [hf', some]
          simp
  | passed marks done =>
    obtain ⟨rfl, -⟩ | ⟨sync, role, timeout, rfl⟩ := marks.cases
    · exact absurd under (by rw [hf]; exact Nat.lt_irrefl _)
    · rcases work_of_move hm hf (fun c hc => by cases hc) with ⟨hsame, -⟩ | ⟨-, o, b, hf', hr, -⟩
      · exact still hsame
      · cases b with
        | unmark err refused => cases done.symm.trans refused
        | wait deadline => exact ⟨_, hf', .waits role deadline sync⟩
  | waits role deadline sync =>
    rcases work_of_move hm hf (fun c hc => by cases hc) with ⟨hsame, -⟩ | ⟨-, o, b, hf', hr, -⟩
    · exact still hsame
    · cases b with
      | takeToken => exact ⟨_, hf', .woken role sync⟩
      | giveUp => exact ⟨[], hf', .answered false sync hr⟩
      | waitOn => exact ⟨_, hf', .waits role none sync⟩
  | woken role sync =>
    rcases work_of_move hm hf (fun c hc => by cases hc) with ⟨hsame, -⟩ | ⟨-, o, b, hf', hr, -⟩
    · exact still hsame
    · cases b with
      | woken => exact ⟨[], hf', .answered true sync hr⟩
  | answered => exact absurd under (by rw [hf]; exact Nat.lt_irrefl _)

end Machine

/-! ## Refused sends -/

namespace Frame

/-- What the work on a send makes of a router as long as it is not accepted: the sender is marked,
and the mark is taken back. -/
inductive OnlyMarks (r : Router) (e : ExchangeId) : Frame → Router → Prop
  | same (f : Frame) : OnlyMarks r e f r
  | marks (s : SlotId) (timeout : Option Nat) :
    OnlyMarks r e (.mark s e timeout)
      (r.modifyExchange e fun x => x.setWaiting x.role true)
  | unmarks (role : Role) (timeout : Option Nat) :
    OnlyMarks r e (.marked e role timeout) (r.modifyExchange e fun x => x.setWaiting role false)

variable {c : Context} {r : Router} {f g : Frame} {o : Outcome} {s : SlotId} {e : ExchangeId}
  {below : List Frame}

/-- A dispatch that is not accepted goes on or comes back, and leaves the router as it was. -/
theorem Becomes.tries (b : Becomes c r f o) (hf : f = .dispatch s e ∨ f = .accept s e)
    (settled : r.Settled) :
    f.IsAccepted r s e ∨
      (o.above = [.dispatch s e] ∨ o.above = [.accept s e] ∨ o.above = []) ∧ o.router r = r := by
  rcases hf with rfl | rfl
  · cases b with
    | dispatch isOpen => exact .inr ⟨.inr (.inl rfl), rfl⟩
    | closed closed => exact .inr ⟨.inr (.inr rfl), rfl⟩
  · cases b with
    | accept accepted => exact .inl ⟨_, rfl, accepted⟩
    | notAccepted err refused =>
      refine .inr ⟨.inr (.inr rfl), ?_⟩
      obtain rfl | ⟨retired, rfl⟩ := Router.accept_error refused
      · rfl
      · exact settled.setSlot_reap retired

theorem Becomes.onlyMarks (b : Becomes c r f o) (h : Attempt g s e c.reply (f :: below))
    (settled : r.Settled) :
    f.IsAccepted r s e ∨ OnlyMarks r e f (o.router r) := by
  cases h with
  | begins send => cases b <;> first | exact .inr (.same _) | cases send
  | mark timeout sync =>
    cases b with
    | mark active => exact .inr (.marks s timeout)
    | notMarked err ended => exact .inr (.same _)
  | dispatch marks =>
    refine (b.tries (.inl rfl) settled).imp_right fun ⟨_, same⟩ => ?_
    rw [same]
    exact .same _
  | accept marks =>
    refine (b.tries (.inr rfl) settled).imp_right fun ⟨_, same⟩ => ?_
    rw [same]
    exact .same _
  | refused marks refused =>
    obtain ⟨none, -⟩ | ⟨-, role, timeout, one⟩ :=
      Marks.cases (marks.resolve_left (List.cons_ne_nil _ _))
    · cases none
    · cases one
      cases b with
      | unmark err refused => exact .inr (.unmarks role timeout)
      | wait deadline sent => exact absurd (sent.symm.trans refused) Bool.false_ne_true

end Frame

namespace Machine

variable {m m' : Machine} {mv : Move} {e : ExchangeId} {s : SlotId} {t : Nat} {f g : Frame}
  {rest : List Frame} {h : History}

/-- A task can only mark the sender of an exchange in its next step, or take the mark back. -/
def OnlyMarks (m : Machine) (t : Nat) (e : ExchangeId) : Prop :=
  ∀ m', m.move? (.advance t) = some m' →
    ∃ f rest, (m.task t).frames = f :: rest ∧ Frame.OnlyMarks m.router e f m'.router

/-- A send that waits gets as far as marking its sender. -/
def Marks (m : Machine) (g : Frame) (s : SlotId) (e : ExchangeId) : Prop :=
  g.isSync = true ∧ m.routerAlive = true ∧ m.router.isPresent s = true ∧
    (m.router.exchange e).status.isTerminal = false

/-- How far a send has come that is not accepted, and what it has made of the router, if nobody
comes between. -/
inductive Lone (m : Machine) (g : Frame) (s : SlotId) (e : ExchangeId) (alive : Bool) :
    Router → List Frame → Prop
  | begins (send : g.sendOf? = some (s, e)) (same : alive = m.routerAlive) :
    Lone m g s e alive m.router [g]
  | mark (timeout : Option Nat) (sync : g.isSync = true) (held : m.routerAlive = true)
    (present : m.router.isPresent s = true) : Lone m g s e alive m.router [.mark s e timeout]
  | tries {fs : List Frame} (tries : fs = [.dispatch s e] ∨ fs = [.accept s e] ∨ fs = [])
    (unmarked : ¬m.Marks g s e) : Lone m g s e alive m.router fs
  | marked {fs : List Frame} (timeout : Option Nat)
    (tries : fs = [.dispatch s e] ∨ fs = [.accept s e] ∨ fs = []) (marks : m.Marks g s e) :
    Lone m g s e alive (m.router.modifyExchange e fun x => x.setWaiting x.role true)
      (fs ++ [.marked e (m.router.exchange e).role timeout])
  | unmarked (marks : m.Marks g s e) :
    Lone m g s e alive (m.router.modifyExchange e fun x => x.setWaiting x.role false) []

theorem unmark_mark {r : Router} (known : e.index < r.exchanges.size) :
    (r.modifyExchange e fun x => x.setWaiting x.role true).modifyExchange e
        (fun x => x.setWaiting (r.exchange e).role false) =
      r.modifyExchange e fun x => x.setWaiting x.role false := by
  have twice (x : Exchange) (role : Role) :
      (x.setWaiting role true).setWaiting role false = x.setWaiting role false := by
    cases role <;> rfl
  simp only [Router.modifyExchange, Router.exchange_setExchange_self,
    Router.setExchange_setExchange known, twice]

theorem Lone.step {alive : Bool} {now : Nat} {reply : Reply} {r : Router} {o : Outcome}
    {below : List Frame} (lone : Lone m g s e alive r (f :: below))
    (attempt : Frame.Attempt g s e reply (f :: below))
    (b : Frame.Becomes ⟨alive, now, reply⟩ r f o) (settled : r.Settled)
    (known : e.index < m.router.exchanges.size) :
    f.IsAccepted r s e ∨ ∀ alive', Lone m g s e alive' (o.router r) (o.above ++ below) := by
  generalize hl : f :: below = l at lone
  have top {fs : List Frame} (hfs : fs = [.dispatch s e] ∨ fs = [.accept s e] ∨ fs = [])
      {rest : List Frame} (hl : f :: below = fs ++ rest) :
      f = .dispatch s e ∧ below = rest ∨ f = .accept s e ∧ below = rest ∨ f :: below = rest := by
    rcases hfs with rfl | rfl | rfl
    · exact .inl (List.cons.inj hl)
    · exact .inr (.inl (List.cons.inj hl))
    · exact .inr (.inr hl)
  cases lone with
  | begins send same =>
    obtain ⟨rfl, rfl⟩ := List.cons.inj hl
    have async (hg : f.isSync = false) : ¬m.Marks f s e := fun marks =>
      Bool.false_ne_true (hg.symm.trans marks.1)
    cases b with
    | send usable =>
      cases send
      exact .inr fun _ => .tries (.inl rfl) (async rfl)
    | notSent unusable => exact .inr fun _ => .tries (.inr (.inr rfl)) (async rfl)
    | sendSync usable =>
      cases send
      have usable := Frame.checkChannel_ok.1 usable
      exact .inr fun _ => .mark _ rfl (same.symm.trans usable.1) usable.2
    | notSentSync unusable =>
      cases send
      refine .inr fun _ => .tries (.inr (.inr rfl)) fun marks => ?_
      have usable : Frame.checkChannel ⟨alive, now, reply⟩ m.router s = .ok () :=
        Frame.checkChannel_ok.2 ⟨same.trans marks.2.1, marks.2.2.1⟩
      cases usable.symm.trans unusable
    | dispatch isOpen =>
      cases send
      exact .inr fun _ => .tries (.inr (.inl rfl)) (async rfl)
    | closed closed => exact .inr fun _ => .tries (.inr (.inr rfl)) (async rfl)
    | _ => cases send
  | mark timeout sync held present =>
    obtain ⟨rfl, rfl⟩ := List.cons.inj hl
    refine .inr fun _ => ?_
    cases b with
    | mark active => exact .marked timeout (.inl rfl) ⟨sync, held, present, active⟩
    | notMarked err ended =>
      refine .tries (.inr (.inr rfl)) fun marks => ?_
      exact Bool.false_ne_true (marks.2.2.2.symm.trans ended)
  | tries tries unmarked =>
    have hl' : f :: below = l ++ [] := by rw [List.append_nil, hl]
    have hf : (f = .dispatch s e ∨ f = .accept s e) ∧ below = [] := by
      rcases top tries hl' with ⟨hf, hb⟩ | ⟨hf, hb⟩ | none
      · exact ⟨.inl hf, hb⟩
      · exact ⟨.inr hf, hb⟩
      · cases none
    refine (b.tries hf.1 settled).imp_right fun ⟨tries, same⟩ _ => ?_
    rw [same, hf.2, List.append_nil]
    exact .tries tries unmarked
  | @marked fs timeout tries marks =>
    rcases top tries hl with ⟨hf, rfl⟩ | ⟨hf, rfl⟩ | hl
    · refine (b.tries (.inl hf) settled).imp_right fun ⟨tries, same⟩ _ => ?_
      rw [same]
      exact .marked timeout tries marks
    · refine (b.tries (.inr hf) settled).imp_right fun ⟨tries, same⟩ _ => ?_
      rw [same]
      exact .marked timeout tries marks
    · obtain ⟨rfl, rfl⟩ := List.cons.inj hl
      have refused : reply.isRefusal = true := by
        cases attempt with
        | begins send => cases send
        | refused marks refused => exact refused
      refine .inr fun alive' => ?_
      cases b with
      | unmark err refused =>
        have unmarked : m.Lone g s e alive' _ [] := .unmarked marks
        rwa [← unmark_mark known] at unmarked
      | wait deadline sent => exact absurd (sent.symm.trans refused) Bool.false_ne_true
  | unmarked => cases hl

/-- Somebody who waits for the exchange in the same role is overlooked: a send that waits takes
its mark for its own. -/
def Overlooks (m : Machine) (g : Frame) (s : SlotId) (e : ExchangeId) : Prop :=
  m.Marks g s e ∧ (m.router.exchange e).waiting.get (m.router.exchange e).role = true

/-- What is known of a send that has not been accepted. -/
structure Trying (m m' : Machine) (h : History) (t : Nat) (g : Frame) (s : SlotId) (e : ExchangeId)
    (rest : List Frame) : Prop where
  attempts : m'.Attempts t g s e rest
  unsent : ∀ q ∈ h, ¬q.1.Accepts t s e q.2
  untold : ∀ q ∈ h, (q.1.task t).call? = none
  onlyMarks : ∀ q ∈ h, q.2 = .advance t → q.1.OnlyMarks t e
  alone : (∀ q ∈ h, q.2 = .advance t) →
    ∃ above, (m'.task t).frames = above ++ rest ∧ m.Lone g s e m'.routerAlive m'.router above

theorem Trying.move {m₁ : Machine} (trying : Trying m m₁ h t g s e rest)
    (hm : m₁.move? mv = some m') (under : rest.length < (m₁.task t).frames.length)
    (settled : m₁.router.Settled) (known : e.index < m.router.exchanges.size) :
    m₁.Accepts t s e mv ∧ m'.Passes t g e rest ∨ Trying m m' ((m₁, mv) :: h) t g s e rest := by
  obtain ⟨⟨above, hf, attempt⟩, unsent, untold, onlyMarks, alone⟩ := trying
  obtain _ | ⟨f, below⟩ := above
  · exact absurd under (by rw [hf]; exact Nat.lt_irrefl _)
  have call : ∀ c, f ≠ .call c := fun c hc => (hc ▸ attempt : Frame.Attempt ..).ne_call
  have untold : ∀ q ∈ (m₁, mv) :: h, (q.1.task t).call? = none := by
    refine List.forall_mem_cons.2 ⟨?_, untold⟩
    rw [Task.call?, hf]
    cases f <;> first | rfl | exact absurd rfl (call _)
  rcases work_of_move hm hf call with ⟨hsame, other⟩ | ⟨rfl, o, b, hf', hr, hrouter⟩
  · exact .inr
      { attempts := ⟨f :: below, hsame ▸ hf, hsame ▸ attempt⟩
        unsent := List.forall_mem_cons.2 ⟨fun accepts => other accepts.1, unsent⟩
        untold
        onlyMarks := List.forall_mem_cons.2 ⟨fun own => absurd own other, onlyMarks⟩
        alone := fun own => absurd (own _ List.mem_cons_self) other }
  by_cases accepted : f.IsAccepted m₁.router s e
  · refine .inl ⟨accepts_of_isAccepted hf accepted, ?_⟩
    obtain ⟨r, rfl, ok⟩ := accepted
    cases b with
    | accept => exact ⟨_, hf'.trans (List.append_assoc ..).symm, .passes [_] rfl attempt.marks⟩
    | notAccepted err refused => cases ok.symm.trans refused
  · have attempt' := (b.attempt attempt).resolve_left accepted
    have only := (b.onlyMarks attempt settled).resolve_left accepted
    refine .inr
      { attempts := ⟨_, hf'.trans (List.append_assoc ..).symm, hr ▸ attempt'⟩
        unsent := List.forall_mem_cons.2 ⟨not_accepts_of_frames hf accepted, unsent⟩
        untold
        onlyMarks := List.forall_mem_cons.2 ⟨fun _ m₂ hm₂ => ⟨f, _, hf, ?_⟩, onlyMarks⟩
        alone := fun own => ?_ }
    · rw [Option.some.inj (hm₂.symm.trans hm), hrouter]
      exact only
    · obtain ⟨above, hf₀, lone⟩ := alone (List.forall_mem_cons.1 own).2
      obtain rfl : above = f :: below := List.append_cancel_right (hf₀.symm.trans hf)
      have lone' := (lone.step attempt b settled known).resolve_left accepted
      exact ⟨_, hf'.trans (List.append_assoc ..).symm, hrouter ▸ lone' _⟩

/-- A send was refused: it was never accepted, nobody outside the router heard of it, and all that
its task did to the router was to mark the sender and to take the mark back.  If nobody came
between, the router is as it was before, unless somebody was overlooked. -/
structure Refused (m m' : Machine) (h : History) (t : Nat) (g : Frame) (s : SlotId)
    (e : ExchangeId) : Prop where
  refusal : (m'.task t).reply.isRefusal = true
  unsent : ∀ q ∈ h, ¬q.1.Accepts t s e q.2
  untold : ∀ q ∈ h, (q.1.task t).call? = none
  onlyMarks : ∀ q ∈ h, q.2 = .advance t → q.1.OnlyMarks t e
  alone : (∀ q ∈ h, q.2 = .advance t) →
    ¬m.Overlooks g s e ∧ m'.router = m.router ∨
      m.Overlooks g s e ∧
        m'.router = m.router.modifyExchange e fun x => x.setWaiting x.role false

theorem Lone.router {alive : Bool} {r : Router} (lone : m.Lone g s e alive r [])
    (known : e.index < m.router.exchanges.size) :
    ¬m.Overlooks g s e ∧ r = m.router ∨
      m.Overlooks g s e ∧ r = m.router.modifyExchange e fun x => x.setWaiting x.role false := by
  generalize hl : ([] : List Frame) = l at lone
  cases lone with
  | begins | mark => all_goals cases hl
  | tries tries unmarked => exact .inl ⟨fun overlooks => unmarked overlooks.1, rfl⟩
  | @marked fs => cases fs <;> cases hl
  | unmarked marks =>
    by_cases waits : (m.router.exchange e).waiting.get (m.router.exchange e).role = true
    · exact .inr ⟨⟨marks, waits⟩, rfl⟩
    · refine .inl ⟨fun overlooks => waits overlooks.2, ?_⟩
      rw [Router.modifyExchange, Exchange.setWaiting_of_eq (eq_false_of_ne_true waits),
        Router.setExchange_self known]

theorem Trying.refused (trying : Trying m m' h t g s e rest)
    (known : e.index < m.router.exchanges.size)
    (through : (m'.task t).frames.length ≤ rest.length) : Refused m m' h t g s e where
  refusal := trying.attempts.refused_of_return through
  unsent := trying.unsent
  untold := trying.untold
  onlyMarks := trying.onlyMarks
  alone own := by
    obtain ⟨above, hf, lone⟩ := trying.alone own
    obtain rfl : above = [] := by
      rw [hf, List.length_append] at through
      exact List.eq_nil_of_length_eq_zero (by omega)
    exact lone.router known

theorem trying_of_frames (hf : (m.task t).frames = g :: rest) (send : g.sendOf? = some (s, e)) :
    Trying m m [] t g s e rest where
  attempts := attempts_of_sendOf? hf send
  unsent _ hq := by cases hq
  untold _ hq := by cases hq
  onlyMarks _ hq := by cases hq
  alone _ := ⟨[g], hf, .begins send rfl⟩

end Machine

theorem Path.passes_or_trying {m m' : Machine} {h : History} {t : Nat} {g : Frame} {s : SlotId}
    {e : ExchangeId} {rest : List Frame} (p : Path m h m') (settled : m.router.Settled)
    (known : e.index < m.router.exchanges.size) (frames : (m.task t).frames = g :: rest)
    (send : g.sendOf? = some (s, e))
    (under : ∀ q ∈ h, rest.length < (q.1.task t).frames.length) :
    (∃ q ∈ h, q.1.Accepts t s e q.2) ∧ m'.Passes t g e rest ∨
      Machine.Trying m m' h t g s e rest := by
  induction p with
  | nil => exact .inr (Machine.trying_of_frames frames send)
  | cons p hm ih =>
    obtain ⟨hunder, under⟩ := List.forall_mem_cons.1 under
    have settled₁ := p.induct (I := fun m => m.router.Settled) settled
      fun _ _ _ hs hm => Machine.settled_move hs hm
    rcases ih under with ⟨⟨q, hq, accepts⟩, passes⟩ | trying
    · exact .inl ⟨⟨q, List.mem_cons_of_mem _ hq, accepts⟩, passes.move hm hunder⟩
    · exact (trying.move hm hunder settled₁ known).imp_left fun ⟨accepts, passes⟩ =>
        ⟨⟨_, List.mem_cons_self, accepts⟩, passes⟩

/-- A send that comes back was accepted and ends well, or it was refused and has left nothing
behind. -/
theorem Run.send_returns {config : Config} {h₀ h : History} {m m' : Machine} {t : Nat} {g : Frame}
    {s : SlotId} {e : ExchangeId} {rest : List Frame} (run : Run config h₀ m)
    (known : e.index < m.router.exchanges.size) (frames : (m.task t).frames = g :: rest)
    (send : g.sendOf? = some (s, e)) (p : Path m h m')
    (under : ∀ q ∈ h, rest.length < (q.1.task t).frames.length)
    (through : (m'.task t).frames.length ≤ rest.length) :
    (∃ q ∈ h, q.1.Accepts t s e q.2) ∧ g.Hears (m'.task t).reply ∨
      Machine.Refused m m' h t g s e := by
  rcases p.passes_or_trying run.settled known frames send under with ⟨accepts, passes⟩ | trying
  · obtain ⟨above, hf, passing⟩ := passes
    obtain rfl : above = [] := by
      rw [hf, List.length_append] at through
      exact List.eq_nil_of_length_eq_zero (by omega)
    exact .inl ⟨accepts, passing.hears⟩
  · exact .inr (trying.refused known through)

/-- A send stands on the call of the application on top of a stack. -/
def Machine.isSending (m : Machine) (t : Nat) : Bool :=
  match (m.task t).frames with
  | [.send s e, .call .application] => s == ⟨1⟩ && e == ⟨0⟩
  | _ => false

theorem Machine.frames_of_isSending {m : Machine} {t : Nat} (h : m.isSending t = true) :
    (m.task t).frames = [.send ⟨1⟩ ⟨0⟩, .call .application] := by
  unfold isSending at h
  split at h
  · rename_i hf
    simp only [Bool.and_eq_true, beq_iff_eq] at h
    rw [hf, h.1, h.2]
  · cases h

theorem Run.send_returns_oneWay : ∃ h₀ m h m', Run {} h₀ m ∧
    0 < m.router.exchanges.size ∧ (m.task 0).frames = [.send ⟨1⟩ ⟨0⟩, .call .application] ∧
    Path m h m' ∧ (∀ q ∈ h, 1 < (q.1.task 0).frames.length) ∧ (m'.task 0).frames.length ≤ 1 ∧
    (m.router.exchange ⟨0⟩).sends < (m'.router.exchange ⟨0⟩).sends ∧
    ((∃ q ∈ h, q.1.Accepts 0 ⟨1⟩ ⟨0⟩ q.2) ∧ Frame.Hears (.send ⟨1⟩ ⟨0⟩) (m'.task 0).reply ∨
      Machine.Refused m m' h 0 (.send ⟨1⟩ ⟨0⟩) ⟨1⟩ ⟨0⟩) := by
  obtain ⟨h₀, m, h, m', p₀, p, hq⟩ := Path.exists_of_enacts .usual
    (Cue.opening .inOnly ++ [.request 0 (.send ⟨1⟩ ⟨0⟩)]) [.runs 0]
    (fun p p' => decide (0 < p.2.router.exchanges.size) && p.2.isSending 0 &&
      p'.1.all (fun q => decide (1 < (q.1.task 0).frames.length)) &&
      decide ((p'.2.task 0).frames.length ≤ 1) &&
      decide ((p.2.router.exchange ⟨0⟩).sends < (p'.2.router.exchange ⟨0⟩).sends)) (by rfl)
  simp only [Bool.and_eq_true, decide_eq_true_eq, List.all_eq_true] at hq
  obtain ⟨⟨⟨⟨known, sending⟩, under⟩, through⟩, sends⟩ := hq
  have frames := Machine.frames_of_isSending sending
  exact ⟨h₀, m, h, m', p₀.run, known, frames, p, under, through, sends,
    p₀.run.send_returns known frames rfl p under through⟩

/-- A client waits for the answer of an endpoint, which waits in turn when it has sent it.  A
listener hears that the answer is delivered, and sends the exchange through the channel of the
client. -/
def Cue.meddling : List Cue :=
  opening .inOut ++ [listen, request 0 (.sendSync ⟨1⟩ ⟨0⟩ none)] ++ hears ++
    [runs 0, runs 1, answer 1 .done, runs 1, operate (.change ⟨0⟩ (.message .output default)),
      request 1 (.sendSync ⟨0⟩ ⟨0⟩ none), runs 1, answer 1 .done, runs 1,
      request 1 (.sendSync ⟨1⟩ ⟨0⟩ (some 0))]

/-- The listener is about to send the exchange. -/
def Machine.isMeddling (m : Machine) : Bool :=
  match (m.task 1).frames with
  | .sendSync s e timeout :: _ => s == ⟨1⟩ && e == ⟨0⟩ && timeout == some 0
  | _ => false

theorem Machine.frames_of_isMeddling {m : Machine} (h : m.isMeddling = true) :
    ∃ rest, (m.task 1).frames = .sendSync ⟨1⟩ ⟨0⟩ (some 0) :: rest := by
  unfold isMeddling at h
  split at h
  · rename_i s e timeout rest hf
    simp only [Bool.and_eq_true, beq_iff_eq] at h
    obtain ⟨⟨rfl, rfl⟩, rfl⟩ := h
    exact ⟨rest, hf⟩
  · cases h

/-- The listener is refused, and the endpoint is not marked any more. -/
theorem Run.send_overlooks : ∃ h₀ m h m' rest, Run {} h₀ m ∧
    (m.task 1).frames = .sendSync ⟨1⟩ ⟨0⟩ (some 0) :: rest ∧ Path m h m' ∧
    (∀ q ∈ h, q.2 = .advance 1) ∧ (m'.task 1).frames.length = rest.length ∧
    (m'.task 1).reply.isRefusal = true ∧
    (m.router.exchange ⟨0⟩).waiting.get .provider = true ∧
    (m'.router.exchange ⟨0⟩).waiting.get .provider = false := by
  obtain ⟨h₀, m, h, m', p₀, p, hq⟩ := Path.exists_of_enacts .usual Cue.meddling [.runs 1]
    (fun p p' => p.2.isMeddling && p'.1.all (fun q => q.2.advances 1) &&
      (p'.2.task 1).frames.length + 1 == (p.2.task 1).frames.length &&
      (p'.2.task 1).reply.isRefusal && (p.2.router.exchange ⟨0⟩).waiting.get .provider &&
      !(p'.2.router.exchange ⟨0⟩).waiting.get .provider) (by rfl)
  simp only [Bool.and_eq_true, beq_iff_eq, List.all_eq_true, Bool.not_eq_true'] at hq
  obtain ⟨⟨⟨⟨⟨meddling, own⟩, through⟩, refusal⟩, before⟩, after⟩ := hq
  obtain ⟨rest, frames⟩ := Machine.frames_of_isMeddling meddling
  rw [frames, List.length_cons, Nat.add_right_cancel_iff] at through
  exact ⟨h₀, m, h, m', rest, p₀.run, frames, p, fun q hq => Move.advances_iff.1 (own q hq),
    through, refusal, before, after⟩

end Engine

end MessageRouter
