import MessageRouter.Proofs.Custody
import MessageRouter.Proofs.Tiers

/-!
# How far an exchange has come

What there is still to be done with an exchange (`Tally`) and what has been seen of it (`Sight`) go
together: `Station` says how.  A move takes an exchange over a `Leg` at most, and `Station.leg` says
where it has come to then.  A task at work goes by a leg (`Frame.Becomes.leg`) as long as it tells
of an event before it goes on; all others leave as much to be done as there was.
-/

namespace MessageRouter.Engine

/-! ## What can be seen -/

/-- What is seen of an exchange: what a listener is told of it, and what then becomes of it. -/
inductive Sight where
  | sent
  | delivered
  /-- The party that waits for the exchange is released. -/
  | released
  /-- The owner of a slot is called with the exchange. -/
  | processed
  /-- No flow takes a later send. -/
  | vain
  deriving DecidableEq

/-- Each send is delivered, and each delivery releases somebody or is processed.  The latest comes
first. -/
inductive Rounds : List Sight → Prop
  | nil : Rounds []
  | released {T : List Sight} (past : Rounds T) : Rounds (.released :: .delivered :: .sent :: T)
  | processed {T : List Sight} (past : Rounds T) : Rounds (.processed :: .delivered :: .sent :: T)

/-- What is seen of an exchange that nobody has: all has come full circle, but for a last send that
no flow took. -/
inductive Complete : List Sight → Prop
  | rounds {T : List Sight} (past : Rounds T) : Complete T
  | vain {T : List Sight} (past : Rounds T) : Complete (.vain :: .sent :: T)
  | released {T : List Sight} (past : Rounds T) : Complete (.released :: .vain :: .sent :: T)

/-- What is seen of an exchange at any time. -/
inductive Journey : List Sight → Prop
  | complete {T : List Sight} (complete : Complete T) : Journey T
  | sent {T : List Sight} (past : Rounds T) : Journey (.sent :: T)
  | delivered {T : List Sight} (past : Rounds T) : Journey (.delivered :: .sent :: T)

/-! ## Phases -/

/-- What there is still to be done with an exchange: how many carry it, are about to give it to
whoever waits for it or to an owner, or have lost a later send of it, and how often a listener is
still to be told of it. -/
structure Tally where
  carrying : Nat := 0
  waking : Nat := 0
  entering : Nat := 0
  missed : Nat := 0
  unsent : Nat := 0
  undelivered : Nat := 0

namespace Tally

instance : Add Tally where
  add s t := ⟨s.carrying + t.carrying, s.waking + t.waking, s.entering + t.entering,
    s.missed + t.missed, s.unsent + t.unsent, s.undelivered + t.undelivered⟩

theorem add_def (s t : Tally) : s + t = ⟨s.carrying + t.carrying, s.waking + t.waking,
    s.entering + t.entering, s.missed + t.missed, s.unsent + t.unsent,
    s.undelivered + t.undelivered⟩ := rfl

end Tally

/-- How far an exchange has come, by what is still to be done with it and what has been seen of
it. -/
inductive Station (finished : Bool) : Tally → List Sight → Prop
  | rests {T : List Sight} (past : Rounds T) : Station finished {} T
  | accepted {T : List Sight} (past : Rounds T) : Station finished { carrying := 1, unsent := 1 } T
  | travels {T : List Sight} (past : Rounds T) : Station finished { carrying := 1 } (.sent :: T)
  | landed {T : List Sight} (w n : Nat) (one : w + n = 1) (past : Rounds T) :
    Station finished { waking := w, entering := n, undelivered := 1 } (.sent :: T)
  | handed {T : List Sight} (w n : Nat) (one : w + n = 1) (past : Rounds T) :
    Station finished { waking := w, entering := n } (.delivered :: .sent :: T)
  | missed {T : List Sight} (past : Rounds T) :
    Station finished { carrying := 1, missed := 1 } (.vain :: .sent :: T)
  /-- The sender may still wait for an answer. -/
  | stranded {T : List Sight} (w : Nat) (one : w ≤ 1) (ended : finished = true) (past : Rounds T) :
    Station finished { waking := w } (.vain :: .sent :: T)
  | freed {T : List Sight} (ended : finished = true) (past : Rounds T) :
    Station finished {} (.released :: .vain :: .sent :: T)

/-- What happens to an exchange in a move.  Once nobody else has it all has been told of it. -/
inductive Leg (finished finished' : Bool) : Tally → Option Sight → Tally → Prop
  | rests (t : Tally) : Leg finished finished' t none t
  | accepts (t : Tally) (going : finished = false) (carrying : t.carrying = 0)
    (handing : t.waking + t.entering = 0) :
    Leg finished finished' t none (t + { carrying := 1, unsent := 1 })
  | tellsSent (t : Tally) : Leg finished finished' (t + { unsent := 1 }) (some .sent) t
  | tellsDelivered (t : Tally) :
    Leg finished finished' (t + { undelivered := 1 }) (some .delivered) t
  | lands (t : Tally) (w n : Nat) (one : w + n = 1)
    (alone : t.carrying = 0 → t.unsent = 0 ∧ t.missed = 0) :
    Leg finished finished' (t + { carrying := 1 }) none
      (t + { waking := w, entering := n, undelivered := 1 })
  | releases (t : Tally) (alone : t.waking + t.entering = 0 → t.undelivered = 0) :
    Leg finished finished' (t + { waking := 1 }) (some .released) t
  | processes (t : Tally) (alone : t.waking + t.entering = 0 → t.undelivered = 0) :
    Leg finished finished' (t + { entering := 1 }) (some .processed) t
  | misses (t : Tally) (alone : t.carrying = 0 → t.unsent = 0 ∧ t.missed = 0) :
    Leg finished finished' (t + { carrying := 1 }) (some .vain) (t + { carrying := 1, missed := 1 })
  | strands (t : Tally) (w : Nat) (one : w ≤ 1) (ended : finished' = true) :
    Leg finished finished' (t + { carrying := 1, missed := 1 }) none (t + { waking := w })

/-- What an exchange has come to after another move. -/
theorem Station.leg {finished finished' : Bool} {t t' : Tally} {s : Option Sight} {T : List Sight}
    (station : Station finished t T) (leg : Leg finished finished' t s t')
    (stays : finished = true → finished' = true) : Station finished' t' (s.toList ++ T) := by
  cases leg with
  | rests =>
    cases station with
    | rests past => exact .rests past
    | accepted past => exact .accepted past
    | travels past => exact .travels past
    | landed w n one past => exact .landed w n one past
    | handed w n one past => exact .handed w n one past
    | missed past => exact .missed past
    | stranded w one ended past => exact .stranded w one (stays ended) past
    | freed ended past => exact .freed (stays ended) past
  | accepts t going carrying handing =>
    cases station with
    | rests past => exact .accepted past
    | accepted | travels | missed => all_goals cases carrying
    | landed _ _ one | handed _ _ one => all_goals cases one.symm.trans handing
    | stranded _ _ ended | freed ended => all_goals cases going.symm.trans ended
  | tellsSent =>
    obtain ⟨c, w, n, k, u, d⟩ := t'
    cases station with
    | accepted past => exact .travels past
  | tellsDelivered =>
    obtain ⟨c, w, n, k, u, d⟩ := t'
    cases station with
    | landed _ _ one past => exact .handed w n one past
  | lands t w n one alone =>
    obtain ⟨c, w', n', k, u, d⟩ := t
    cases station with
    | travels past => exact .landed _ _ (by simpa using one) past
    | accepted => cases (alone rfl).1
    | missed => cases (alone rfl).2
  | releases _ alone =>
    obtain ⟨c, w, n, k, u, d⟩ := t'
    simp only at alone
    cases station with
    | landed _ _ one =>
      simp only at one
      cases alone (by omega)
    | handed _ _ one past =>
      obtain ⟨rfl, rfl⟩ : w = 0 ∧ n = 0 := by
        simp only at one
        omega
      exact .rests (.released past)
    | stranded _ one ended past =>
      obtain rfl : w = 0 := by
        simp only at one
        omega
      exact .freed (stays ended) past
  | processes _ alone =>
    obtain ⟨c, w, n, k, u, d⟩ := t'
    simp only at alone
    cases station with
    | landed _ _ one =>
      simp only at one
      cases alone (by omega)
    | handed _ _ one past =>
      obtain ⟨rfl, rfl⟩ : w = 0 ∧ n = 0 := by
        simp only at one
        omega
      exact .rests (.processed past)
  | misses t alone =>
    obtain ⟨c, w, n, k, u, d⟩ := t
    cases station with
    | travels past => exact .missed past
    | accepted => cases (alone rfl).1
    | missed => cases (alone rfl).2
  | strands t w one ended =>
    obtain ⟨c, w', n, k, u, d⟩ := t
    cases station with
    | missed past => exact .stranded _ (by simpa using one) ended past

theorem Station.journey {finished : Bool} {t : Tally} {T : List Sight}
    (station : Station finished t T) : Journey T := by
  cases station with
  | rests past | accepted past => exact .complete (.rounds past)
  | travels past | landed w n one past => exact .sent past
  | handed w n one past => exact .delivered past
  | missed past | stranded w one ended past => exact .complete (.vain past)
  | freed ended past => exact .complete (.released past)

theorem Station.complete {finished : Bool} {t : Tally} {T : List Sight}
    (station : Station finished t T) (carrying : t.carrying = 0) (waking : t.waking = 0)
    (entering : t.entering = 0) : Complete T ∧ t.unsent = 0 := by
  cases station with
  | rests past => exact ⟨.rounds past, rfl⟩
  | accepted | travels | missed => all_goals cases carrying
  | landed w n one | handed w n one =>
    all_goals
      simp only at waking entering
      omega
  | stranded w one ended past => exact ⟨.vain past, rfl⟩
  | freed ended past => exact ⟨.released past, rfl⟩

/-! ## What is seen and what is still to be done -/

/-- What is seen of an event; failures are left aside. -/
def Sight.ofEvent? : ExchangeEvent → Option Sight
  | .sent => some .sent
  | .delivered => some .delivered
  | .failed => none

def Sight.event? : Sight → Option ExchangeEvent
  | .sent => some .sent
  | .delivered => some .delivered
  | .released | .processed | .vain => none

/-- The flow that has been chosen. -/
def Reply.choice? : Reply → Option Flow
  | .chosen f => f
  | _ => none

theorem Reply.choice?_eq_none {reply : Reply} :
    reply.choice? = none ↔ ∀ f, reply ≠ .chosen (some f) := by
  cases reply with
  | chosen f => cases f <;> simp [choice?]
  | _ => simp [choice?]

section

variable (l : String) (e : ExchangeId)

/-- What is seen of an exchange in a deed, if a listener is to be told of it. -/
def Deed.sight? : Deed → Option Sight
  | .work _ (.notify event e' (l' :: _)) => if e' = e ∧ l' = l then Sight.ofEvent? event else none
  | .work _ (.wake e' _) => if e' = e then some .released else none
  | .work _ (.enter _ e' _) => if e' = e then some .processed else none
  | .work c (.reaching h _) =>
    if h.exchange = e ∧ h.first = false ∧ c.reply.choice? = none then some .vain else none
  | _ => none

/-- What has been seen of an exchange, the latest first. -/
def sights (h : History) : List Sight := h.filterMap fun q => (q.1.deed q.2).sight? l e

theorem sights_cons (m : Machine) (mv : Move) (h : History) :
    sights l e ((m, mv) :: h) = ((m.deed mv).sight? l e).toList ++ sights l e h := by
  rw [sights, List.filterMap_cons]
  cases (m.deed mv).sight? l e <;> rfl

namespace Frame

/-- The exchange is on its way, and it is the business of this frame. -/
def brings (f : Frame) : Bool := f.carries && f.isAbout e

/-- The exchange is about to be given to the party that waits for it. -/
def wakes : Frame → Bool
  | .wake e' _ => e' == e
  | _ => false

/-- The exchange is about to be given to the owner of a slot. -/
def enters : Frame → Bool
  | .enter _ e' _ => e' == e
  | _ => false

/-- A later send of the exchange has been lost. -/
def misses : Frame → Bool
  | .lost h _ => h.exchange == e && !h.first
  | _ => false

end Frame

/-- What there is still to be done with an exchange and with a listener. -/
def tally (D : Multiset Frame) : Tally where
  carrying := count (Frame.brings e) D
  waking := count (Frame.wakes e) D
  entering := count (Frame.enters e) D
  missed := count (Frame.misses e) D
  unsent := toTell l .sent e D
  undelivered := toTell l .delivered e D

end

section

attribute [local simp] tally Tally.add_def Frame.brings Frame.wakes Frame.enters Frame.misses
  Frame.carries Frame.isAbout Frame.subject Frame.tells Outcome.frames

variable {c : Context} {r : Router} {f : Frame} {o : Outcome} {N : Multiset Frame} {l : String}
  {e : ExchangeId} {finished finished' : Bool}

theorem Leg.of_eq {t t' : Tally} (h : t' = t) : Leg finished finished' t none t' := by
  rw [h]
  exact .rests t

theorem Frame.handed?_eq_some : f.handed? = some e ↔ f.wakes e = true ∨ f.enters e = true := by
  cases f <;> simp [handed?]

/-- Where nobody carries an exchange, its send has been told of, and it has not been lost. -/
theorem Heralded.unsent (h : Heralded N) (l : String) (none : count (Frame.brings e) N = 0) :
    toTell l .sent e N = 0 ∧ count (Frame.misses e) N = 0 := by
  refine ⟨h.toTell_eq_zero (fun g hg => ?_) l, ?_⟩
  · have := count_eq_zero.1 none g hg
    cases g with
    | sent h => simpa [Frame.bears] using this
    | _ => rfl
  · by_contra hne
    obtain ⟨g, hg, hm⟩ := count_pos.1 (Nat.pos_of_ne_zero hne)
    have := count_eq_zero.1 none g hg
    cases g with
    | lost h err => simp_all
    | _ => cases hm

/-- Where nobody is about to give an exchange to somebody, its delivery has been told of. -/
theorem Heralded.undelivered (h : Heralded N) (l : String)
    (none : count (Frame.wakes e) N + count (Frame.enters e) N = 0) :
    toTell l .delivered e N = 0 := by
  refine h.toTell_eq_zero (fun g hg => beq_eq_false_iff_ne.2 fun handed => ?_) l
  rcases Frame.handed?_eq_some.1 handed with wakes | enters
  · exact Bool.false_ne_true
      ((count_eq_zero.1 (Nat.eq_zero_of_add_eq_zero_right none) g hg).symm.trans wakes)
  · exact Bool.false_ne_true
      ((count_eq_zero.1 (Nat.eq_zero_of_add_eq_zero_left none) g hg).symm.trans enters)

/-- A task tells a listener of an event, or another one. -/
theorem leg_notify (event : ExchangeEvent) (e' : ExchangeId) (l' : String) (ls : List String) :
    Leg finished finished' (tally l e (.notify event e' (l' :: ls) ::ₘ N))
      ((Deed.work c (.notify event e' (l' :: ls))).sight? l e)
      (tally l e
        (([.call (.exchangeEvent l' event e'), .notify event e' ls] : List Frame) + N)) := by
  by_cases same : e' = e ∧ l' = l
  · obtain ⟨rfl, rfl⟩ := same
    have seen : (Deed.work c (.notify event e' (l' :: ls))).sight? l' e' = Sight.ofEvent? event :=
      if_pos ⟨rfl, rfl⟩
    rw [seen]
    cases event with
    | sent =>
      have told : tally l' e' (.notify .sent e' (l' :: ls) ::ₘ N) =
          tally l' e' (([.call (.exchangeEvent l' .sent e'),
            .notify .sent e' ls] : List Frame) + N) + { unsent := 1 } := by
        simp
        omega
      rw [told]
      exact .tellsSent _
    | delivered =>
      have told : tally l' e' (.notify .delivered e' (l' :: ls) ::ₘ N) =
          tally l' e' (([.call (.exchangeEvent l' .delivered e'),
            .notify .delivered e' ls] : List Frame) + N) + { undelivered := 1 } := by
        simp
        omega
      rw [told]
      exact .tellsDelivered _
    | failed => exact .of_eq (by simp)
  · have unseen : (Deed.work c (.notify event e' (l' :: ls))).sight? l e = none := if_neg same
    have tells (event' : ExchangeEvent) :
        Frame.tells l event' e (.notify event e' (l' :: ls)) =
          Frame.tells l event' e (.notify event e' ls) := by
      simp only [Frame.tells, List.count_cons]
      split
      · rename_i he
        simp only [Bool.and_eq_true, beq_iff_eq] at he
        rw [if_neg fun hl => same ⟨he.2, beq_iff_eq.1 hl⟩, Nat.add_zero]
      · rfl
    rw [unseen]
    exact .of_eq (by simp [-Frame.tells, tells]; simp)

/-- A later send that has been lost is over; whoever waits for it is released. -/
theorem leg_lost {h : Hop} (err : RouterError) (later : h.first = false) (w : List Frame)
    (wakes : w = [] ∨ w = [.wake h.exchange h.role]) (ended : h.exchange = e → finished' = true) :
    Leg finished finished' (tally l e (.lost h err ::ₘ N)) none
      (tally l e
        ((.announce .failed h.exchange :: (w ++ [.release h.exchange]) : List Frame) + N)) := by
  by_cases he : h.exchange = e
  · have before : tally l e (.lost h err ::ₘ N) = tally l e N + { carrying := 1, missed := 1 } := by
      simp [later, he]
    rw [before]
    rcases wakes with rfl | rfl
    · have after : tally l e ((.announce .failed h.exchange :: ([] ++ [.release h.exchange]) :
          List Frame) + N) = tally l e N + { waking := 0 } := by
        simp
      rw [after]
      exact .strands _ 0 (Nat.zero_le 1) (ended he)
    · have after : tally l e ((.announce .failed h.exchange :: ([.wake h.exchange h.role] ++
          [.release h.exchange]) : List Frame) + N) = tally l e N + { waking := 1 } := by
        simp [he]
      rw [after]
      exact .strands _ 1 (Nat.le_refl 1) (ended he)
  · rcases wakes with rfl | rfl <;> exact .of_eq (by simp [he])

/-- A hop finds no way: if it is a later one no flow takes it. -/
theorem leg_loses {h : Hop} (err : RouterError) (hop : f.hop? = some h) (heralded : Heralded N)
    (flows : h.exchange = e → h.first = false → c.reply.choice? = none ∧ ∃ s, f = .reaching h s) :
    Leg finished finished' (tally l e (f ::ₘ N)) ((Deed.work c f).sight? l e)
      (tally l e (([.lost h err] : List Frame) + N)) := by
  by_cases later : h.exchange = e ∧ h.first = false
  · obtain ⟨unchosen, s, rfl⟩ := flows later.1 later.2
    have seen : (Deed.work c (.reaching h s)).sight? l e = some .vain :=
      if_pos ⟨later.1, later.2, unchosen⟩
    have before : tally l e (.reaching h s ::ₘ N) = tally l e N + { carrying := 1 } := by
      simp [later.1]
    have after : tally l e (([.lost h err] : List Frame) + N) =
        tally l e N + { carrying := 1, missed := 1 } := by
      simp [later]
    rw [seen, before, after]
    exact .misses _ (heralded.unsent l)
  · have missed : (h.exchange == e && !h.first) = false := by
      simpa using later
    cases f with
    | route | offer | offered | routeTo =>
      all_goals
        cases hop
        exact .of_eq (by simp [missed])
    | reaching h' s =>
      cases hop
      have unseen : (Deed.work c (.reaching h s)).sight? l e = none :=
        if_neg fun seen => later ⟨seen.1, seen.2.1⟩
      rw [unseen]
      exact .of_eq (by simp [missed])
    | _ => cases hop

/-- A party that has waited is given the exchange. -/
theorem leg_wake (e' : ExchangeId) (role : Role) (heralded : Heralded N) :
    Leg finished finished' (tally l e (.wake e' role ::ₘ N))
      ((Deed.work c (.wake e' role)).sight? l e) (tally l e (([] : List Frame) + N)) := by
  by_cases he : e' = e
  · have seen : (Deed.work c (.wake e' role)).sight? l e = some .released := if_pos he
    have before : tally l e (.wake e' role ::ₘ N) = tally l e N + { waking := 1 } := by simp [he]
    have after : tally l e (([] : List Frame) + N) = tally l e N := by simp
    rw [seen, before, after]
    exact .releases _ (heralded.undelivered l)
  · have unseen : (Deed.work c (.wake e' role)).sight? l e = none := if_neg he
    rw [unseen]
    exact .of_eq (by simp [he])

/-- The owner of a slot is called with the exchange. -/
theorem leg_enter (s : SlotId) (e' : ExchangeId) (sends : Nat) (fs : List Frame)
    (heralded : Heralded N) (quiet : tally l e (fs + N) = tally l e N) :
    Leg finished finished' (tally l e (.enter s e' sends ::ₘ N))
      ((Deed.work c (.enter s e' sends)).sight? l e) (tally l e (fs + N)) := by
  rw [quiet]
  by_cases he : e' = e
  · have seen : (Deed.work c (.enter s e' sends)).sight? l e = some .processed := if_pos he
    have before : tally l e (.enter s e' sends ::ₘ N) = tally l e N + { entering := 1 } := by
      simp [he]
    rw [seen, before]
    exact .processes _ (heralded.undelivered l)
  · have unseen : (Deed.work c (.enter s e' sends)).sight? l e = none := if_neg he
    rw [unseen]
    exact .of_eq (by simp [he])

/-- A task looks up who is to be told of an event, and a listener that attends is one of them. -/
theorem leg_announce (event : ExchangeEvent) (e' : ExchangeId) (ls : List String)
    (attends : ∀ event', (event == event' && e' == e) = true → ls.count l = 1) :
    Leg finished finished' (tally l e (.announce event e' ::ₘ N)) none
      (tally l e (([.notify event e' ls] : List Frame) + N)) := by
  have tells (event' : ExchangeEvent) :
      Frame.tells l event' e (.notify event e' ls) =
        Frame.tells l event' e (.announce event e') := by
    simp only [Frame.tells]
    by_cases same : (event == event' && e' == e) = true
    · rw [if_pos same, attends event' same, same]
      rfl
    · rw [if_neg same, eq_false_of_ne_true same]
      rfl
  exact .of_eq (by simp [-Frame.tells, tells])

/-- An exchange that nobody has goes on its way. -/
theorem leg_accept (s : SlotId) {h : Hop}
    (fresh : h.exchange = e → finished = false ∧ count (Frame.brings e) N = 0 ∧
      count (Frame.wakes e) N + count (Frame.enters e) N = 0) :
    Leg finished finished' (tally l e (.accept s h.exchange ::ₘ N)) none
      (tally l e (([.announce .sent h.exchange, .sent h] : List Frame) + N)) := by
  by_cases he : h.exchange = e
  · obtain ⟨going, carrying, handing⟩ := fresh he
    have before : tally l e (.accept s h.exchange ::ₘ N) = tally l e N := by simp
    have after : tally l e (([.announce .sent h.exchange, .sent h] : List Frame) + N) =
        tally l e N + { carrying := 1, unsent := 1 } := by
      simp [he, Nat.add_comm]
    rw [before, after]
    exact .accepts _ going carrying handing
  · exact .of_eq (by simp [he])

/-- A flow is given an exchange. -/
theorem leg_carries (fl : Flow) {h : Hop} (s : SlotId) (hop : f.hop? = some h) :
    Leg finished finished' (tally l e (f ::ₘ N)) none
      (tally l e (([Frame.carryFrame fl h s, .routed h] : List Frame) + N)) := by
  obtain carrier | ⟨name, carrier⟩ := Frame.eq_of_isCarrier (Frame.isCarrier_carryFrame fl h s)
  all_goals
    rw [carrier]
    cases f with
    | route | offer | offered | routeTo | reaching =>
      all_goals
        cases hop
        exact .of_eq (by simp)
    | _ => cases hop

/-- An exchange has come to where it should go and is about to be given to somebody. -/
theorem leg_lands {s : SlotId} {e' : ExchangeId} {g : Frame} (heralded : Heralded N)
    (arrives : (∃ role, f = .hand s e' ∧ g = .wake e' role) ∨
      ∃ sends, f = .process s e' ∧ g = .enter s e' sends) :
    Leg finished finished' (tally l e (f ::ₘ N)) none
      (tally l e (([.announce .delivered e', g] : List Frame) + N)) := by
  by_cases he : e' = e
  · have before : tally l e (f ::ₘ N) = tally l e N + { carrying := 1 } := by
      rcases arrives with ⟨_, rfl, -⟩ | ⟨_, rfl, -⟩ <;> simp [he]
    rw [before]
    rcases arrives with ⟨role, -, rfl⟩ | ⟨sends, -, rfl⟩
    · have after : tally l e (([.announce .delivered e', .wake e' role] : List Frame) + N) =
          tally l e N + { waking := 1, entering := 0, undelivered := 1 } := by
        simp [he, Nat.add_comm]
      rw [after]
      exact .lands _ 1 0 rfl (heralded.unsent l)
    · have after : tally l e (([.announce .delivered e', .enter s e' sends] : List Frame) + N) =
          tally l e N + { waking := 0, entering := 1, undelivered := 1 } := by
        simp [he, Nat.add_comm]
      rw [after]
      exact .lands _ 0 1 rfl (heralded.unsent l)
  · rcases arrives with ⟨_, rfl, rfl⟩ | ⟨_, rfl, rfl⟩ <;> exact .of_eq (by simp [he])

/-- What happens to an exchange when a task works on a frame. -/
theorem Frame.Becomes.leg (b : Becomes c r f o) (ready : f.pending c.reply = f)
    (alive : f.isDelivery = true → c.alive = true)
    (attends : ∀ event, (Deed.work c f).announces event e = true →
      (hearing r Listener.hearsExchanges).count l = 1)
    (heralded : Heralded N)
    (alone : ∀ s, f = .accept s e → (r.accept e s).1.isOk = true →
      (r.exchange e).completed = false ∧ count (brings e) N = 0 ∧
        count (Frame.wakes e) N + count (enters e) N = 0)
    (flows : ∀ h err, .lost h err ∈ o.frames → h.exchange = e → h.first = false →
      c.reply.choice? = none ∧ ∃ s, f = .reaching h s) :
    Leg (r.exchange e).completed ((o.router r).exchange e).completed (tally l e (f ::ₘ N))
      ((Deed.work c f).sight? l e) (tally l e (o.frames + N)) := by
  cases b
  case announce event e' => exact leg_announce event e' _ attends
  case notify event e' l' ls => exact leg_notify event e' l' ls
  case accept s e' r' accepted =>
    refine leg_accept s (h := ⟨s, e', _, _, _⟩) fun he => ?_
    subst he
    exact alone s rfl (by rw [accepted]; rfl)
  case strandWaiter h err later waits =>
    refine leg_lost err later [.wake h.exchange h.role] (.inr rfl) fun he => ?_
    rw [Outcome.router, ← he, Router.exchange_setExchange_self]
    rfl
  case strand h err later free =>
    refine leg_lost err later [] (.inl rfl) fun he => ?_
    rw [Outcome.router, ← he, Router.exchange_setExchange_self]
    rfl
  case sendBack h err first => exact .of_eq (by simp [first])
  case wake e' role => exact leg_wake e' role heralded
  case calls | posts | notPosted => all_goals exact leg_enter _ _ _ _ heralded (by simp)
  case noWay h err _ | noCandidate h _ _ err | gone h _ err _ | noFlowBack h _ err _ =>
    all_goals exact leg_loses err rfl heralded (flows h err (List.mem_singleton_self _))
  case pins h target s rest denied r' fl pinned => exact leg_carries fl s rfl
  case reaches h s fl chosen =>
    have unseen : (Deed.work c (.reaching h s)).sight? l e = none :=
      if_neg fun seen => by rw [chosen] at seen; cases seen.2.2
    rw [unseen]
    exact leg_carries fl s rfl
  case notDelivered gone => cases (alive rfl).symm.trans gone
  case answers s e' waits => exact leg_lands heralded (.inl ⟨_, rfl, rfl⟩)
  case process s e' => exact leg_lands heralded (.inr ⟨_, rfl, rfl⟩)
  case refused err refused =>
    rw [refused] at ready
    cases ready
  all_goals exact .of_eq (by simp)

/-- A flow keeps faith: before it is through with an exchange it has had it delivered, and then it
does not refuse it. -/
def Deed.keepsFaith : Deed → Bool
  | .answer (.carry _ _ _ delivered) refused => delivered && !refused
  | _ => true

/-- All that nobody but a task at work does leaves as much to be done as there was. -/
theorem Effect.tally_eq {d : Deed} {r r' : Router} {D D' : Multiset Frame}
    (ef : Effect true d r D r' D') (work : ∀ c f, d ≠ .work c f) (faith : d.keepsFaith = true) :
    tally l e D' = tally l e D := by
  cases ef with
  | idle | operate => all_goals rfl
  | work => exact absurd rfl (work _ _)
  | @request r D f request other =>
    cases f with
    | send | sendSync | register | unregister | receive => all_goals simp
    | deliver s e' => exact absurd rfl (other s e')
    | _ => cases request
  | deliver s e' wild => cases wild
  | delivers | fork => all_goals simp
  | @answer r c refused N carried =>
    cases c with
    | carry name h s delivered =>
      obtain rfl : delivered = true := (Bool.and_eq_true_iff.1 faith).1
      simp
    | _ => simp
  | refuse err N undelivered => simp [Deed.keepsFaith] at faith

end

end MessageRouter.Engine
