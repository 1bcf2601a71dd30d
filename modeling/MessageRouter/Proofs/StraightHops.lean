import MessageRouter.Proofs.Attendance
import MessageRouter.Proofs.Failures
import MessageRouter.Proofs.LaterHops

/-!
# Sends to a slot that is known

A later send goes to the other party of its exchange.  It is carried straight through to the slot
of this party unless a flow takes it elsewhere, and it is handed over before its dispatch returns
(`Run.arrives`).  Nothing on this way asks whether the slot has been closed or retired.
-/

namespace MessageRouter

namespace Exchange

variable {x x' : Exchange} {role : Role} {s s' : SlotId} {n : Nat}

/-- The exchange has been sent `n` times, and its latest send goes to a slot. -/
structure Heads (x : Exchange) (role : Role) (s : SlotId) (n : Nat) : Prop where
  role : x.role = role
  counterpart : x.counterpart = some s
  sends : x.sends = n

theorem Heads.congr (heads : x.Heads role s n) (turn : x'.role = x.role)
    (source : x'.source = x.source) (destination : x'.destination = x.destination)
    (sends : x'.sends = x.sends) : x'.Heads role s n :=
  ⟨turn.trans heads.role, (counterpart_congr turn source destination).trans heads.counterpart,
    sends.trans heads.sends⟩

/-- A send goes to the party whose turn it is not. -/
theorem heads_sentBy (h : x.counterpart = some s) :
    (x.sentBy s').Heads x.role s (x.sends + 1) := by
  refine ⟨rfl, ?_, rfl⟩
  unfold counterpart at h ⊢
  cases hr : x.role with
  | consumer => simpa [sentBy, hr] using h
  | provider =>
    rw [hr] at h
    simp [sentBy, hr, show x.source = some s from h]

end Exchange

namespace Engine

variable {c : Context} {r : Router} {e : ExchangeId} {s : SlotId} {hop : Hop} {d : Deed}
  {f g : Frame} {o : Outcome} {x x' : Exchange} {D D' : Multiset Frame} {role : Role} {n : Nat}

namespace Frame

/-- A dispatch takes an exchange to a slot. -/
inductive Seeks (hop : Hop) (s : SlotId) : Frame → Prop
  | sent : Seeks hop s (.sent hop)
  | route : Seeks hop s (.route hop)
  | routeTo : Seeks hop s (.routeTo hop s)
  | reaching : Seeks hop s (.reaching hop s)

/-- The exchange has come to the slot and is about to be handed over. -/
inductive Brings (s : SlotId) (e : ExchangeId) : Frame → Prop
  | deliver : Brings s e (.deliver s e)
  | hand : Brings s e (.hand s e)

/-- A dispatch that takes an exchange to a slot finds its way there, as long as the slot is in the
router and the flow that takes it carries it straight through. -/
theorem Becomes.goesOn (b : Becomes c r f o) (hf : f.Seeks hop s)
    (counterpart : (r.exchange hop.exchange).counterpart = some s)
    (present : f = .routeTo hop s → r.isPresent s = true)
    (straight : f = .reaching hop s →
      ∃ fl, c.reply = .chosen (some fl) ∧ fl.kind = .straightThrough) :
    o.router r = r ∧ ((∃ above g, o.above = above ++ [g] ∧ g.Seeks hop s) ∨
      o.above = [.deliver s hop.exchange, .routed hop]) := by
  cases hf with
  | sent =>
    cases b
    exact ⟨rfl, .inl ⟨[], _, rfl, .route⟩⟩
  | route =>
    unfold Exchange.counterpart at counterpart
    cases b with
    | searches turn unpinned =>
      rw [turn] at counterpart
      cases unpinned.symm.trans counterpart
    | @goesTo h' s' known =>
      obtain rfl : s' = s := by
        rcases known with ⟨hr, hs⟩ | ⟨hr, hs⟩
        · rw [hr] at counterpart
          exact Option.some.inj (hs.symm.trans counterpart)
        · rw [hr] at counterpart
          exact Option.some.inj (hs.symm.trans counterpart)
      exact ⟨rfl, .inl ⟨[], _, rfl, .routeTo⟩⟩
    | noWay err unknown =>
      rcases unknown with ⟨hr, hs⟩ | ⟨hr, hs⟩
      · rw [hr] at counterpart
        cases hs.symm.trans counterpart
      · rw [hr] at counterpart
        cases hs.symm.trans counterpart
  | routeTo =>
    cases b with
    | seeks => exact ⟨rfl, .inl ⟨[_], _, rfl, .reaching⟩⟩
    | gone err absent => cases absent.symm.trans (present rfl)
  | reaching =>
    obtain ⟨fl, chosen, kind⟩ := straight rfl
    cases b with
    | reaches fl' chosen' =>
      obtain rfl : fl = fl' := by
        rw [chosen] at chosen'
        cases chosen'
        rfl
      refine ⟨rfl, .inr ?_⟩
      rw [Outcome.above, carryFrame, kind]
    | noFlowBack err none => exact absurd chosen (none fl)

end Frame

/-- A send that is on its way to a slot stays so, as long as no party that has waited takes the
exchange back. -/
theorem Turn.heads (t : Turn true e d x D x' D') (sound : Sound x D) (hg : g ∈ D)
    (onWay : g.Seeks hop s ∨ g.Brings s e) (left : d.takesBack e = false)
    (heads : x.Heads role s n) : x'.Heads role s n := by
  have carries : g.carries = true := by
    rcases onWay with seeks | brings
    · cases seeks <;> rfl
    · cases brings <;> rfl
  cases t with
  | @work c f x x' fs N w =>
    by_cases hf : f.carries = true
    · obtain rfl : g = f := (Multiset.mem_cons.1 hg).resolve_right fun hg =>
        absurd (carries.symm.trans (sound.custody.alone hf hg)) (by decide)
      have same : x'.role = x.role ∧ x'.source = x.source ∧ x'.destination = x.destination ∧
          x'.sends = x.sends := by
        rcases onWay with seeks | brings
        · cases seeks <;> cases w <;> exact ⟨rfl, rfl, rfl, rfl⟩
        · cases brings <;> cases w <;> exact ⟨rfl, rfl, rfl, rfl⟩
      exact heads.congr same.1 same.2.1 same.2.2.1 same.2.2.2
    · rcases w.aside (eq_false_of_ne_true hf) with ⟨s', rfl, allowed, -⟩ | ⟨role', rfl, -⟩ | aside
      · have arrived := (Exchange.checkSend_ok.1 allowed).1.arrived
        cases carries.symm.trans (sound.custody.carries_eq_false arrived hg)
      · rw [Deed.takesBack, beq_self_eq_true] at left
        cases left
      · have aside := aside N
        exact heads.congr aside.role aside.source aside.destination aside.sends
  | deliver s' wild => cases wild
  | create p => cases heads.counterpart
  | change c changed =>
    have same := (Exchange.change_ok changed).1
    exact heads.congr same.role same.source same.destination same.sends
  | _ => exact heads

/-! ## The way of a send -/

/-- As long as the `n`-th send of an exchange is in transit, no party that has waited takes the
exchange back. -/
def LeftInTransit (e : ExchangeId) (n : Nat) (h : History) : Prop :=
  ∀ q ∈ h, (q.1.router.exchange e).inTransit = true → (q.1.router.exchange e).sends = n →
    (q.1.deed q.2).takesBack e = false

/-- Whatever a task with `n` frames below carries to a slot is carried straight through. -/
def CarriedStraight (t n : Nat) (s : SlotId) (h : History) : Prop :=
  ∀ q ∈ h, ∀ hop, q.1.ComesTo t (.reaching hop s) n q.2 →
    ∃ fl, (q.1.task t).reply = .chosen (some fl) ∧ fl.kind = .straightThrough

/-- A task with `n` frames below hands an exchange to a slot, or to a party that waits for it. -/
def HandsOver (t n : Nat) (e : ExchangeId) (s : SlotId) (role : Role) (h : History) : Prop :=
  ∃ q ∈ h, (∃ g, q.1.ComesTo t g n q.2) ∧ ∃ given,
    (q.1.deed q.2).hands? e (q.1.router.exchange e) = some given ∧
      (given = .calls s ∨ given = .wakes role)

/-- How far a task has come with a send that goes to a slot. -/
inductive Passage (t : Nat) (hop : Hop) (s : SlotId) (n : Nat) (below : List Frame) (h : History)
    (m : Machine) : Prop
  | seeks (above : List Frame) (g : Frame) (frames : (m.task t).frames = above ++ g :: below)
    (seeks : g.Seeks hop s) (heads : (m.router.exchange hop.exchange).Heads hop.role s n)
  | brings (g : Frame) (frames : (m.task t).frames = g :: .routed hop :: below)
    (brings : g.Brings s hop.exchange)
    (heads : (m.router.exchange hop.exchange).Heads hop.role s n)
  | wakes (above : List Frame) (frames : (m.task t).frames =
      above ++ .wake hop.exchange hop.role.opposite :: .routed hop :: below)
  | handed (handed : HandsOver t (below.length + 1) hop.exchange s hop.role.opposite h)

/-- A task has something to do above `n` frames, and it can go on with it unless it has called
someone who has not answered. -/
def Machine.IsAtWork (m : Machine) (t n : Nat) : Prop :=
  n < (m.task t).frames.length ∧ ((m.move? (.advance t)).isSome = true ∨
    ∃ above c rest, (m.task t).frames = above ++ .call c :: rest ∧ n < rest.length)

section

variable {config : Config} {m m' m₁ : Machine} {mv : Move} {h h₀ : History} {t : Nat}
  {below : List Frame} {a : Sending}

/-- Nothing but a call keeps a task from what stands above a frame that does not have to wait. -/
theorem Run.isAtWork (run : Run config h m) {above : List Frame} {g : Frame}
    (frames : (m.task t).frames = above ++ g :: below) (patient : g.isPatient = false)
    (call : ∀ c, g ≠ .call c) : m.IsAtWork t below.length := by
  refine ⟨by simp [frames]; omega, ?_⟩
  have go {f : Frame} {rest : List Frame} (frames : (m.task t).frames = f :: rest)
      (patient : f.isPatient = false) (call : ∀ c, f ≠ .call c) :
      (m.move? (.advance t)).isSome = true :=
    Option.isSome_iff_exists.2
      ⟨_, Machine.advance_of_step frames rfl (Frame.step_ne_blocked patient call)⟩
  cases above with
  | nil => exact .inl (go frames patient call)
  | cons f above =>
    by_cases asks : ∃ c, f = .call c
    · obtain ⟨c, rfl⟩ := asks
      exact .inr ⟨[], c, above ++ g :: below, frames, by simp; omega⟩
    · cases waits : f.isPatient with
      | false => exact .inl (go frames waits fun c hc => asks ⟨c, hc⟩)
      | true =>
        have grounded := run.grounded t
        rw [frames] at grounded
        obtain ⟨c, hc⟩ := grounded.1 waits
        cases above with
        | nil => exact absurd (Option.some.inj hc) (call c)
        | cons f' above =>
          obtain rfl : f' = .call c := Option.some.inj hc
          exact .inr ⟨[f], c, above ++ g :: below, frames, by simp; omega⟩

theorem HandsOver.cons (handed : HandsOver t n e s role h) (q : Machine × Move) :
    HandsOver t n e s role (q :: h) :=
  handed.imp fun _ hq => ⟨List.mem_cons_of_mem _ hq.1, hq.2⟩

theorem HandsOver.of_work {f : Frame} {given : Handing} (frames : (m.task t).frames = f :: below)
    (hands : (Deed.work ⟨m.routerAlive, m.now, (m.task t).reply⟩ f).hands? e
      (m.router.exchange e) = some given) (toward : given = .calls s ∨ given = .wakes role) :
    HandsOver t below.length e s role ((m, .advance t) :: h) :=
  ⟨_, List.mem_cons_self, ⟨f, rfl, below, frames, rfl⟩, given,
    by rw [Machine.deed_advance frames, hands], toward⟩

namespace Passage

section

variable (run : Run config h₀ m) (tame : Tame ((m, mv) :: h₀)) (hm : m.move? mv = some m')
  (left : (m.router.exchange hop.exchange).inTransit = true →
    (m.router.exchange hop.exchange).sends = n → (m.deed mv).takesBack hop.exchange = false)

include run tame hm left

/-- The exchange goes on heading for the slot. -/
theorem heads_move {g : Frame} (hg : g ∈ (m.task t).frames)
    (onWay : g.Seeks hop s ∨ g.Brings s hop.exchange)
    (heads : (m.router.exchange hop.exchange).Heads hop.role s n) :
    (m'.router.exchange hop.exchange).Heads hop.role s n := by
  have ⟨carries, about, hop'⟩ : g.carries = true ∧ g.isAbout hop.exchange = true ∧
      ∀ h, g ≠ .routed h := by
    rcases onWay with seeks | brings
    · cases seeks <;> exact ⟨rfl, beq_self_eq_true _, nofun⟩
    · cases brings <;> exact ⟨rfl, beq_self_eq_true _, nofun⟩
  have duty := Machine.mem_dutiesFor hg about hop'
  have sound := run.sound tame.tail hop.exchange
  have inTransit : (m.router.exchange hop.exchange).inTransit = true := by
    by_contra arrived
    cases carries.symm.trans (sound.custody.carries_eq_false (eq_false_of_ne_true arrived) duty)
  have turn : Turn true hop.exchange _ _ _ _ _ :=
    Machine.turn_of_move run.stacked (fun _ => tame _ List.mem_cons_self) hm hop.exchange
  exact turn.heads sound duty onWay (left inTransit heads.sends) heads

theorem seeks_move {above : List Frame} {g : Frame}
    (frames : (m.task t).frames = above ++ g :: below) (seeks : g.Seeks hop s)
    (heads : (m.router.exchange hop.exchange).Heads hop.role s n)
    (straight : m.ComesTo t (.reaching hop s) below.length mv →
      ∃ fl, (m.task t).reply = .chosen (some fl) ∧ fl.kind = .straightThrough) :
    Passage t hop s n below ((m, mv) :: h) m' := by
  have heads' := heads_move run tame hm left (by rw [frames]; simp) (.inl seeks) heads
  cases above with
  | cons a above =>
    obtain ⟨above', frames'⟩ := Machine.frames_of_move hm frames
    exact .seeks (above' ++ above) g (frames'.trans (List.append_assoc ..).symm) seeks heads'
  | nil =>
    have call : ∀ c, g ≠ .call c := by
      rintro c rfl
      cases seeks
    rcases Machine.work_of_move hm frames call with ⟨hsame, -⟩ | ⟨rfl, o, b, frames', -, -⟩
    · exact .seeks [] g (hsame ▸ frames) seeks heads'
    · have mem : g ∈ (m.task t).frames := frames ▸ List.mem_cons_self
      have found := b.goesOn seeks heads.counterpart
        (fun hg => (run.keepsAccounts tame.tail).reachable t hop s (hg ▸ mem))
        (fun hg => straight ⟨rfl, below, hg ▸ frames, rfl⟩)
      rcases found with ⟨-, ⟨above, g', habove, seeks'⟩ | habove⟩
      · rw [habove] at frames'
        exact .seeks above g' (frames'.trans (List.append_assoc ..)) seeks' heads'
      · rw [habove] at frames'
        exact .brings _ frames' .deliver heads'

theorem brings_move {g : Frame} (frames : (m.task t).frames = g :: .routed hop :: below)
    (brings : g.Brings s hop.exchange)
    (heads : (m.router.exchange hop.exchange).Heads hop.role s n) :
    Passage t hop s n below ((m, mv) :: h) m' := by
  have heads' := heads_move run tame hm left (by rw [frames]; simp) (.inr brings) heads
  have call : ∀ c, g ≠ .call c := by
    rintro c rfl
    cases brings
  rcases Machine.work_of_move hm frames call with ⟨hsame, -⟩ | ⟨rfl, o, b, frames', -, -⟩
  · exact .brings g (hsame ▸ frames) brings heads'
  · cases brings with
    | deliver =>
      have alive : m.routerAlive = true :=
        Machine.routerAlive_of_mem (t := t) (f := .routed hop) (by rw [frames]; simp) rfl
      cases b with
      | deliver => exact .brings _ frames' .hand heads'
      | notDelivered gone => cases gone.symm.trans alive
    | hand =>
      cases b with
      | answers waits =>
        rw [heads.role] at frames'
        exact .wakes [.announce .delivered hop.exchange] frames'
      | turnsOver busy | leaves lane apart busy =>
        all_goals
          refine .handed (HandsOver.of_work frames ?_ (.inl rfl))
          rw [Deed.hands?, if_pos ⟨rfl, busy⟩]

end

theorem wakes_move {above : List Frame} (hm : m.move? mv = some m')
    (frames : (m.task t).frames =
      above ++ .wake hop.exchange hop.role.opposite :: .routed hop :: below) :
    Passage t hop s n below ((m, mv) :: h) m' := by
  cases above with
  | cons a above =>
    obtain ⟨above', frames'⟩ := Machine.frames_of_move hm frames
    exact .wakes (above' ++ above) (frames'.trans (List.append_assoc ..).symm)
  | nil =>
    rcases Machine.work_of_move hm frames (fun c h => by cases h) with
      ⟨hsame, -⟩ | ⟨rfl, o, b, frames', -, -⟩
    · exact .wakes [] (hsame ▸ frames)
    · refine .handed (HandsOver.of_work frames ?_ (.inr rfl))
      rw [Deed.hands?, if_pos rfl]

end Passage

/-- A send that is on its way to a slot gets there if it is carried straight through. -/
theorem Path.passage (run : Run config h₀ m₁) (p : Path m₁ h m) (tame : Tame (h ++ h₀))
    (left : LeftInTransit hop.exchange n h) (straight : CarriedStraight t below.length s h)
    (start : Passage t hop s n below [] m₁) : Passage t hop s n below h m := by
  induction p with
  | nil => exact start
  | cons p hm ih =>
    have run' := run.append p
    have left' := left _ List.mem_cons_self
    have straight' := straight _ List.mem_cons_self hop
    rcases ih tame.tail (fun q hq => left q (List.mem_cons_of_mem _ hq))
      (fun q hq => straight q (List.mem_cons_of_mem _ hq)) with
      ⟨above, g, frames, seeks, heads⟩ | ⟨g, frames, brings, heads⟩ | ⟨above, frames⟩ | handed
    · exact Passage.seeks_move run' tame hm left' frames seeks heads straight'
    · exact Passage.brings_move run' tame hm left' frames brings heads
    · exact Passage.wakes_move hm frames
    · exact .handed (handed.cons _)

/-- An accepted send to a party that the exchange names is handed over to the slot of this party, or
to whoever waits for it, if it is carried straight through and no party that has waited takes the
exchange back while it is on its way.  Until then its task is at work. -/
theorem Run.arrives (run : Run config h₀ m) (hm : m.move? (.advance t) = some m₁)
    (frames : (m.task t).frames = .accept a.sender e :: below)
    (accepted : m.accepted? e (.advance t) = some a) (toward : a.state.counterpart = some s)
    (p : Path m₁ h m') (tame : Tame (h ++ (m, .advance t) :: h₀))
    (left : LeftInTransit e (a.state.sends + 1) h)
    (straight : CarriedStraight t below.length s h) :
    HandsOver t (below.length + 1) e s a.state.role.opposite h ∨
      m'.IsAtWork t below.length := by
  obtain ⟨-, state, -, sent⟩ := Machine.accepted?_eq_some hm accepted
  have run₁ : Run config ((m, .advance t) :: h₀) m₁ := run.append (.cons .nil hm)
  have run' := run₁.append p
  obtain ⟨hop, he, hr, frames₁⟩ : ∃ hop : Hop, hop.exchange = e ∧ hop.role = a.state.role ∧
      (m₁.task t).frames = [.announce .sent e] ++ .sent hop :: below := by
    rcases Machine.work_of_move hm frames (fun c h => by cases h) with
      ⟨-, other⟩ | ⟨-, o, b, frames₁, -, -⟩
    · exact absurd rfl other
    · cases b with
      | accept => exact ⟨_, rfl, state ▸ rfl, frames₁⟩
      | notAccepted err refused =>
        simp [Machine.accepted?, Machine.deed_advance frames, refused, Except.isOk,
          Except.toBool] at accepted
  subst he
  have start : Passage t hop s (a.state.sends + 1) below [] m₁ := by
    refine .seeks _ _ frames₁ .sent ?_
    rw [sent, hr]
    exact Exchange.heads_sentBy toward
  rw [← hr]
  rcases Path.passage run₁ p tame left straight start with
    ⟨above, g, frames, seeks, -⟩ | ⟨g, frames, -⟩ | ⟨above, frames⟩ | handed
  · refine .inr (run'.isAtWork frames ?_ ?_)
    · cases seeks <;> rfl
    · intro c call
      cases seeks <;> cases call
  · have frames : (m'.task t).frames = [g] ++ .routed hop :: below := frames
    exact .inr (run'.isAtWork frames rfl fun c h => by cases h)
  · rw [← List.singleton_append, ← List.append_assoc] at frames
    exact .inr (run'.isAtWork frames rfl fun c h => by cases h)
  · exact .inl handed

end

end Engine

end MessageRouter
