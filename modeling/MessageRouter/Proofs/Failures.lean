import MessageRouter.Proofs.Conversation
import MessageRouter.Proofs.Handing

/-!
# When an endpoint fails

When the process of a slot has failed, the exchange is sent back as failed, through the channel of
the slot and by the rules for sending.  `Run.reported_iff` says when the other party gets it.
-/

namespace MessageRouter

namespace Exchange

variable {x x' : Exchange} {s : SlotId}

/-- An exchange carries only what its pattern allows. -/
structure KeepsPattern (x : Exchange) : Prop where
  output : x.output.isSome = true → x.pattern.allowsOut = true
  fault : x.fault.isSome = true → x.pattern.allowsFault = true

theorem KeepsPattern.change {c : Change} (h : x.KeepsPattern) (hc : x.change c = .ok x') :
    x'.KeepsPattern := by
  rcases replies_of_change hc with ⟨slot, m, allowed, rfl⟩ | ⟨output, fault⟩
  · cases slot with
    | input => exact ⟨h.output, h.fault⟩
    | output => exact ⟨fun _ => allowed, h.fault⟩
    | fault => exact ⟨h.output, fun _ => allowed⟩
  · have same := (change_ok hc).1.pattern
    constructor
    · rw [output, same]
      exact h.output
    · rw [fault, same]
      exact h.fault

/-- A slot has the turn, and there is another party. -/
def HasTurn (x : Exchange) (s : SlotId) : Prop :=
  x.role = .provider ∧ x.destination = some s ∨
    x.role = .consumer ∧ x.source = some s ∧ x.destination.isSome = true ∧ x.pattern ≠ .inOnly

theorem HasTurn.counterpart (turn : x.HasTurn s)
    (started : x.destination.isSome = true → x.source.isSome = true) :
    x.counterpart.isSome = true := by
  unfold Exchange.counterpart
  rcases turn with ⟨hr, hs⟩ | ⟨hr, -, hd, -⟩
  · rw [hr]
    exact started (by rw [hs]; rfl)
  · rw [hr]
    exact hd

/-- An exchange that has failed may be sent by whoever has the turn, but not with two answers. -/
theorem checkSend_of_failed (failed : x.status = .error) (going : x.completed = false)
    (arrived : x.inTransit = false) (keeps : x.KeepsPattern)
    (counterpart : x.counterpart.isSome = true) :
    x.checkSend s = .ok () ↔ (x.output = none ∨ x.fault = none) ∧ x.HasTurn s := by
  rw [checkSend_ok]
  constructor
  · rintro ⟨rest, opens | answers | closes⟩
    · exact absurd (failed.symm.trans opens.active) (by decide)
    · exact ⟨rest.oneReply, .inl ⟨answers.turn, answers.sender⟩⟩
    · refine ⟨rest.oneReply, .inr ⟨closes.turn, closes.sender, ?_, closes.pattern⟩⟩
      rwa [Exchange.counterpart, closes.turn] at counterpart
  · rintro ⟨oneReply, turn⟩
    refine ⟨⟨going, arrived, oneReply, keeps.output, keeps.fault⟩, .inr ?_⟩
    rcases turn with ⟨hr, hs⟩ | ⟨hr, hs, -, hp⟩
    · refine .inl ⟨hr, hs, fun active => ?_, fun done => ?_⟩
      · exact absurd (failed.symm.trans active) (by decide)
      · exact absurd (failed.symm.trans done) (by decide)
    · refine .inr ⟨hr, hs, ?_, hp⟩
      rw [failed]
      rfl

end Exchange

namespace Engine

namespace Machine

variable {m m' : Machine} {t : Nat} {s : SlotId} {e : ExchangeId} {f : Failure}
  {rest : List Frame}

/-- The process of a slot has failed; the exchange that was delivered to it is still active and has
not been sent since. -/
structure Failing (m : Machine) (t : Nat) (s : SlotId) (e : ExchangeId) (f : Failure)
    (rest : List Frame) : Prop where
  frames : (m.task t).frames = .handle s e (m.router.exchange e).sends :: rest
  reply : (m.task t).reply = .failed f
  arrived : (m.router.exchange e).inTransit = false
  active : (m.router.exchange e).status = .active

/-- The exchange of an endpoint that has failed is sent back. -/
theorem Failing.step (failing : m.Failing t s e f rest) (hm : m.move? (.advance t) = some m') :
    (m'.task t).frames = .announce .failed e :: .dispatch s e :: .yields .done :: rest ∧
      m'.router.exchange e = (m.router.exchange e).fail f := by
  simp only [move?, advance?, failing.frames, failing.reply, Frame.step, Frame.stepHandle,
    failing.arrived, failing.active, and_self, if_true, Option.some.injEq] at hm
  subst hm
  refine ⟨?_, Router.exchange_setExchange_self ..⟩
  rw [task_setTask_self]
  rfl

end Machine

/-- In every run an exchange carries only what its pattern allows. -/
theorem Run.keepsPattern {config : Config} {h : History} {m : Machine} (run : Run config h m)
    (e : ExchangeId) : (m.router.exchange e).KeepsPattern := by
  refine run.turns (P := fun x _ => x.KeepsPattern) e (fun h : false = true => by cases h) ?_ ?_
  · exact ⟨(fun h => by cases h), fun h => by cases h⟩
  · intro d x D x' D' keeps t
    cases t with
    | work w =>
      cases w with
      | strandWaiter | strand =>
        all_goals exact ⟨by simpa using keeps.output, by simpa using keeps.fault⟩
      | _ => exact ⟨keeps.output, keeps.fault⟩
    | create p => exact ⟨(fun h => by cases h), fun h => by cases h⟩
    | change c changed => exact keeps.change changed
    | _ => exact keeps

/-! ## The reply of an endpoint that has failed -/

/-- A task comes to a frame that stands on `n` others. -/
def Machine.ComesTo (m : Machine) (t : Nat) (g : Frame) (n : Nat) (mv : Move) : Prop :=
  mv = .advance t ∧ ∃ below, (m.task t).frames = g :: below ∧ below.length = n

/-- A reply that stands on `n` frames finds the channel of its slot open. -/
def FindsOpen (t : Nat) (s : SlotId) (e : ExchangeId) (n : Nat) (h : History) : Prop :=
  ∀ q ∈ h, q.1.ComesTo t (.dispatch s e) n q.2 → (q.1.router.slot s).closed = false

/-- How far a task has come with the reply.  `allowed` says that the rules for sending let it
through. -/
inductive Stage (t : Nat) (s : SlotId) (e : ExchangeId) (rest : List Frame) (allowed : Prop)
    (h : History) (m : Machine) : Prop
  | waits (above : List Frame)
    (frames : (m.task t).frames = above ++ .dispatch s e :: .yields .done :: rest)
    (isOpen : FindsOpen t s e (rest.length + 1) h) (unsent : sendings e h = [])
  | comes (frames : (m.task t).frames = .accept s e :: .yields .done :: rest)
    (isOpen : FindsOpen t s e (rest.length + 1) h) (unsent : sendings e h = [])
  | refused
    (frames : (m.task t).frames = .yields .done :: rest ∨ (m.task t).frames = rest)
    (why : ¬(FindsOpen t s e (rest.length + 1) h ∧ allowed)) (unsent : sendings e h = [])
  | sent (above : List Frame) (g : Frame)
    (frames : (m.task t).frames = above ++ g :: .yields .done :: rest) (closes : g.closes = true)
    (about : g.isAbout e = true) (isOpen : FindsOpen t s e (rest.length + 1) h) (allow : allowed)
    (owed : handings e h ≠ [] ∨ ∃ a ∈ above ++ [g], a.owes = true ∧ a.isAbout e = true)
  | done
    (frames : (m.task t).frames = .yields .done :: rest ∨ (m.task t).frames = rest)
    (isOpen : FindsOpen t s e (rest.length + 1) h) (allow : allowed)
    (released : (m.router.exchange e).released = true) (handed : handings e h ≠ [])

section

variable {m m' : Machine} {mv : Move} {h : History} {t : Nat} {s : SlotId} {e : ExchangeId}
  {rest : List Frame} {allowed : Prop} {f : Frame}

theorem sendings_cons_of_none (hs : sendings e h = []) (ha : m.accepted? e mv = none) :
    sendings e ((m, mv) :: h) = [] := by
  rw [sendings, List.filterMap_cons, ha]
  exact hs

theorem handings_ne_nil (hh : handings e h ≠ []) : handings e ((m, mv) :: h) ≠ [] := by
  rw [handings_cons]
  exact List.append_ne_nil_of_right_ne_nil _ hh

theorem handings_ne_nil_of_hands {c : Context} (hd : m.deed mv = .work c f)
    (hh : ((Deed.work c f).hands? e (m.router.exchange e)).isSome = true) :
    handings e ((m, mv) :: h) ≠ [] := by
  obtain ⟨x, hx⟩ := Option.isSome_iff_exists.1 hh
  rw [handings_cons, hd, hx]
  exact List.cons_ne_nil _ _

theorem FindsOpen.cons (isOpen : FindsOpen t s e (rest.length + 1) h)
    (hq : m.ComesTo t (.dispatch s e) (rest.length + 1) mv → (m.router.slot s).closed = false) :
    FindsOpen t s e (rest.length + 1) ((m, mv) :: h) :=
  List.forall_mem_cons.2 ⟨hq, isOpen⟩

theorem FindsOpen.tail (isOpen : FindsOpen t s e (rest.length + 1) ((m, mv) :: h)) :
    FindsOpen t s e (rest.length + 1) h :=
  (List.forall_mem_cons.1 isOpen).2

/-- Another frame on top is not the one that a task would come to. -/
theorem not_comesTo {g : Frame} {n : Nat} {below : List Frame}
    (frames : (m.task t).frames = f :: below) (hne : f ≠ g) : ¬m.ComesTo t g n mv :=
  fun ⟨_, _, hg, _⟩ => hne (List.cons.inj (frames.symm.trans hg)).1

/-- What is on a stack above a frame of the reply is dealt with first. -/
theorem not_comesTo_of_above {a g g' : Frame} {above : List Frame}
    (frames : (m.task t).frames = a :: above ++ g' :: .yields .done :: rest) :
    ¬m.ComesTo t g (rest.length + 1) mv := fun ⟨_, below, hg, hlen⟩ => by
  obtain rfl := (List.cons.inj (frames.symm.trans hg)).2
  simp at hlen
  omega

/-- What a task must bring with it for the next move: the exchange is not dropped, and no send of
it is accepted but the reply. -/
structure Stage.Ready (t : Nat) (s : SlotId) (e : ExchangeId) (rest : List Frame) (allowed : Prop)
    (h : History) (m : Machine) (mv : Move) : Prop where
  tame : m.isTame mv = true
  kept : (m.deed mv).drops e = false
  under : rest.length < (m.task t).frames.length
  own : (m.accepted? e mv).isSome = true → m.ComesTo t (.accept s e) (rest.length + 1) mv
  accepts : sendings e h = [] → ((m.router.accept e s).1.isOk = true ↔ allowed)
  terminal : (m.router.exchange e).status.isTerminal = true

namespace Stage

theorem Ready.unsent (ready : Ready t s e rest allowed h m mv) (hs : sendings e h = [])
    (hr : ¬m.ComesTo t (.accept s e) (rest.length + 1) mv) : sendings e ((m, mv) :: h) = [] :=
  sendings_cons_of_none hs (Option.not_isSome_iff_eq_none.1 fun ha => hr (ready.own ha))

theorem waits_move {above : List Frame} (ready : Ready t s e rest allowed h m mv)
    (hm : m.move? mv = some m')
    (frames : (m.task t).frames = above ++ .dispatch s e :: .yields .done :: rest)
    (isOpen : FindsOpen t s e (rest.length + 1) h) (unsent : sendings e h = []) :
    Stage t s e rest allowed ((m, mv) :: h) m' := by
  cases above with
  | cons a above =>
    obtain ⟨above', frames'⟩ := Machine.frames_of_move hm frames
    refine .waits (above' ++ above) (frames'.trans (List.append_assoc ..).symm)
      (isOpen.cons fun hr => absurd hr (not_comesTo_of_above frames))
      (ready.unsent unsent (not_comesTo_of_above frames))
  | nil =>
    have unsent' := ready.unsent unsent (not_comesTo frames fun h => by cases h)
    rcases Machine.work_of_move hm frames (fun c h => by cases h) with
      ⟨hsame, hne⟩ | ⟨rfl, o, b, frames', -, -⟩
    · exact .waits [] (hsame ▸ frames) (isOpen.cons fun hr => absurd hr.1 hne) unsent'
    · cases b with
      | dispatch hopen => exact .comes frames' (isOpen.cons fun _ => hopen) unsent'
      | closed closed =>
        refine .refused (.inl frames') (fun hwhy => ?_) unsent'
        have := (List.forall_mem_cons.1 hwhy.1).1 ⟨rfl, _, frames, rfl⟩
        exact absurd (this.symm.trans closed) Bool.false_ne_true

theorem comes_move (ready : Ready t s e rest allowed h m mv) (hm : m.move? mv = some m')
    (frames : (m.task t).frames = .accept s e :: .yields .done :: rest)
    (isOpen : FindsOpen t s e (rest.length + 1) h) (unsent : sendings e h = []) :
    Stage t s e rest allowed ((m, mv) :: h) m' := by
  have isOpen' : FindsOpen t s e (rest.length + 1) ((m, mv) :: h) :=
    isOpen.cons fun hr => absurd hr (not_comesTo frames fun h => by cases h)
  rcases Machine.work_of_move hm frames (fun c h => by cases h) with
    ⟨hsame, hne⟩ | ⟨rfl, o, b, frames', -, -⟩
  · exact .comes (hsame ▸ frames) isOpen' (ready.unsent unsent fun hr => hne hr.1)
  · cases b with
    | accept accepted =>
      have allow := (ready.accepts unsent).1 (by rw [accepted]; rfl)
      refine .sent [.announce .sent e] _ frames' ready.terminal (beq_self_eq_true _) isOpen' allow
        (.inr ⟨_, List.mem_cons_of_mem _ List.mem_cons_self, rfl, beq_self_eq_true _⟩)
    | notAccepted err refused =>
      refine .refused (.inl frames') (fun hwhy => ?_) (sendings_cons_of_none unsent ?_)
      · have := (ready.accepts unsent).2 hwhy.2
        rw [refused] at this
        cases this
      · simp [Machine.accepted?, Machine.deed_advance frames, refused, Except.isOk, Except.toBool]

/-- A reply that is through leaves the stack to what was there before. -/
theorem through_move (hm : m.move? mv = some m') (under : rest.length < (m.task t).frames.length)
    (frames : (m.task t).frames = .yields .done :: rest ∨ (m.task t).frames = rest) :
    (m'.task t).frames = .yields .done :: rest ∨ (m'.task t).frames = rest := by
  rcases frames with frames | frames
  · rcases Machine.work_of_move hm frames (fun c h => by cases h) with
      ⟨hsame, -⟩ | ⟨rfl, o, b, frames', -, -⟩
    · exact .inl (hsame ▸ frames)
    · cases b
      exact .inr frames'
  · exact absurd under (by rw [frames]; exact Nat.lt_irrefl _)

theorem not_comesTo_of_through {g : Frame} (hg : g ≠ .yields .done)
    (under : rest.length < (m.task t).frames.length)
    (frames : (m.task t).frames = .yields .done :: rest ∨ (m.task t).frames = rest) :
    ¬m.ComesTo t g (rest.length + 1) mv := fun ⟨_, below, hframes, _⟩ => by
  rcases frames with frames | frames
  · exact hg (List.cons.inj (frames.symm.trans hframes)).1.symm
  · exact absurd under (by rw [frames]; exact Nat.lt_irrefl _)

/-- A flow that makes a request still owes the exchange, or has it delivered. -/
theorem exists_owes_request {g : Frame} {c : Call} (tame : m.isTame (.request t g) = true)
    (hc : (m.task t).call? = some c) (ho : (Frame.call c).owes = true)
    (about : (Frame.call c).isAbout e = true) :
    ∃ a ∈ [g, g.note (.call c)], a.owes = true ∧ a.isAbout e = true := by
  cases g with
  | deliver s' e' =>
    simp only [Machine.isTame, hc] at tame
    cases c with
    | carry name hop s'' delivered =>
      simp only [Bool.and_eq_true, beq_iff_eq] at tame
      have he : hop.exchange = e := Option.some.inj (beq_iff_eq.1 about)
      refine ⟨_, List.mem_cons_self, rfl, ?_⟩
      rw [Frame.isAbout, Frame.subject, tame.1.2, he, beq_self_eq_true]
    | _ => cases ho
  | _ => exact ⟨_, List.mem_cons_of_mem _ List.mem_cons_self, ho, about⟩

/-- A flow that is through while it owes the exchange has dropped it. -/
theorem answer_drops {c : Call} {reply : Reply} (hc : (m.task t).call? = some c)
    (ho : (Frame.call c).owes = true) (about : (Frame.call c).isAbout e = true) :
    (m.deed (.answer t reply)).drops e ≠ false := by
  cases c with
  | carry name hop s' delivered =>
    have he : hop.exchange = e := Option.some.inj (beq_iff_eq.1 about)
    have hd : delivered = false := by simpa [Frame.owes] using ho
    simp [Machine.deed, hc, Deed.drops, he, hd]
  | _ => cases ho

/-- What the frame on top of a stack owes is handed over with its move, or owed by what comes of
it. -/
theorem Ready.owes_move {a : Frame} {below : List Frame} (ready : Ready t s e rest allowed h m mv)
    (hm : m.move? mv = some m') (frames : (m.task t).frames = a :: below)
    (alive : m.routerAlive = true) :
    ∃ fs, (m'.task t).frames = fs ++ below ∧ (a.owes = true → a.isAbout e = true →
      handings e ((m, mv) :: h) ≠ [] ∨ ∃ g ∈ fs, g.owes = true ∧ g.isAbout e = true) := by
  have hlt : t < m.tasks.size :=
    Machine.lt_size_of_frames (by rw [frames]; exact List.cons_ne_nil _ _)
  rcases Machine.touches_of_move hm hlt with ⟨hsame, -⟩ | touches
  · exact ⟨[a], hsame ▸ frames, fun ho about => .inr ⟨a, List.mem_singleton_self a, ho, about⟩⟩
  · cases touches with
    | advance hframes b =>
      obtain ⟨rfl, rfl⟩ := List.cons.inj (frames.symm.trans hframes)
      have hd := Machine.deed_advance frames
      exact ⟨_, Machine.frames_settle b, fun ho about =>
        (b.owes ho about alive (hd ▸ ready.kept)).imp_left (handings_ne_nil_of_hands hd)⟩
    | @request f c rest' hframes request =>
      obtain ⟨rfl, rfl⟩ := List.cons.inj (frames.symm.trans hframes)
      refine ⟨[f, f.note (.call c)], ?_, fun ho about =>
        .inr (exists_owes_request ready.tame ?_ ho about)⟩
      · rw [Machine.request, Machine.task_setTask_self, frames]
        rfl
      · rw [Task.call?, frames]
    | @answer c rest' reply hframes =>
      obtain ⟨rfl, rfl⟩ := List.cons.inj (frames.symm.trans hframes)
      refine ⟨[], ?_, fun ho about => ?_⟩
      · rw [Machine.finish, Machine.task_setTask_self, frames]
        rfl
      · have hcall : (m.task t).call? = some c := by
          rw [Task.call?, frames]
        exact absurd ready.kept (answer_drops hcall ho about)

/-- The last frame of an accepted reply moves: it goes on to the next that closes the dispatch, or
releases the exchange. -/
theorem closing_move {g : Frame} (ready : Ready t s e rest allowed h m mv)
    (hm : m.move? mv = some m') (frames : (m.task t).frames = g :: .yields .done :: rest)
    (closes : g.closes = true) (about : g.isAbout e = true)
    (isOpen : FindsOpen t s e (rest.length + 1) h) (allow : allowed)
    (owed : handings e h ≠ [] ∨ g.owes = true) : Stage t s e rest allowed ((m, mv) :: h) m' := by
  have alive : m.routerAlive = true :=
    Machine.routerAlive_of_mem (t := t) (f := .yields .done) (by rw [frames]; simp) rfl
  have isOpen' : FindsOpen t s e (rest.length + 1) ((m, mv) :: h) := isOpen.cons fun hr =>
    absurd hr (not_comesTo frames fun hg => by rw [hg] at closes; cases closes)
  rcases Machine.work_of_move hm frames (fun c hg => by rw [hg] at closes; cases closes) with
    ⟨hsame, -⟩ | ⟨rfl, o, b, frames', -, hrouter⟩
  · exact .sent [] g (hsame ▸ frames) closes about isOpen' allow
      (owed.imp handings_ne_nil fun ho => ⟨g, List.mem_singleton_self g, ho, about⟩)
  · have hd := Machine.deed_advance frames
    have owed' : handings e ((m, .advance t) :: h) ≠ [] ∨
        ∃ a ∈ o.above, a.owes = true ∧ a.isAbout e = true := by
      rcases owed with hh | ho
      · exact .inl (handings_ne_nil hh)
      · exact (b.owes ho about alive (hd ▸ ready.kept)).imp_left (handings_ne_nil_of_hands hd)
    rcases b.closes closes about with ⟨hnil, hr⟩ | ⟨fs, g', habove, hclose⟩
    · refine .done (.inl (by rw [frames', hnil]; rfl)) isOpen' allow (hrouter ▸ hr) ?_
      rw [hnil] at owed'
      exact owed'.resolve_right fun ⟨a, ha, _⟩ => by cases ha
    · rw [habove] at frames' owed'
      exact .sent fs g' (frames'.trans (List.append_assoc ..)) hclose.1 hclose.2 isOpen' allow owed'

/-- What is owed on the stack of a reply that has been accepted is owed on, or handed over. -/
theorem sent_move {above : List Frame} {g : Frame} (ready : Ready t s e rest allowed h m mv)
    (hm : m.move? mv = some m')
    (frames : (m.task t).frames = above ++ g :: .yields .done :: rest) (closes : g.closes = true)
    (about : g.isAbout e = true) (isOpen : FindsOpen t s e (rest.length + 1) h) (allow : allowed)
    (owed : handings e h ≠ [] ∨ ∃ a ∈ above ++ [g], a.owes = true ∧ a.isAbout e = true) :
    Stage t s e rest allowed ((m, mv) :: h) m' := by
  cases above with
  | nil =>
    refine closing_move ready hm frames closes about isOpen allow (owed.imp_right ?_)
    rintro ⟨a, ha, ho, -⟩
    obtain rfl := List.mem_singleton.1 ha
    exact ho
  | cons a above =>
    have alive : m.routerAlive = true :=
      Machine.routerAlive_of_mem (t := t) (f := .yields .done) (by rw [frames]; simp) rfl
    obtain ⟨fs, frames', next⟩ := ready.owes_move hm frames alive
    refine .sent (fs ++ above) g (frames'.trans (List.append_assoc ..).symm) closes about
      (isOpen.cons fun hr => absurd hr (not_comesTo_of_above frames)) allow ?_
    rw [List.append_assoc]
    rcases owed with hh | ⟨a', ha', hrest⟩
    · exact .inl (handings_ne_nil hh)
    · rcases List.mem_cons.1 ha' with rfl | ha'
      · exact (next hrest.1 hrest.2).imp_right fun ⟨b, hb, hrest⟩ =>
          ⟨b, List.mem_append_left _ hb, hrest⟩
      · exact .inr ⟨a', List.mem_append_right _ ha', hrest⟩

/-- A reply goes from stage to stage. -/
theorem move (stage : Stage t s e rest allowed h m) (ready : Ready t s e rest allowed h m mv)
    (hm : m.move? mv = some m') (stacked : m.Stacked) :
    Stage t s e rest allowed ((m, mv) :: h) m' := by
  cases stage with
  | waits above frames isOpen unsent => exact waits_move ready hm frames isOpen unsent
  | comes frames isOpen unsent => exact comes_move ready hm frames isOpen unsent
  | refused frames why unsent =>
    exact .refused (through_move hm ready.under frames) (fun hwhy => why ⟨hwhy.1.tail, hwhy.2⟩)
      (ready.unsent unsent (not_comesTo_of_through (fun h => by cases h) ready.under frames))
  | sent above g frames closes about isOpen allow owed =>
    exact sent_move ready hm frames closes about isOpen allow owed
  | done frames isOpen allow released handed =>
    refine .done (through_move hm ready.under frames) (isOpen.cons fun hr => ?_) allow
      (Machine.released_of_move hm stacked released) (handings_ne_nil handed)
    exact absurd hr (not_comesTo_of_through (fun h => by cases h) ready.under frames)

end Stage

/-! ## The way of the reply -/

/-- Everything but the reply leaves an exchange that has failed alone, and nobody drops it. -/
structure Undropped (t : Nat) (s : SlotId) (e : ExchangeId) (rest : List Frame) (h : History) :
    Prop where
  own : ∀ q ∈ h, (q.1.accepted? e q.2).isSome = true →
    q.1.ComesTo t (.accept s e) (rest.length + 1) q.2
  kept : ∀ q ∈ h, (q.1.deed q.2).drops e = false

theorem Path.final {m₁ : Machine} {x₀ : Exchange} {peer : SlotId} (p : Path m₁ h m)
    (stacked : m₁.Stacked) (tame : Tame h) (kept : ∀ q ∈ h, (q.1.deed q.2).drops e = false)
    (start : Final x₀ peer [] (m₁.router.exchange e) (m₁.dutiesFor e))
    (going : (m₁.router.exchange e).completed = false) (error : x₀.status = .error)
    (counterpart : x₀.counterpart = some peer) :
    Final x₀ peer (handings e h) (m.router.exchange e) (m.dutiesFor e) ∧
      ((m.router.exchange e).completed = true → sendings e h ≠ []) := by
  refine p.turns (P := fun h x D => (∀ q ∈ h, (q.1.deed q.2).drops e = false) →
    Final x₀ peer (handings e h) x D ∧ (x.completed = true → sendings e h ≠ [])) e stacked
    (fun _ => tame) (fun _ => ⟨start, fun hc => ?_⟩)
    (fun h m m' mv ih hm (t : Turn true e _ _ _ _ _) kept => ?_) kept
  · exact absurd (going.symm.trans hc) Bool.false_ne_true
  · obtain ⟨hkept, kept⟩ := List.forall_mem_cons.1 kept
    obtain ⟨final, ended⟩ := ih kept
    refine ⟨?_, fun hc' => ?_⟩
    · rw [handings_cons]
      exact t.final final error counterpart hkept
    · rw [sendings, List.filterMap_cons]
      by_cases hc : (m.router.exchange e).completed = true
      · cases m.accepted? e mv with
        | none => exact ended hc
        | some a => exact List.cons_ne_nil _ _
      · have := Machine.accepted_of_completed hm t hkept (eq_false_of_ne_true hc) hc'
        obtain ⟨a, ha⟩ := Option.isSome_iff_exists.1 this
        rw [ha]
        exact List.cons_ne_nil _ _

/-- What the rules for sending say about the reply to a failure that found the exchange in a
state. -/
def MayReply (x : Exchange) (s : SlotId) : Prop :=
  (x.output = none ∨ x.fault = none) ∧ x.HasTurn s

/-- As long as nothing was sent, the reply is accepted if and only if it was allowed at first. -/
theorem Final.accepts {x₀ : Exchange} {peer : SlotId} {G : List Handing} {r : Router}
    {D : Multiset Frame} (final : Final x₀ peer G (r.exchange e) D) (error : x₀.status = .error)
    (counterpart : x₀.counterpart = some peer) (keeps : x₀.KeepsPattern)
    (going : (r.exchange e).completed = false) :
    (r.accept e s).1.isOk = true ↔ MayReply x₀ s := by
  have frozen := final.frozen
  have role : (r.exchange e).role = x₀.role := by
    rcases final.turn with ⟨hr, -⟩ | ⟨hc, -⟩
    · exact hr
    · exact absurd (going.symm.trans hc) Bool.false_ne_true
  have keeps' : (r.exchange e).KeepsPattern :=
    ⟨by rw [frozen.output, frozen.pattern]; exact keeps.output,
      by rw [frozen.fault, frozen.pattern]; exact keeps.fault⟩
  have hcounterpart : (r.exchange e).counterpart.isSome = true := by
    rw [Exchange.counterpart, role, frozen.source, frozen.destination, ← Exchange.counterpart,
      counterpart]
    rfl
  have allowed : (r.exchange e).checkSend s = .ok () ↔ MayReply x₀ s := by
    rw [Exchange.checkSend_of_failed (frozen.status.trans error) going (final.arrived going) keeps'
      hcounterpart]
    simp only [MayReply, Exchange.HasTurn, role, frozen.output, frozen.fault, frozen.source,
      frozen.destination, frozen.pattern]
  have hsource (h : MayReply x₀ s) : (r.exchange e).source.isSome = true := by
    rcases h.2 with ⟨-, hs⟩ | ⟨-, hs, -⟩
    · exact final.sound.started (by rw [frozen.destination, hs]; rfl)
    · rw [frozen.source, hs]
      rfl
  refine ⟨fun hok => ?_, fun h => (Router.isOk_accept (hsource h)).2 (allowed.2 h)⟩
  rcases hr : r.accept e s with ⟨_ | _, r'⟩
  · rw [hr] at hok
    cases hok
  · exact allowed.1 (Router.accept_ok hr).1

theorem Path.stage {m₁ : Machine} {x₀ : Exchange} {peer : SlotId} (p : Path m₁ h m)
    (stacked : m₁.Stacked) (tame : Tame h) (undropped : Undropped t s e rest h)
    (under : ∀ q ∈ h, rest.length < (q.1.task t).frames.length)
    (start : Final x₀ peer [] (m₁.router.exchange e) (m₁.dutiesFor e))
    (going : (m₁.router.exchange e).completed = false) (error : x₀.status = .error)
    (counterpart : x₀.counterpart = some peer) (keeps : x₀.KeepsPattern)
    (frames : (m₁.task t).frames = .announce .failed e :: .dispatch s e :: .yields .done :: rest) :
    Stage t s e rest (MayReply x₀ s) h m := by
  induction p with
  | nil => exact .waits [.announce .failed e] frames (fun q hq => by cases hq) rfl
  | @cons h m m' mv p hm ih =>
    obtain ⟨own, kept⟩ := undropped
    obtain ⟨hown, own⟩ := List.forall_mem_cons.1 own
    obtain ⟨hkept, kept⟩ := List.forall_mem_cons.1 kept
    obtain ⟨htame, tame⟩ := List.forall_mem_cons.1 tame
    obtain ⟨hunder, under⟩ := List.forall_mem_cons.1 under
    have stage := ih tame ⟨own, kept⟩ under
    obtain ⟨final, ended⟩ := p.final stacked tame kept start going error counterpart
    have hstacked := p.induct stacked fun _ _ _ hs hm => hs.move hm
    refine stage.move ⟨htame, hkept, hunder, hown, fun unsent => ?_, ?_⟩ hm hstacked
    · refine final.accepts error counterpart keeps (eq_false_of_ne_true fun hc => ?_)
      exact ended hc unsent
    · rw [final.frozen.status, error]
      rfl

end

/-! ## Failures that are reported -/

/-- The other party has got the exchange of an endpoint that has failed, and it is over. -/
structure Reported (x : Exchange) (f : Failure) (G : List Handing) (x' : Exchange) : Prop where
  failed : x'.status = .error
  error : x'.error = some f
  completed : x'.completed = true
  released : x'.released = true
  handed : ∃ peer, x.counterpart = some peer ∧
    (G = [.wakes x.role.opposite] ∨ G = [.calls peer])

/-- An exchange that has failed and been handed over and released is reported. -/
theorem Final.reported {x x' : Exchange} {f : Failure} {peer : SlotId} {G : List Handing}
    {D : Multiset Frame} (final : Final (x.fail f) peer G x' D)
    (counterpart : x.counterpart = some peer) (released : x'.released = true) (handed : G ≠ []) :
    Reported x f G x' := by
  have completed := final.sound.released released
  have owed := final.owed
  rw [completed, Bool.toNat_true] at owed
  obtain ⟨g, rfl⟩ : ∃ g, G = [g] := by
    have hpos := List.length_pos_iff.2 handed
    exact List.length_eq_one_iff.1 (by omega)
  refine ⟨final.frozen.status, final.frozen.error, completed, released, peer, counterpart, ?_⟩
  rcases final.given g (List.mem_singleton_self g) with rfl | rfl
  · exact .inl rfl
  · exact .inr rfl

theorem Turn.handed_of_handle {tame : Bool} {c : Context} {e : ExchangeId} {s : SlotId} {n : Nat}
    {x x' : Exchange} {D D' : Multiset Frame}
    (t : Turn tame e (.work c (.handle s e n)) x D x' D') (role : Role) :
    handed role x' D' = handed role x D := by
  cases t with
  | idle idle => cases idle
  | elsewhere other => rfl
  | work w =>
    cases w with
    | ends => simp [handed, Frame.returns]
    | fails => simp [handed, Frame.returns, Exchange.fail]
    | loses err hop => cases hop

namespace Machine

variable {m m₁ : Machine} {t : Nat} {s : SlotId} {e : ExchangeId} {f : Failure}
  {rest : List Frame}

/-- When the exchange is about to be sent back, nobody has it and nobody has got it. -/
theorem Failing.final (failing : m.Failing t s e f rest) (hm : m.move? (.advance t) = some m₁)
    (stacked : m.Stacked) (sound : Sound (m₁.router.exchange e) (m₁.dutiesFor e))
    (free : ∀ role, ¬m.HandedOver e role) (peer : SlotId) :
    Final (m₁.router.exchange e) peer [] (m₁.router.exchange e) (m₁.dutiesFor e) := by
  obtain ⟨-, hx⟩ := failing.step hm
  have turn : Turn false e _ _ _ _ _ := turn_of_move stacked (fun h => by cases h) hm e
  rw [deed_advance failing.frames] at turn
  have none (role : Role) : handed role (m₁.router.exchange e) (m₁.dutiesFor e) = 0 := by
    rw [turn.handed_of_handle]
    by_contra hne
    exact free role (handedOver_iff.2 hne)
  have arrived : (m₁.router.exchange e).inTransit = false := by
    rw [hx]
    exact failing.arrived
  have carries : ∀ g ∈ m₁.dutiesFor e, g.carries = false := fun g hg =>
    sound.custody.carries_eq_false arrived hg
  have returns (role : Role) : ∀ g ∈ m₁.dutiesFor e, g.returns role = false :=
    count_eq_zero.1 (handed_eq_zero.1 (none role)).2
  have turns : ∀ g ∈ m₁.dutiesFor e, g.turns = false := fun g hg => by
    cases g with
    | wake e' role | woken e' role =>
      all_goals exact absurd ((returns role _ hg).symm.trans (beq_self_eq_true role)) (by decide)
    | process s' e' => cases carries _ hg
    | _ => rfl
  have owes : ∀ g ∈ m₁.dutiesFor e, g.owes = false := fun g hg => by
    by_contra ho
    have := Frame.carries_of_owes (eq_true_of_ne_false ho) (turns g hg)
    exact absurd ((carries g hg).symm.trans this) Bool.false_ne_true
  have token : (m₁.router.exchange e).token = ⟨false, false⟩ := by
    have hconsumer := (handed_eq_zero.1 (none .consumer)).1
    have hprovider := (handed_eq_zero.1 (none .provider)).1
    cases htoken : (m₁.router.exchange e).token
    rw [htoken] at hconsumer hprovider
    simp only [PerRole.get] at hconsumer hprovider
    rw [hconsumer, hprovider]
  refine ⟨sound, .refl _, fun _ => arrived, ?_, (fun g hg => by cases hg),
    fun g hg ho => ?_, .inl ⟨rfl, token, turns⟩⟩
  · have : count Frame.owes (m₁.dutiesFor e) = 0 :=
      Multiset.countP_eq_zero.2 fun g hg ho => absurd ((owes g hg).symm.trans ho) (by decide)
    rw [this]
    exact Nat.zero_le _
  · exact absurd ((owes g hg).symm.trans ho) Bool.false_ne_true

end Machine

/-- When an endpoint fails, the other party gets the exchange as failed, once, and it is over and
released, if and only if the reply finds the channel of the slot open, the endpoint has not put
both an Out and a Fault message on the exchange, and its slot has the turn. -/
theorem Run.reported_iff {config : Config} {h₀ h : History} {m m₁ m' : Machine} {t : Nat}
    {s : SlotId} {e : ExchangeId} {f : Failure} {rest : List Frame} (run : Run config h₀ m)
    (tame : Tame (h ++ (m, .advance t) :: h₀)) (failing : m.Failing t s e f rest)
    (free : ∀ role, ¬m.HandedOver e role) (step : m.move? (.advance t) = some m₁)
    (p : Path m₁ h m') (undropped : Undropped t s e rest h)
    (under : ∀ q ∈ h, rest.length < (q.1.task t).frames.length)
    (through : (m'.task t).frames.length ≤ rest.length) :
    Reported (m.router.exchange e) f (handings e h) (m'.router.exchange e) ↔
      FindsOpen t s e (rest.length + 1) h ∧ MayReply (m.router.exchange e) s := by
  obtain ⟨r, hr, q⟩ := run
  have run : Run config h₀ m := ⟨r, hr, q⟩
  have run₁ : Run config ((m, .advance t) :: h₀) m₁ := ⟨r, hr, q.cons step⟩
  have tame₁ : Tame ((m, .advance t) :: h₀) := fun q hq => tame q (List.mem_append_right _ hq)
  have tame' : Tame h := fun q hq => tame q (List.mem_append_left _ hq)
  obtain ⟨frames, hx⟩ := failing.step step
  have going : (m.router.exchange e).completed = false := by
    by_contra hc
    have := run.terminal e (eq_true_of_ne_false hc)
    rw [failing.active] at this
    cases this
  have error : (m₁.router.exchange e).status = .error := by
    rw [hx]
    rfl
  have going₁ : (m₁.router.exchange e).completed = false := by
    rw [hx]
    exact going
  have keeps : (m₁.router.exchange e).KeepsPattern := run₁.keepsPattern e
  have mayReply : MayReply (m₁.router.exchange e) s ↔ MayReply (m.router.exchange e) s := by
    rw [hx]
    rfl
  have counterpart₁ : (m₁.router.exchange e).counterpart = (m.router.exchange e).counterpart := by
    rw [hx]
    rfl
  have start := failing.final step run.stacked (run₁.sound tame₁ e) free
  constructor
  · intro reported
    obtain ⟨peer, counterpart, -⟩ := reported.handed
    rw [← counterpart₁] at counterpart
    have stage := p.stage run₁.stacked tame' undropped under (start peer) going₁ error counterpart
      keeps frames
    have ended := (p.final run₁.stacked tame' undropped.kept (start peer) going₁ error
      counterpart).2 reported.completed
    cases stage with
    | waits above frames isOpen unsent | comes frames isOpen unsent | refused frames why unsent =>
      all_goals exact absurd unsent ended
    | sent above g frames closes about isOpen allow owed => exact ⟨isOpen, mayReply.1 allow⟩
    | done frames isOpen allow released handed => exact ⟨isOpen, mayReply.1 allow⟩
  · rintro ⟨isOpen, allow⟩
    obtain ⟨peer, counterpart⟩ := Option.isSome_iff_exists.1
      ((mayReply.2 allow).2.counterpart (run₁.sound tame₁ e).started)
    have stage := p.stage run₁.stacked tame' undropped under (start peer) going₁ error counterpart
      keeps frames
    obtain ⟨final, -⟩ := p.final run₁.stacked tame' undropped.kept (start peer) going₁ error
      counterpart
    have tall (above : List Frame) {g : Frame}
        (frames : (m'.task t).frames = above ++ g :: .yields .done :: rest) : False := by
      rw [frames] at through
      simp at through
      omega
    cases stage with
    | waits above frames => exact (tall above frames).elim
    | comes frames => exact (tall [] frames).elim
    | refused frames why => exact absurd ⟨isOpen, mayReply.2 allow⟩ why
    | sent above g frames => exact (tall above frames).elim
    | done frames isOpen allow released handed =>
      rw [hx] at final
      exact final.reported (counterpart₁ ▸ counterpart) released handed

/-! ## Failures at work -/

namespace Machine

/-- On a task of its own an endpoint has failed, and nobody has got the exchange back: this is
found out by looking at all stacks. -/
def isFailing (m : Machine) (t : Nat) (s : SlotId) (e : ExchangeId) : Bool :=
  (match (m.task t).frames, (m.task t).reply with
    | [.handle s' e' sends], .failed _ => s' == s && e' == e && sends == (m.router.exchange e).sends
    | _, _ => false) &&
  !(m.router.exchange e).inTransit && (m.router.exchange e).status == .active &&
  (m.router.exchange e).token == ⟨false, false⟩ &&
  m.tasks.rows.all fun t => t.frames.all fun f => !f.turns

theorem failing_of_isFailing {m : Machine} {t : Nat} {s : SlotId} {e : ExchangeId}
    (h : m.isFailing t s e = true) :
    (∃ f, m.Failing t s e f []) ∧ ∀ role, ¬m.HandedOver e role := by
  simp only [isFailing, Bool.and_eq_true, Bool.not_eq_true', beq_iff_eq] at h
  obtain ⟨⟨⟨⟨top, arrived⟩, active⟩, token⟩, still⟩ := h
  refine ⟨?_, fun role given => ?_⟩
  · split at top
    · rename_i s' e' sends f frames reply
      simp only [Bool.and_eq_true, beq_iff_eq] at top
      obtain ⟨⟨rfl, rfl⟩, rfl⟩ := top
      exact ⟨f, frames, reply, arrived, active⟩
    · cases top
  · have quiet {u : Nat} {g : Frame} (hg : g ∈ (m.task u).frames) : g.turns = false := by
      have := List.all_eq_true.1 still _ (mem_rows_of_mem_frames hg)
      simpa using List.all_eq_true.1 this g hg
    rcases given with htoken | ⟨u, hu | hu⟩
    · rw [token] at htoken
      cases role <;> cases htoken
    · cases quiet hu
    · cases quiet hu

/-- A move in which nobody but the endpoint's task sends the exchange or drops it. -/
def isForReply (m : Machine) (t : Nat) (s : SlotId) (e : ExchangeId) (mv : Move) : Bool :=
  m.isTame mv && !(m.deed mv).drops e && !(m.task t).frames.isEmpty &&
    ((m.accepted? e mv).isNone ||
      match mv, (m.task t).frames with
      | .advance t', [.accept s' e', _] => t' == t && s' == s && e' == e
      | _, _ => false)

theorem undropped_of_isForReply {h : History} {t : Nat} {s : SlotId} {e : ExchangeId}
    (hh : ∀ q ∈ h, q.1.isForReply t s e q.2 = true) :
    Tame h ∧ Undropped t s e [] h ∧ ∀ q ∈ h, 0 < (q.1.task t).frames.length := by
  simp only [isForReply, Bool.and_eq_true, Bool.not_eq_true', Bool.or_eq_true,
    Option.isNone_iff_eq_none] at hh
  refine ⟨fun q hq => (hh q hq).1.1.1, ⟨fun q hq accepted => ?_, fun q hq => (hh q hq).1.1.2⟩,
    fun q hq => ?_⟩
  · rcases (hh q hq).2 with none | own
    · rw [none] at accepted
      cases accepted
    · split at own
      · rename_i t' s' e' g hmv frames
        simp only [Bool.and_eq_true, beq_iff_eq] at own
        obtain ⟨⟨rfl, rfl⟩, rfl⟩ := own
        exact ⟨hmv, [g], frames, rfl⟩
      · cases own
  · rw [List.length_pos_iff_ne_nil]
    intro none
    have := (hh q hq).1.2
    rw [none] at this
    cases this

end Machine

/-- The consumer waits; the provider puts messages on the exchange and fails. -/
def Cue.failure (messages : List MessageSlot) : List Cue :=
  awaiting .inOut ++ messages.map (fun slot => operate (.change ⟨0⟩ (.message slot default))) ++
    [answer 1 (.failed (.other "broken"))]

/-- An endpoint fails in a tame run, and its reply is through in the end. -/
structure FailsIn (h₀ h : History) (m m₁ m' : Machine) (f : Failure) : Prop where
  run : Run {} h₀ m
  tame : Tame (h ++ (m, .advance 1) :: h₀)
  failing : m.Failing 1 ⟨0⟩ ⟨0⟩ f []
  free : ∀ role, ¬m.HandedOver ⟨0⟩ role
  step : m.move? (.advance 1) = some m₁
  path : Path m₁ h m'
  undropped : Undropped 1 ⟨0⟩ ⟨0⟩ [] h
  under : ∀ q ∈ h, 0 < (q.1.task 1).frames.length
  through : (m'.task 1).frames.length ≤ 0

theorem exists_failsIn (messages : List MessageSlot)
    (q : Machine → History × Machine → Bool)
    (hq : (Machine.usual.enact [] (Cue.failure messages)).any (fun p =>
      p.1.all (fun q => q.1.isTame q.2) && p.2.isFailing 1 ⟨0⟩ ⟨0⟩ &&
        (p.2.move? (.advance 1)).any fun m₁ =>
          (m₁.enact [] [.runs 1]).any fun p' =>
            p'.1.all (fun q => q.1.isForReply 1 ⟨0⟩ ⟨0⟩ q.2) && (p'.2.task 1).frames.isEmpty &&
              q p.2 p') = true) :
    ∃ h₀ h m m₁ m' f, FailsIn h₀ h m m₁ m' f ∧ q m (h, m') = true := by
  obtain ⟨h₀, m, p₀, hq⟩ := Path.exists_of_enact _ _ _ hq
  simp only [Bool.and_eq_true, List.all_eq_true, Option.any_eq_true_iff_get] at hq
  obtain ⟨⟨tame₀, failing⟩, some₁, hq⟩ := hq
  obtain ⟨h, m', p, hq⟩ := Path.exists_of_enact _ _ (fun p' : History × Machine =>
    p'.1.all (fun q => q.1.isForReply 1 ⟨0⟩ ⟨0⟩ q.2) && (p'.2.task 1).frames.isEmpty && q m p')
    (by simpa only [Option.any_eq_true_iff_get, Bool.and_eq_true, List.all_eq_true] using hq)
  simp only [Bool.and_eq_true, List.all_eq_true, List.isEmpty_iff] at hq
  obtain ⟨⟨alone, through⟩, hq⟩ := hq
  obtain ⟨⟨f, failing⟩, free⟩ := Machine.failing_of_isFailing failing
  obtain ⟨tame, undropped, under⟩ := Machine.undropped_of_isForReply alone
  have step : m.move? (.advance 1) = some _ := (Option.some_get some₁).symm
  refine ⟨h₀, h, m, _, m', f, ⟨p₀.run, fun q hq => ?_, failing, free, step, p, undropped, under,
    by rw [through]; exact Nat.le_refl _⟩, hq⟩
  rcases List.mem_append.1 hq with hq | hq
  · exact tame q hq
  · rcases List.mem_cons.1 hq with rfl | hq
    · rfl
    · exact tame₀ q hq

theorem Run.reported_iff_failure : ∃ h₀ h m m₁ m' f, FailsIn h₀ h m m₁ m' f ∧
    Reported (m.router.exchange ⟨0⟩) f (handings ⟨0⟩ h) (m'.router.exchange ⟨0⟩) := by
  obtain ⟨h₀, h, m, m₁, m', f, w, hq⟩ := exists_failsIn [.output]
    (fun m p => (m.router.exchange ⟨0⟩).fault.isNone && (m.router.exchange ⟨0⟩).role == .provider &&
      (m.router.exchange ⟨0⟩).destination == some ⟨0⟩ &&
        p.1.all fun q => !(q.1.router.slot ⟨0⟩).closed) (by rfl)
  simp only [Bool.and_eq_true, Option.isNone_iff_eq_none, beq_iff_eq, List.all_eq_true,
    Bool.not_eq_true'] at hq
  obtain ⟨⟨⟨fault, role⟩, destination⟩, isOpen⟩ := hq
  have reported := Run.reported_iff w.run w.tame w.failing w.free w.step w.path w.undropped w.under
    w.through
  exact ⟨h₀, h, m, m₁, m', f, w,
    reported.2 ⟨fun q hq _ => isOpen q hq, .inr fault, .inl ⟨role, destination⟩⟩⟩

/-- The reply to the failure of an endpoint that has put two answers on the exchange is refused;
the exchange is not over, and the other party has not got it. -/
theorem Run.reported_twoMessages : ∃ h₀ h m m₁ m' f, FailsIn h₀ h m m₁ m' f ∧
    (m'.router.exchange ⟨0⟩).status = .error ∧ (m'.router.exchange ⟨0⟩).completed = false ∧
    handings ⟨0⟩ h = [] := by
  obtain ⟨h₀, h, m, m₁, m', f, w, hq⟩ := exists_failsIn [.output, .fault]
    (fun _ p => (p.2.router.exchange ⟨0⟩).status == .error &&
      !(p.2.router.exchange ⟨0⟩).completed && (handings ⟨0⟩ p.1).isEmpty) (by rfl)
  simp only [Bool.and_eq_true, beq_iff_eq, Bool.not_eq_true', List.isEmpty_iff] at hq
  exact ⟨h₀, h, m, m₁, m', f, w, hq.1.1, hq.1.2, hq.2⟩

end Engine

end MessageRouter
