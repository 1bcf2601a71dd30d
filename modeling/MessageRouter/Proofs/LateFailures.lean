import MessageRouter.Proofs.Script
import MessageRouter.Proofs.SendRules
import MessageRouter.Proofs.Sends
import MessageRouter.Proofs.Turns

/-!
# Failures that come too late

The count of the sends of an exchange is noted when the exchange is delivered, and compared with the
count when the process of the slot has failed.  Since it only grows, and what is over stays over,
nobody can make the failure count once another send has been accepted or the exchange has ended:
`Run.failsInVain` compares what happens then with what happens if the process has not failed.
-/

namespace MessageRouter

/-- Since the time when it had been sent so often, an exchange has been sent again, or it is
over. -/
def Exchange.HasMovedOn (x : Exchange) (sends : Nat) : Prop :=
  sends < x.sends ∨ x.status.isTerminal = true

namespace Engine

/-! ## The count of sends -/

section

variable {tame : Bool} {c : Context} {d : Deed} {x x' : Exchange} {D D' : Multiset Frame}
  {e : ExchangeId} {f : Frame} {fs : List Frame}

/-- An exchange is counted as sent when a send is accepted, and at no other time. -/
theorem Work.sends (w : Work c x e f x' fs) :
    x'.sends = x.sends ∨ (∃ s, f = .accept s e) ∧ x'.sends = x.sends + 1 := by
  cases w with
  | accept s => exact .inr ⟨⟨s, rfl⟩, rfl⟩
  | strandWaiter | strand => all_goals exact .inl (x.sends_stranded ..)
  | _ => exact .inl rfl

theorem Turn.sends (t : Turn tame e d x D x' D') :
    x'.sends = x.sends ∨ (∃ c s, d = .work c (.accept s e)) ∧ x'.sends = x.sends + 1 := by
  cases t with
  | work w =>
    rcases w.sends with same | ⟨⟨s, rfl⟩, next⟩
    · exact .inl same
    · exact .inr ⟨⟨_, s, rfl⟩, next⟩
  | change c changed => exact .inl (Exchange.change_ok changed).1.sends
  | _ => exact .inl rfl

theorem Work.isTerminal (w : Work c x e f x' fs) (ended : x.status.isTerminal = true) :
    x'.status.isTerminal = true := by
  cases w with
  | strandWaiter | strand => all_goals exact x.isTerminal_stranded ..
  | sendBack | fails => all_goals rfl
  | _ => exact ended

/-- What is over stays over. -/
theorem Turn.isTerminal (t : Turn tame e d x D x' D') (ended : x.status.isTerminal = true) :
    x'.status.isTerminal = true := by
  cases t with
  | work w => exact w.isTerminal ended
  | create p => cases ended
  | change c changed => cases ended.symm.trans (Exchange.change_ok changed).2
  | _ => exact ended

theorem Turn.hasMovedOn {n : Nat} (t : Turn tame e d x D x' D') (moved : x.HasMovedOn n) :
    x'.HasMovedOn n := by
  refine moved.imp (fun more => ?_) t.isTerminal
  rcases t.sends with same | ⟨-, next⟩ <;> omega

end

/-- A move counts the sends of an exchange that are accepted in it. -/
theorem Machine.sends_of_move {m m' : Machine} {mv : Move} (hs : m.Stacked)
    (hm : m.move? mv = some m') (e : ExchangeId) :
    (m'.router.exchange e).sends =
      (m.router.exchange e).sends + (m.accepted? e mv).toList.length := by
  cases ha : m.accepted? e mv with
  | some a =>
    obtain ⟨-, state, -, hx⟩ := accepted?_eq_some hm ha
    rw [hx, state]
    rfl
  | none =>
    have turn : Turn false e _ _ _ _ _ := turn_of_move hs (fun h => by cases h) hm e
    rcases turn.sends with same | ⟨⟨c, s, hd⟩, -⟩
    · exact same
    · rw [exchange_of_not_accepted hm hd ha]
      rfl

/-- Along a path the count grows by the sends that are accepted. -/
theorem Path.sends_eq {m m' : Machine} {h : History} (p : Path m h m') (hs : m.Stacked)
    (e : ExchangeId) :
    (m'.router.exchange e).sends = (m.router.exchange e).sends + (sendings e h).length := by
  induction p with
  | nil => rfl
  | @cons h m₁ m' mv p hm ih =>
    rw [Machine.sends_of_move (p.induct hs fun _ _ _ hs hm => hs.move hm) hm e, ih]
    simp only [sendings, List.filterMap_cons]
    cases m₁.accepted? e mv with
    | none => rfl
    | some a => exact Nat.add_assoc ..

/-! ## The stack of a delivery -/

/-- What a delivery leaves on its stack until it is through: the count of sends that was noted, or
the reply that it gives in the end. -/
inductive Frame.Delivers (s : SlotId) (e : ExchangeId) (sends : Nat) : Frame → Prop
  | enter : Delivers s e sends (.enter s e sends)
  | handle : Delivers s e sends (.handle s e sends)
  | reply : Delivers s e sends (.yields .done)

theorem Frame.Becomes.delivers {c : Context} {r : Router} {f : Frame} {o : Outcome} {s : SlotId}
    {e : ExchangeId} {n : Nat} (b : Becomes c r f o) (hf : f.Delivers s e n) :
    o.above = [] ∨ ∃ above g, o.above = above ++ [g] ∧ g.Delivers s e n := by
  cases hf with
  | enter =>
    cases b with
    | calls owner => exact .inr ⟨[_], _, rfl, .handle⟩
    | posts posted => exact .inl rfl
    | notPosted f deaf => exact .inr ⟨[_], _, rfl, .handle⟩
  | handle =>
    cases b with
    | fails f => exact .inr ⟨[_, _], _, rfl, .reply⟩
    | handled settled => exact .inl rfl
  | reply =>
    cases b
    exact .inl rfl

namespace Machine

variable {m m₁ m' : Machine} {mv : Move} {t n : Nat} {s : SlotId} {e : ExchangeId}
  {rest : List Frame} {h : History}

/-- A task is inside a delivery. -/
def IsDelivering (m : Machine) (t : Nat) (s : SlotId) (e : ExchangeId) (sends : Nat)
    (rest : List Frame) : Prop :=
  ∃ above g, (m.task t).frames = above ++ g :: rest ∧ g.Delivers s e sends

theorem IsDelivering.move (delivering : m.IsDelivering t s e n rest) (hm : m.move? mv = some m')
    (inside : rest.length < (m'.task t).frames.length) : m'.IsDelivering t s e n rest := by
  obtain ⟨above, g, frames, hg⟩ := delivering
  cases above with
  | cons f above =>
    obtain ⟨above', frames'⟩ := frames_of_move hm frames
    exact ⟨above' ++ above, g, frames'.trans (List.append_assoc ..).symm, hg⟩
  | nil =>
    have call : ∀ c, g ≠ .call c := fun c hc => by cases hc ▸ hg
    rcases work_of_move hm frames call with ⟨same, -⟩ | ⟨-, o, b, frames', -⟩
    · exact ⟨[], g, same ▸ frames, hg⟩
    · rcases b.delivers hg with none | ⟨above, g', ho, hg'⟩
      · rw [frames', none] at inside
        exact absurd inside (Nat.lt_irrefl _)
      · exact ⟨above, g', by rw [frames', ho, List.append_assoc]; rfl, hg'⟩

theorem IsDelivering.path (delivering : m.IsDelivering t s e n rest) (p : Path m h m')
    (inside : ∀ q ∈ h, rest.length < (q.1.task t).frames.length)
    (still : rest.length < (m'.task t).frames.length) : m'.IsDelivering t s e n rest := by
  induction p with
  | nil => exact delivering
  | cons p hm ih =>
    exact (ih (fun q hq => inside q (List.mem_cons_of_mem _ hq)) (inside _ List.mem_cons_self)).move
      hm still

/-- A delivery begins with a note of the sends so far. -/
theorem isDelivering_of_move (delivery : (m.task t).frames = .process s e :: rest)
    (hm : m.move? (.advance t) = some m') :
    m'.IsDelivering t s e (m.router.exchange e).sends rest := by
  obtain ⟨f, below, o, frames, b, rfl⟩ := exists_becomes hm
  obtain ⟨rfl, rfl⟩ := List.cons.inj (delivery.symm.trans frames)
  cases b
  exact ⟨[.announce .delivered e], _, frames_settle_next, .enter⟩

/-- What is noted where a delivery has to take notice of a failure are the sends at the time when it
began. -/
theorem IsDelivering.handling {s' : SlotId} {e' : ExchangeId} {n' : Nat}
    (delivering : m.IsDelivering t s e n rest)
    (handles : (m.task t).frames = .handle s' e' n' :: rest) :
    s' = s ∧ e' = e ∧ n' = n := by
  obtain ⟨above, g, frames, hg⟩ := delivering
  have stack : [.handle s' e' n'] ++ rest = (above ++ [g]) ++ rest := by
    simpa using handles.symm.trans frames
  have top : [] ++ [.handle s' e' n'] = above ++ [g] := List.append_cancel_right stack
  obtain ⟨-, noted⟩ := List.append_inj' top rfl
  obtain rfl := (List.cons.inj noted).1
  cases hg
  exact ⟨rfl, rfl, rfl⟩

/-! ## Replies that nobody reads -/

/-- The machine after some moves, if they can be made one after the other. -/
def after? (m : Machine) (moves : List Move) : Option Machine := moves.foldlM move? m

theorem after?_cons (m : Machine) (mv : Move) (moves : List Move) :
    m.after? (mv :: moves) = (m.move? mv).bind fun m' => m'.after? moves :=
  List.foldlM_cons

theorem after?_append (m : Machine) (moves moves' : List Move) :
    m.after? (moves ++ moves') = (m.after? moves).bind fun m' => m'.after? moves' :=
  List.foldlM_append

/-- The machine with another reply for the top of a stack. -/
def withReply (m : Machine) (t : Nat) (reply : Reply) : Machine :=
  m.setTask t { m.task t with reply }

/-- A task is through with its top frame, of which nothing is left. -/
def pass (m : Machine) (t : Nat) (rest : List Frame) : Machine :=
  m.setTask t { m.task t with frames := rest, reply := .done, started := true }

/-- A task has something other to do than to wait for the answer to a call. -/
def IsAt (m : Machine) (t : Nat) (f : Frame) (rest : List Frame) : Prop :=
  (m.task t).frames = f :: rest ∧ ∀ c, f ≠ .call c

variable {f : Frame} {reply : Reply}

theorem IsAt.lt_size (at' : m.IsAt t f rest) : t < m.tasks.size :=
  lt_size_of_frames (at'.1 ▸ List.cons_ne_nil f rest)

theorem IsAt.move (at' : m.IsAt t f rest) (hm : m.move? mv = some m') (other : mv ≠ .advance t) :
    m'.task t = m.task t := by
  rcases work_of_move hm at'.1 at'.2 with ⟨same, -⟩ | ⟨rfl, -⟩
  · exact same
  · exact absurd rfl other

theorem setTask_setTask (ht : t < m.tasks.size) (task task' : Task) :
    (m.setTask t task).setTask t task' = m.setTask t task' :=
  congrArg (fun tasks => { m with tasks }) (m.tasks.set_set ht task task')

theorem pass_withReply (ht : t < m.tasks.size) (reply : Reply) (rest : List Frame) :
    (m.withReply t reply).pass t rest = m.pass t rest := by
  rw [pass, withReply, task_setTask_self, setTask_setTask ht, pass]

theorem task_withReply (m : Machine) {t u : Nat} (h : u ≠ t) (reply : Reply) :
    (m.withReply t reply).task u = m.task u :=
  (task_setTask ..).trans (if_neg h.symm)

theorem routerAlive_withReply (ht : t < m.tasks.size) (reply : Reply) :
    (m.withReply t reply).routerAlive = m.routerAlive :=
  congrArg (m.router.owned || ·) (m.tasks.any_set ht rfl)

/-- What is done to another task does not depend on the reply. -/
theorem setTask_withReply (ht : t < m.tasks.size) {u : Nat} (hu : u < m.tasks.size) (h : u ≠ t)
    (task : Task) (reply : Reply) :
    (m.withReply t reply).setTask u task = (m.setTask u task).withReply t reply := by
  have same : (m.setTask u task).task t = m.task t := (task_setTask ..).trans (if_neg h)
  simp only [withReply, same]
  exact congrArg (fun tasks => { m with tasks }) (m.tasks.set_comm ht hu h.symm ..)

theorem add_withReply (ht : t < m.tasks.size) (task : Task) (reply : Reply) :
    { m.withReply t reply with tasks := ((m.withReply t reply).tasks.add task).2 } =
      withReply { m with tasks := (m.tasks.add task).2 } t reply := by
  simp only [withReply, task_add ht]
  exact congrArg (fun tasks => { m with tasks }) (m.tasks.add_set ht _ task)

theorem settle_withReply (ht : t < m.tasks.size) {u : Nat} (hu : u < m.tasks.size) (h : u ≠ t)
    (below : List Frame) (o : Outcome) (reply : Reply) :
    (m.withReply t reply).settle u below o = (m.settle u below o).withReply t reply := by
  cases o with
  | blocked => rfl
  | next fs r | through reply' r =>
    all_goals
      simp only [settle, task_withReply m h]
      exact setTask_withReply (m := { m with router := r }) ht hu h _ reply
  | spawn lane fs r =>
    simp only [settle, task_withReply m h]
    have set := setTask_withReply (m := { m with router := r }) ht hu h
      { m.task u with frames := below, reply := .done, started := true } reply
    exact (congrArg (fun m : Machine => { m with tasks := (m.tasks.add { lane, frames := fs }).2 })
      set).trans (add_withReply (Table.lt_size_set _ ht ..) _ reply)

/-- The reply for the top of a stack makes no difference to any move but the next step of its
task. -/
theorem IsAt.move?_withReply (at' : m.IsAt t f rest) (other : mv ≠ .advance t) (reply : Reply) :
    (m.withReply t reply).move? mv = (m.move? mv).map (·.withReply t reply) := by
  have ht := at'.lt_size
  have same {u : Nat} (h : u ≠ t) : (m.withReply t reply).task u = m.task u :=
    task_withReply m h reply
  have below {u : Nat} (hc : (m.task u).call?.isSome = true) : u < m.tasks.size ∧ u ≠ t := by
    obtain ⟨c, below, frames⟩ := exists_call hc
    refine ⟨lt_size_of_frames (frames ▸ List.cons_ne_nil _ _), fun h => ?_⟩
    subst h
    exact at'.2 c (List.cons.inj (at'.1.symm.trans frames)).1
  have called {u : Nat} : ((m.withReply t reply).task u).call? = (m.task u).call? := by
    by_cases h : u = t
    · subst h
      rw [withReply, task_setTask_self]
      rfl
    · rw [same h]
  cases mv with
  | advance u =>
    have h : u ≠ t := fun h => other (h ▸ rfl)
    rcases hf : (m.task u).frames with _ | ⟨g, below⟩
    · simp only [move?, advance?, same h, hf, Option.map_none]
    · have hf' : ((m.withReply t reply).task u).frames = g :: below := by rw [same h, hf]
      have step : g.step ⟨(m.withReply t reply).routerAlive, m.now,
          ((m.withReply t reply).task u).reply⟩ m.router =
            g.step ⟨m.routerAlive, m.now, (m.task u).reply⟩ m.router := by
        rw [routerAlive_withReply ht, same h]
      by_cases blocked : g.step ⟨m.routerAlive, m.now, (m.task u).reply⟩ m.router = .blocked
      · rw [advance_of_blocked hf blocked, advance_of_blocked hf' (step.trans blocked),
          Option.map_none]
      · have hu := lt_size_of_frames (hf ▸ List.cons_ne_nil g below)
        rw [advance_of_step hf rfl blocked, advance_of_step hf' step blocked, Option.map_some,
          settle_withReply ht hu h]
  | request u f =>
    simp only [move?, called]
    split
    · rename_i request
      obtain ⟨hu, h⟩ := below request.1
      rw [Option.map_some, Machine.request, same h, setTask_withReply ht hu h]
      rfl
    · rfl
  | answer u reply' =>
    simp only [move?, called]
    split
    · rename_i call
      obtain ⟨hu, h⟩ := below call
      rw [Option.map_some, finish, same h, setTask_withReply ht hu h]
      rfl
    · rfl
  | operate o =>
    rw [move?, routerAlive_withReply ht]
    rfl
  | fork => exact congrArg some (add_withReply ht _ reply)
  | elapse duration => rfl

/-- It makes none to any moves before that step either. -/
theorem IsAt.after?_withReply {moves : List Move} (at' : m.IsAt t f rest)
    (waits : .advance t ∉ moves) (reply : Reply) :
    (m.withReply t reply).after? moves = (m.after? moves).map (·.withReply t reply) := by
  induction moves generalizing m with
  | nil => rfl
  | cons mv moves ih =>
    have other : mv ≠ .advance t := (List.ne_of_not_mem_cons waits).symm
    rw [after?_cons, after?_cons, at'.move?_withReply other]
    cases hm : m.move? mv with
    | none => rfl
    | some m₁ => exact ih ⟨at'.move hm other ▸ at'.1, at'.2⟩ (List.not_mem_of_not_mem_cons waits)

/-- What every move keeps holds after any moves. -/
theorem induct_after? {I : Machine → Prop} {moves : List Move} (start : I m)
    (step : ∀ m mv m', I m → m.move? mv = some m' → I m') (after : m.after? moves = some m') :
    I m' := by
  induction moves generalizing m with
  | nil => exact Option.some.inj after ▸ start
  | cons mv moves ih =>
    rw [after?_cons, Option.bind_eq_some_iff] at after
    obtain ⟨m₁, hm, after⟩ := after
    exact ih (step _ _ _ start hm) after

theorem stacked_of_after? {moves : List Move} (hs : m.Stacked) (after : m.after? moves = some m') :
    m'.Stacked :=
  induct_after? hs (fun _ _ _ hs hm => hs.move hm) after

/-- An exchange that has moved on will have done so after any moves. -/
theorem hasMovedOn_of_after? {moves : List Move} (hs : m.Stacked)
    (moved : (m.router.exchange e).HasMovedOn n) (after : m.after? moves = some m') :
    (m'.router.exchange e).HasMovedOn n := by
  refine (induct_after? (I := fun m => m.Stacked ∧ (m.router.exchange e).HasMovedOn n) ⟨hs, moved⟩
    ?_ after).2
  rintro m mv m' ⟨hs, moved⟩ hm
  have turn : Turn false e _ _ _ _ _ := turn_of_move hs (fun h => by cases h) hm e
  exact ⟨hs.move hm, turn.hasMovedOn moved⟩

theorem task_of_after? {moves : List Move} (at' : m.IsAt t f rest) (waits : .advance t ∉ moves)
    (after : m.after? moves = some m') : m'.task t = m.task t := by
  induction moves generalizing m with
  | nil => exact Option.some.inj after ▸ rfl
  | cons mv moves ih =>
    rw [after?_cons, Option.bind_eq_some_iff] at after
    obtain ⟨m₁, hm, after⟩ := after
    have same := at'.move hm (List.ne_of_not_mem_cons waits).symm
    exact (ih ⟨same ▸ at'.1, at'.2⟩ (List.not_mem_of_not_mem_cons waits) after).trans same

/-- When the exchange has moved on, a task takes no notice of how the process of a slot has
fared. -/
theorem pass_of_handle (frames : (m.task t).frames = .handle s e n :: rest)
    (moved : (m.router.exchange e).HasMovedOn n) :
    m.move? (.advance t) = some (m.pass t rest) := by
  have settled : ¬((m.router.exchange e).sends = n ∧ (m.router.exchange e).inTransit = false ∧
      (m.router.exchange e).status = .active) := by
    rintro ⟨same, -, active⟩
    rcases moved with more | ended
    · omega
    · rw [active] at ended
      cases ended
  refine advance_of_step (o := .through .done m.router) frames ?_ (fun h => by cases h)
  simp only [Frame.step, Frame.stepHandle]
  split
  · rw [if_neg settled]
  · rfl

end Machine

/-! ## Failures and what comes after them -/

/-- The process of a slot has failed, and that makes no difference. -/
structure Machine.FailsInVain (m : Machine) (t : Nat) (rest : List Frame) : Prop where
  /-- Whenever its task comes to the failure, it is through with it.  The exchange, the slots and
  all else that the router knows stay as they are, nobody is told anything, and nothing is left to
  be done. -/
  passes : ∀ moves m', .advance t ∉ moves → m.after? moves = some m' →
    m'.move? (.advance t) = some (m'.pass t rest)
  /-- Until then the same moves can be made as if it had not failed, and they do the same; -/
  before : ∀ moves, .advance t ∉ moves →
    (m.withReply t .done).after? moves = (m.after? moves).map (·.withReply t .done)
  /-- and after that there is no trace of it. -/
  after : ∀ moves, .advance t ∈ moves → (m.withReply t .done).after? moves = m.after? moves

namespace Machine

variable {m : Machine} {t n : Nat} {s : SlotId} {e : ExchangeId} {rest : List Frame}

theorem isAt_of_frames (frames : (m.task t).frames = .handle s e n :: rest) :
    m.IsAt t (.handle s e n) rest :=
  ⟨frames, fun c h => by cases h⟩

/-- Nobody can tell whether the process of a slot has failed, if the exchange has moved on. -/
theorem failsInVain_of_hasMovedOn (hs : m.Stacked)
    (frames : (m.task t).frames = .handle s e n :: rest)
    (moved : (m.router.exchange e).HasMovedOn n) : m.FailsInVain t rest := by
  have at' := isAt_of_frames frames
  have handles {moves : List Move} {m' : Machine} (waits : .advance t ∉ moves)
      (after : m.after? moves = some m') :
      (m'.task t).frames = .handle s e n :: rest ∧ (m'.router.exchange e).HasMovedOn n :=
    ⟨task_of_after? at' waits after ▸ frames, hasMovedOn_of_after? hs moved after⟩
  refine ⟨fun moves m' waits after => ?_, fun moves waits => at'.after?_withReply waits .done,
    fun moves comes => ?_⟩
  · obtain ⟨frames', moved'⟩ := handles waits after
    exact pass_of_handle frames' moved'
  · obtain ⟨moves₁, moves₂, rfl, waits⟩ := List.eq_append_cons_of_mem comes
    rw [after?_append, after?_append, at'.after?_withReply waits]
    cases hm : m.after? moves₁ with
    | none => rfl
    | some m' =>
      obtain ⟨frames', moved'⟩ := handles waits hm
      have step := pass_of_handle (m := m'.withReply t .done)
        (by rw [withReply, task_setTask_self, frames']) moved'
      rw [Option.map_some, Option.bind_some, Option.bind_some, after?_cons, after?_cons, step,
        pass_of_handle frames' moved', pass_withReply (isAt_of_frames frames').lt_size]

end Machine

/-- The process of a slot has failed, and its task is about to take notice of that: an endpoint has
answered so, or a client has not taken what was put into its mailbox.  When the exchange was
delivered, it had been sent `n` times. -/
structure Machine.HasFailed (m : Machine) (t : Nat) (s : SlotId) (e : ExchangeId) (n : Nat)
    (f : Failure) (rest : List Frame) : Prop where
  frames : (m.task t).frames = .handle s e n :: rest
  reply : (m.task t).reply = .failed f

/-- An exchange is delivered to an endpoint or a client, whose process fails, and `moves` are made
before its task takes notice.  If the exchange has been sent again since it was delivered, or is
over, the process might as well not have failed. -/
theorem Run.failsInVain {config : Config} {h₀ h : History} {m₀ m₁ m m' : Machine} {t n : Nat}
    {s : SlotId} {e : ExchangeId} {rest : List Frame} {f : Failure} {moves : List Move}
    (run : Run config h₀ m₀) (delivery : (m₀.task t).frames = .process s e :: rest)
    (delivered : m₀.move? (.advance t) = some m₁) (p : Path m₁ h m)
    (inside : ∀ q ∈ h, rest.length < (q.1.task t).frames.length)
    (failed : m.HasFailed t s e n f rest) (waits : .advance t ∉ moves)
    (later : m.after? moves = some m')
    (late : sendings e h ≠ [] ∨ (m'.router.exchange e).status.isTerminal = true) :
    (m.withReply t .done).after? moves = some (m'.withReply t .done) ∧ m'.FailsInVain t rest := by
  have run₁ : Run config ((m₀, .advance t) :: h₀) m₁ := run.append (.cons .nil delivered)
  have stacked := (run₁.append p).stacked
  have at' := Machine.isAt_of_frames failed.frames
  have still : rest.length < (m.task t).frames.length := by
    rw [failed.frames, List.length_cons]
    exact Nat.lt_succ_self _
  have noted : n = (m₁.router.exchange e).sends := by
    have delivering := (Machine.isDelivering_of_move delivery delivered).path p inside still
    rw [(delivering.handling failed.frames).2.2, Machine.sends_of_move run.stacked delivered,
      Machine.accepted?, Machine.deed_advance delivery]
    rfl
  have moved : (m'.router.exchange e).HasMovedOn n := by
    rcases late with again | ended
    · have more : (m.router.exchange e).HasMovedOn n := by
        refine .inl ?_
        rw [p.sends_eq run₁.stacked, noted]
        exact Nat.lt_add_of_pos_right (List.length_pos_iff_ne_nil.2 again)
      exact Machine.hasMovedOn_of_after? stacked more later
    · exact .inr ended
  constructor
  · rw [at'.after?_withReply waits, later, Option.map_some]
  · exact Machine.failsInVain_of_hasMovedOn (Machine.stacked_of_after? stacked later)
      (Machine.task_of_after? at' waits later ▸ failed.frames) moved

/-! ## Failures that come too late -/

/-- A slot of the router fails on the task of the application, to which all deliveries belong. -/
structure FailsAfter (h₀ h : History) (m₀ m₁ m : Machine) (s : SlotId) (n : Nat) (f : Failure)
    (rest : List Frame) : Prop where
  run : Run { syncDelivery := true } h₀ m₀
  delivery : (m₀.task 0).frames = .process s ⟨0⟩ :: rest
  delivered : m₀.move? (.advance 0) = some m₁
  path : Path m₁ h m
  inside : ∀ q ∈ h, rest.length < (q.1.task 0).frames.length
  failed : m.HasFailed 0 s ⟨0⟩ n f rest

/-- The exchange is about to be delivered to the slot. -/
def Machine.isDeliveringTo (m : Machine) (s : SlotId) : Bool :=
  match (m.task 0).frames with
  | .process s' e :: _ => s' == s && e == ⟨0⟩
  | _ => false

/-- The slot has failed, and the stack is as high as it was before the delivery. -/
def Machine.hasFailed (m : Machine) (s : SlotId) (height : Nat) : Bool :=
  match (m.task 0).frames, (m.task 0).reply with
  | .handle s' e _ :: rest, .failed _ => s' == s && e == ⟨0⟩ && rest.length + 1 == height
  | _, _ => false

theorem Machine.frames_of_isDeliveringTo {m : Machine} {s : SlotId}
    (h : m.isDeliveringTo s = true) : ∃ rest, (m.task 0).frames = .process s ⟨0⟩ :: rest := by
  unfold isDeliveringTo at h
  split at h
  · rename_i s' e rest frames
    simp only [Bool.and_eq_true, beq_iff_eq] at h
    obtain ⟨rfl, rfl⟩ := h
    exact ⟨rest, frames⟩
  · cases h

theorem Machine.exists_of_hasFailed {m : Machine} {s : SlotId} {height : Nat}
    (h : m.hasFailed s height = true) :
    ∃ n f rest, m.HasFailed 0 s ⟨0⟩ n f rest ∧ rest.length + 1 = height := by
  unfold hasFailed at h
  split at h
  · rename_i s' e n rest f frames reply
    simp only [Bool.and_eq_true, beq_iff_eq] at h
    obtain ⟨⟨rfl, rfl⟩, hn⟩ := h
    exact ⟨n, f, rest, ⟨frames, reply⟩, hn⟩
  · cases h

theorem exists_failsAfter (s : SlotId) (before after : List Cue) (q : History × Machine → Bool)
    (hq : (Machine.synchronous.enact [] before).any (fun p => p.2.isDeliveringTo s &&
      (p.2.move? (.advance 0)).any fun m₁ => (m₁.enact [] after).any fun p' =>
        p'.1.all (fun q => decide ((p.2.task 0).frames.length ≤ (q.1.task 0).frames.length)) &&
          p'.2.hasFailed s (p.2.task 0).frames.length && q p') = true) :
    ∃ h₀ h m₀ m₁ m n f rest, FailsAfter h₀ h m₀ m₁ m s n f rest ∧ q (h, m) = true := by
  obtain ⟨h₀, m₀, p₀, hq⟩ := Path.exists_of_enact _ _ _ hq
  obtain ⟨delivering, hq⟩ := Bool.and_eq_true_iff.1 hq
  obtain ⟨m₁, delivered, hq⟩ := (Option.any_eq_true ..).1 hq
  obtain ⟨h, m, p, hq⟩ := Path.exists_of_enact _ _ _ hq
  simp only [Bool.and_eq_true, List.all_eq_true, decide_eq_true_eq] at hq
  obtain ⟨⟨inside, failed⟩, hq⟩ := hq
  obtain ⟨below, delivery⟩ := Machine.frames_of_isDeliveringTo delivering
  obtain ⟨n, f, rest, failed, height⟩ := Machine.exists_of_hasFailed failed
  rw [delivery, List.length_cons] at inside height
  have still : below.length < (m.task 0).frames.length := by
    rw [failed.frames, List.length_cons]
    omega
  obtain ⟨above, g, frames, hg⟩ :=
    (Machine.isDelivering_of_move delivery delivered).path p inside still
  -- both stacks end in what was below the delivery
  have stack : (above ++ [g]) ++ below = [.handle s ⟨0⟩ n] ++ rest := by
    simpa using frames.symm.trans failed.frames
  obtain ⟨-, rfl⟩ := List.append_inj' stack (by omega)
  exact ⟨h₀, h, m₀, m₁, m, n, f, _, ⟨p₀.runSynchronous, delivery, delivered, p, inside, failed⟩, hq⟩

/-- The endpoint answers while it is called; the client gets the answer and ends the exchange, with
which the endpoint is called once more.  Its first call fails in the end. -/
def Cue.sentOn : List Cue :=
  [runs 0] ++ answering 0 ++
    [operate (.take ⟨1⟩), operate (.change ⟨0⟩ (.status .done)), request 0 (.send ⟨1⟩ ⟨0⟩), runs 0,
      answer 0 .done, runs 0, answer 0 (.failed (.other "broken"))]

/-- The endpoint ends the exchange, which comes to the client. -/
def Cue.ended : List Cue :=
  opening .inOnly ++ [request 0 (.send ⟨1⟩ ⟨0⟩), runs 0, operate (.change ⟨0⟩ (.status .done)),
    request 0 (.send ⟨0⟩ ⟨0⟩), halts 0 .processes]

/-- An endpoint fails when it has sent the exchange on, and a client that has dropped its channel
when the exchange is over. -/
theorem Run.failsInVain_sentOn :
    (∃ h₀ h m₀ m₁ m n f rest, FailsAfter h₀ h m₀ m₁ m ⟨0⟩ n f rest ∧
      (sendings ⟨0⟩ h).map (·.sender) = [⟨1⟩, ⟨0⟩] ∧ m.FailsInVain 0 rest) ∧
    ∃ h₀ h m₀ m₁ m n f rest, FailsAfter h₀ h m₀ m₁ m ⟨1⟩ n f rest ∧ sendings ⟨0⟩ h = [] ∧
      (m.router.exchange ⟨0⟩).status = .done ∧ m.FailsInVain 0 rest := by
  constructor
  · obtain ⟨h₀, h, m₀, m₁, m, n, f, rest, w, senders⟩ := exists_failsAfter ⟨0⟩
      (Cue.opening .inOut ++
        [.request 0 (.send ⟨1⟩ ⟨0⟩), .halts 0 .processes]) Cue.sentOn
      (fun p => (sendings ⟨0⟩ p.1).map (·.sender) == [⟨1⟩, ⟨0⟩]) (by rfl)
    have senders := beq_iff_eq.1 senders
    exact ⟨h₀, h, m₀, m₁, m, n, f, rest, w, senders, (w.run.failsInVain w.delivery w.delivered
      w.path w.inside w.failed List.not_mem_nil rfl
      (.inl fun none => by rw [none] at senders; cases senders)).2⟩
  · obtain ⟨h₀, h, m₀, m₁, m, n, f, rest, w, hq⟩ := exists_failsAfter ⟨1⟩ Cue.ended
      [.operate (.abandon ⟨1⟩), .halts 0 .handles]
      (fun p => (sendings ⟨0⟩ p.1).isEmpty && (p.2.router.exchange ⟨0⟩).status == .done) (by rfl)
    simp only [Bool.and_eq_true, List.isEmpty_iff, beq_iff_eq] at hq
    exact ⟨h₀, h, m₀, m₁, m, n, f, rest, w, hq.1, hq.2, (w.run.failsInVain w.delivery w.delivered
      w.path w.inside w.failed List.not_mem_nil rfl (.inr (by rw [hq.2]; rfl))).2⟩

end Engine

end MessageRouter
