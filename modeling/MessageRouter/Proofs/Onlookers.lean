import MessageRouter.Proofs.Tidings
import MessageRouter.Proofs.UnheardSteps

/-!
# Runs without their listeners

When everything that has to do with listeners is taken out of a machine, what is left is a machine
of its own, and the moves that are not about listeners are moves of it.  The others leave it as it
is, so a run in which listeners only look on contains a run of a router that has no listeners.
-/

namespace MessageRouter.Engine

/-- Nothing on a stack has to do with listeners. -/
def IsPlain (frames : List Frame) : Prop := ∀ f ∈ frames, f.isPlain = true

/-- A stack without the calls of listeners, and without anybody to tell. -/
def unheardFrames (frames : List Frame) : List Frame :=
  (frames.filter fun f => !f.isListening).map Frame.unheard

/-- A task without the calls of listeners.  What they have answered is forgotten. -/
def Task.unheard (t : Task) : Task :=
  let telling := (unheardFrames t.frames).head?.any Frame.isNotice
  { t with
    frames := unheardFrames t.frames
    reply := if telling then .done else t.reply
    started := telling || t.started }

namespace Machine

/-- A machine without listeners. -/
def unheard (m : Machine) : Machine :=
  { m with router := m.router.unheard, tasks := m.tasks.map Task.unheard }

/-- No listener is called on a task, nor about to be. -/
def isQuietOn (m : Machine) (t : Nat) : Bool :=
  (m.task t).frames.head?.all fun f => !f.isListening && f.notices.isEmpty

/-- A move that is not about listeners: it neither tells them anything, nor do they answer, nor does
anybody become a listener or cease to be one. -/
def isOwn (m : Machine) : Move → Bool
  | .advance t | .request t _ | .answer t _ => m.isQuietOn t
  | .operate (.setListeners _) => false
  | _ => true

end Machine

/-- The moves that are not about listeners. -/
def own (h : History) : History := h.filter fun q => q.1.isOwn q.2

/-- A history without listeners. -/
def unheard (h : History) : History := (own h).map fun q => (q.1.unheard, q.2)

/-! ## Where listeners are told something -/

/-- On a stack nobody is told anything, or the top frame tells somebody, or the one below it does
and waits for a listener. -/
inductive Composed : List Frame → Prop
  | plain {frames : List Frame} (plain : IsPlain frames) : Composed frames
  | telling {f : Frame} {rest : List Frame} (notice : f.isNotice = true) (plain : IsPlain rest) :
    Composed (f :: rest)
  | told {c : Call} {f : Frame} {rest : List Frame} (listening : c.listener?.isSome = true)
    (notice : f.isNotice = true) (plain : IsPlain rest) : Composed (.call c :: f :: rest)

namespace Frame

variable {c : Context} {r : Router} {f : Frame} {o : Outcome} {rest : List Frame}

theorem isPlain_carryFrame (fl : Flow) (h : Hop) (s : SlotId) :
    (carryFrame fl h s).isPlain = true := by
  unfold carryFrame
  split <;> rfl

theorem isPlain_of_isRequest (request : f.isRequest = true) : f.isPlain = true := by
  cases f <;> first | rfl | cases request

/-- A flow that notes what it has delivered does not become a listener. -/
theorem isPlain_note {g : Frame} (plain : g.isPlain = true) : (f.note g).isPlain = true := by
  unfold note
  split
  · rfl
  · exact plain

/-- What has nothing to do with listeners leaves only such frames, unless it finds out who is to be
told something. -/
theorem Becomes.plain (b : Becomes c r f o) (plain : f.isPlain = true) :
    (IsPlain o.above ∨ f.isNews = true ∧ ∃ g, o.above = [g] ∧ g.isNotice = true) ∧
      IsPlain o.apart := by
  cases b with
  | notified | notify | slotNotified | notifySlot => all_goals cases plain
  | announce | announceSlot => all_goals exact ⟨.inr ⟨rfl, _, rfl, rfl⟩, List.all_eq_true.1 rfl⟩
  | pins fl | reaches fl =>
    all_goals
      refine ⟨.inl (List.forall_mem_cons.2 ⟨isPlain_carryFrame fl _ _, ?_⟩), List.all_eq_true.1 rfl⟩
      exact List.all_eq_true.1 rfl
  | _ => exact ⟨.inl (List.all_eq_true.1 rfl), List.all_eq_true.1 rfl⟩

/-- What tells listeners something tells the next one, or is through. -/
theorem Becomes.notice (b : Becomes c r f o) (notice : f.isNotice = true) :
    o.apart = [] ∧ (o.above = [] ∨ ∃ call g, o.above = [.call call, g] ∧
      call.listener?.isSome = true ∧ g.isNotice = true) := by
  cases b with
  | notified | slotNotified => all_goals exact ⟨rfl, .inl rfl⟩
  | notify | notifySlot => all_goals exact ⟨rfl, .inr ⟨_, _, rfl, rfl, rfl⟩⟩
  | _ => cases notice

theorem Becomes.composed (b : Becomes c r f o) (composed : Composed (f :: rest)) :
    Composed (o.above ++ rest) ∧ Composed o.apart := by
  cases composed with
  | plain plain =>
    obtain ⟨above, apart⟩ := b.plain (plain f List.mem_cons_self)
    have below : IsPlain rest := fun g hg => plain g (List.mem_cons_of_mem _ hg)
    refine ⟨?_, .plain apart⟩
    rcases above with above | ⟨-, g, same, notice⟩
    · exact .plain (List.forall_mem_append.2 ⟨above, below⟩)
    · exact same ▸ .telling notice below
  | telling notice plain =>
    obtain ⟨apart, above⟩ := b.notice notice
    refine ⟨?_, apart ▸ .plain fun g hg => by cases hg⟩
    rcases above with above | ⟨call, g, same, listening, notice⟩
    · exact above ▸ .plain plain
    · exact same ▸ .told listening notice plain
  | told => cases b

end Frame

namespace Machine

variable {m m' : Machine} {mv : Move} {t : Nat}

/-- All stacks are composed in this way. -/
def Composed (m : Machine) : Prop := ∀ t, Engine.Composed (m.task t).frames

theorem composed_ofRouter (r : Router) : (ofRouter r).Composed := by
  rintro (_ | t)
  · exact .plain fun f hf => by cases List.mem_singleton.1 hf; rfl
  · exact .plain fun f hf => by cases hf

theorem observes_request {f : Frame} {c : Call} {rest : List Frame}
    (hf : (m.task t).frames = .call c :: rest) :
    m.observes (.request t f) = !c.listener?.isSome := by
  rw [observes, Task.call?, hf]
  cases c <;> rfl

theorem Composed.move (composed : m.Composed) (observes : m.observes mv = true)
    (hm : m.move? mv = some m') : m'.Composed := by
  refine stacks_of_move (P := fun frames _ => Engine.Composed frames) hm composed ?_ ?_ ?_ ?_
  · exact .plain fun f hf => by cases List.mem_singleton.1 hf; rfl
  · intro t f rest o hf b
    exact b.composed (hf ▸ composed t)
  · intro t f c rest hmv request hf
    subst hmv
    have stack := composed t
    rw [hf] at stack
    cases stack with
    | plain plain =>
      refine .plain (List.forall_mem_cons.2 ⟨Frame.isPlain_of_isRequest request, ?_⟩)
      obtain ⟨top, below⟩ := List.forall_mem_cons.1 plain
      exact List.forall_mem_cons.2 ⟨Frame.isPlain_note top, below⟩
    | telling notice => cases notice
    | told listening =>
      rw [observes_request hf, listening] at observes
      cases observes
  · intro t reply c rest hf
    have stack := composed t
    rw [hf] at stack
    cases stack with
    | plain plain => exact .plain fun g hg => plain g (List.mem_cons_of_mem _ hg)
    | telling notice => cases notice
    | told listening notice plain => exact .telling notice plain

end Machine

/-! ## Taking the listeners out -/

section

variable {f : Frame} {frames rest : List Frame}

theorem IsPlain.tail (plain : IsPlain (f :: rest)) : IsPlain rest :=
  (List.forall_mem_cons.1 plain).2

theorem Frame.isListening_of_isPlain (plain : f.isPlain = true) : f.isListening = false := by
  cases h : f.isListening with
  | false => rfl
  | true => simp [Frame.isPlain, h] at plain

theorem Frame.isNotice_of_isPlain (plain : f.isPlain = true) : f.isNotice = false := by
  cases h : f.isNotice with
  | false => rfl
  | true => simp [Frame.isPlain, h] at plain

theorem Frame.unheard_of_silent (silent : f.notices = []) : f.unheard = f := by
  cases f with
  | notify event e ls | notifySlot event s ls =>
    all_goals
      cases List.map_eq_nil_iff.1 silent
      rfl
  | _ => rfl

theorem Frame.notices_of_isPlain (plain : f.isPlain = true) : f.notices = [] := by
  cases f with
  | notify | notifySlot => all_goals cases plain
  | _ => rfl

theorem unheardFrames_of_isPlain (plain : IsPlain frames) : unheardFrames frames = frames := by
  induction frames with
  | nil => rfl
  | cons f rest ih =>
    obtain ⟨top, below⟩ := List.forall_mem_cons.1 plain
    have heard : ¬f.isListening = true := by
      rw [Frame.isListening_of_isPlain top]
      exact Bool.false_ne_true
    rw [unheardFrames, List.filter_cons_of_pos (by simpa using heard), List.map_cons,
      Frame.unheard_of_silent (Frame.notices_of_isPlain top)]
    exact congrArg (f :: ·) (ih below)

theorem unheardFrames_append (above : List Frame) (plain : IsPlain rest) :
    unheardFrames (above ++ rest) = unheardFrames above ++ rest := by
  rw [unheardFrames, List.filter_append, List.map_append]
  exact congrArg (_ ++ ·) (unheardFrames_of_isPlain plain)

theorem Task.unheard_default : Task.unheard default = default := rfl

/-- A task on which nobody is told anything stays as it is. -/
theorem Task.unheard_of_isPlain {t : Task} (plain : IsPlain t.frames) : t.unheard = t := by
  have quiet : t.frames.head?.any Frame.isNotice = false := by
    cases hf : t.frames with
    | nil => rfl
    | cons f rest => exact Frame.isNotice_of_isPlain (plain f (hf ▸ List.mem_cons_self))
  simp only [Task.unheard, unheardFrames_of_isPlain plain, quiet, Bool.false_eq_true, if_false,
    Bool.false_or]

/-- A task on which somebody tells listeners something forgets them. -/
theorem Task.unheard_of_telling {t : Task} (same : unheardFrames t.frames = f :: rest)
    (notice : f.isNotice = true) :
    t.unheard = { t with frames := f :: rest, reply := .done, started := true } := by
  simp only [Task.unheard, same, List.head?_cons, Option.any_some, notice, if_true, Bool.true_or]

theorem unheardFrames_telling (notice : f.isNotice = true) (plain : IsPlain rest) :
    unheardFrames (f :: rest) = f.unheard :: rest ∧ f.unheard.isNotice = true := by
  rw [← List.singleton_append, unheardFrames_append [f] plain]
  cases f with
  | notify | notifySlot => all_goals exact ⟨rfl, rfl⟩
  | _ => cases notice

theorem unheardFrames_told {c : Call} (listening : c.listener?.isSome = true) :
    unheardFrames (.call c :: rest) = unheardFrames rest := by
  rw [unheardFrames, List.filter_cons_of_neg (by simp [Frame.isListening, listening])]
  rfl

end

theorem Outcome.eq_blocked_of_unheard {o : Outcome} (h : o.unheard = .blocked) : o = .blocked := by
  cases o <;> first | rfl | cases h

/-- An operation that does not change who is a listener does the same without them. -/
theorem apply_unheard (alive : Bool) (r : Router) {o : Operation}
    (other : ∀ ls, o ≠ .setListeners ls) :
    o.apply alive r.unheard = (o.apply alive r).unheard := by
  have closeIn (s : SlotId) (r : Router) :
      Operation.closeIn alive s r.unheard = (Operation.closeIn alive s r).unheard := by
    cases alive with
    | false => rfl
    | true =>
      rw [Operation.closeIn, Operation.closeIn, if_pos rfl, if_pos rfl, Router.closeChannel,
        Router.closeChannel]
      by_cases hs : r.isPresent s = true
      · rw [if_pos hs, if_pos (by exact hs)]
        rfl
      · rw [if_neg hs, if_neg (by exact hs)]
  cases o with
  | change e c =>
    simp only [Operation.apply, Router.change, Router.exchange_unheard]
    split <;> rfl
  | close s => exact closeIn s r
  | abandon s =>
    by_cases hs : s ∈ r.allSlots
    · rw [Operation.apply, Operation.apply, if_pos hs, if_pos (by exact hs)]
      exact closeIn s (r.modifySlot s Slot.abandon)
    · rw [Operation.apply, Operation.apply, if_neg hs, if_neg (by exact hs)]
  | take s =>
    simp only [Operation.apply, Router.slot_unheard]
    split <;> rfl
  | setListeners ls => exact absurd rfl (other ls)
  | _ => rfl

namespace Machine

variable {m m' : Machine} {mv : Move} {t : Nat} {f : Frame} {rest : List Frame}

theorem task_unheard (m : Machine) (t : Nat) : m.unheard.task t = (m.task t).unheard :=
  Table.get_map Task.unheard_default ..

theorem setTask_unheard (m : Machine) (t : Nat) (task : Task) :
    (m.setTask t task).unheard = m.unheard.setTask t task.unheard :=
  congrArg (fun tasks => { m.unheard with tasks }) (m.tasks.map_set Task.unheard_default t task)

theorem add_unheard (m : Machine) (task : Task) :
    unheard { m with tasks := (m.tasks.add task).2 } =
      { m.unheard with tasks := (m.unheard.tasks.add task.unheard).2 } :=
  congrArg (fun tasks => { m.unheard with tasks }) (m.tasks.map_add Task.unheard task)

theorem routerAlive_unheard (m : Machine) : m.unheard.routerAlive = m.routerAlive := by
  have frame (f : Frame) : f.unheard.holdsRouter = f.holdsRouter := by cases f <;> rfl
  have stack (frames : List Frame) :
      (unheardFrames frames).any Frame.holdsRouter = frames.any Frame.holdsRouter := by
    induction frames with
    | nil => rfl
    | cons f rest ih =>
      cases hf : f.isListening with
      | true =>
        have left : f.holdsRouter = false := by
          cases f <;> first | rfl | cases hf
        rw [unheardFrames, List.filter_cons_of_neg (by simp [hf]), List.any_cons, left,
          Bool.false_or]
        exact ih
      | false =>
        rw [unheardFrames, List.filter_cons_of_pos (by simp [hf]), List.map_cons, List.any_cons,
          List.any_cons, frame]
        exact congrArg (f.holdsRouter || ·) ih
  rw [routerAlive, routerAlive]
  refine congrArg (m.router.owned || ·) ((List.any_map ..).trans ?_)
  exact congrArg (m.tasks.rows.any ·) (funext fun t => stack t.frames)

theorem settle_unheard {o : Outcome} (below : IsPlain rest)
    (heard : ∀ g ∈ o.above, g.isListening = false) (apart : IsPlain o.apart) :
    (m.settle t rest o).unheard = m.unheard.settle t rest o.unheard := by
  have above {fs : List Frame} (heard : ∀ g ∈ fs, g.isListening = false) :
      unheardFrames fs = fs.map Frame.unheard := by
    rw [unheardFrames, List.filter_eq_self.2 fun g hg => by simp [heard g hg]]
  cases o with
  | blocked => rfl
  | next fs r =>
    have heard : ∀ g ∈ fs, g.isListening = false := heard
    have task :
        Task.unheard { m.task t with frames := fs ++ rest, reply := .done, started := true } =
        { m.unheard.task t with
          frames := fs.map Frame.unheard ++ rest, reply := .done, started := true } := by
      rw [task_unheard]
      simp only [Task.unheard, unheardFrames_append fs below, above heard, ite_self, Bool.or_true]
    rw [settle, setTask_unheard, task]
    rfl
  | through reply r =>
    have task : Task.unheard { m.task t with frames := rest, reply, started := true } =
        { m.unheard.task t with frames := rest, reply, started := true } := by
      rw [task_unheard, Task.unheard_of_isPlain below]
      rfl
    rw [settle, setTask_unheard, task]
    rfl
  | spawn lane fs r =>
    have task : Task.unheard { m.task t with frames := rest, reply := .done, started := true } =
        { m.unheard.task t with frames := rest, reply := .done, started := true } := by
      rw [task_unheard, Task.unheard_of_isPlain below]
      rfl
    have other :
        Task.unheard { lane, frames := fs } = { lane, frames := fs.map Frame.unheard } := by
      have same : fs.map Frame.unheard = fs := (List.map_congr_left fun g hg =>
        Frame.unheard_of_silent (Frame.notices_of_isPlain (apart g hg))).trans (List.map_id fs)
      rw [Task.unheard_of_isPlain apart, same]
    rw [settle, add_unheard, setTask_unheard, task, other]
    rfl

/-! ## Moves that are not about listeners -/

/-- What is on a task that is quiet, as long as there is something. -/
theorem quiet_of_isQuietOn (composed : m.Composed) (quiet : m.isQuietOn t = true)
    (hf : (m.task t).frames = f :: rest) :
    IsPlain rest ∧ f.isListening = false ∧ f.notices = [] := by
  rw [isQuietOn, hf] at quiet
  simp only [List.head?_cons, Option.all_some, Bool.and_eq_true, Bool.not_eq_true',
    List.isEmpty_iff] at quiet
  refine ⟨?_, quiet⟩
  have stack := composed t
  rw [hf] at stack
  cases stack with
  | plain plain => exact plain.tail
  | telling notice plain => exact plain
  | told listening => exact absurd (listening.symm.trans quiet.1) Bool.false_ne_true.symm

theorem frames_unheard (composed : m.Composed) (quiet : m.isQuietOn t = true) :
    (m.unheard.task t).frames = (m.task t).frames := by
  rw [task_unheard]
  show unheardFrames (m.task t).frames = (m.task t).frames
  cases hf : (m.task t).frames with
  | nil => rfl
  | cons f rest =>
    obtain ⟨below, heard, silent⟩ := quiet_of_isQuietOn composed quiet hf
    have top : unheardFrames [f] = [f] := by
      rw [unheardFrames, List.filter_cons_of_pos (by simp [heard]), List.filter_nil,
        List.map_singleton, Frame.unheard_of_silent silent]
    rw [← List.singleton_append, unheardFrames_append [f] below, top]

/-- On a task that waits for somebody who is not a listener nothing is taken out. -/
theorem task_unheard_of_called {c : Call} (composed : m.Composed) (quiet : m.isQuietOn t = true)
    (hf : (m.task t).frames = .call c :: rest) :
    m.unheard.task t = m.task t ∧ IsPlain (.call c :: rest) := by
  obtain ⟨below, heard, -⟩ := quiet_of_isQuietOn composed quiet hf
  have plain : IsPlain (.call c :: rest) :=
    List.forall_mem_cons.2 ⟨by simp [Frame.isPlain, Frame.isNotice, heard], below⟩
  exact ⟨(task_unheard ..).trans (Task.unheard_of_isPlain (hf ▸ plain)), plain⟩

theorem call?_unheard (composed : m.Composed) (quiet : m.isQuietOn t = true) :
    (m.unheard.task t).call? = (m.task t).call? := by
  rw [Task.call?, Task.call?, frames_unheard composed quiet]

/-- The frame that is about to be worked on takes the same step. -/
theorem step_unheard (composed : m.Composed) (quiet : m.isQuietOn t = true)
    (hf : (m.task t).frames = f :: rest) :
    f.step ⟨m.unheard.routerAlive, m.unheard.now, (m.unheard.task t).reply⟩ m.unheard.router =
      (f.step ⟨m.routerAlive, m.now, (m.task t).reply⟩ m.router).unheard := by
  obtain ⟨below, heard, silent⟩ := quiet_of_isQuietOn composed quiet hf
  rw [routerAlive_unheard]
  cases hn : f.isNotice with
  | false =>
    have plain : IsPlain (m.task t).frames :=
      hf ▸ List.forall_mem_cons.2 ⟨by simp [Frame.isPlain, heard, hn], below⟩
    rw [task_unheard, Task.unheard_of_isPlain plain]
    exact Frame.step_unheard _ _ silent
  | true =>
    -- What tells nobody any more does not look at the reply.
    cases f with
    | notify event e ls | notifySlot event s ls =>
      all_goals
        cases List.map_eq_nil_iff.1 silent
        rfl
    | _ => cases hn

/-- A step that is not about listeners calls none. -/
theorem heard_of_step {c : Context} {r : Router} {o : Outcome} (b : Frame.Becomes c r f o)
    (heard : f.isListening = false) (silent : f.notices = []) :
    (∀ g ∈ o.above, g.isListening = false) ∧ IsPlain o.apart := by
  cases hn : f.isNotice with
  | false =>
    obtain ⟨above, apart⟩ := b.plain (by simp [Frame.isPlain, heard, hn])
    refine ⟨fun g hg => ?_, apart⟩
    rcases above with above | ⟨-, g', same, notice⟩
    · exact Frame.isListening_of_isPlain (above g hg)
    · rw [same] at hg
      cases List.mem_singleton.1 hg
      cases g <;> first | rfl | cases notice
  | true =>
    cases b with
    | notified | slotNotified =>
      all_goals exact ⟨List.forall_mem_nil _, List.forall_mem_nil _⟩
    | notify | notifySlot => all_goals cases silent
    | _ => cases hn

/-- A move that is not about listeners is made in the same way without them. -/
theorem move?_unheard (composed : m.Composed) (own : m.isOwn mv = true) :
    m.unheard.move? mv = (m.move? mv).map unheard := by
  cases mv with
  | advance t =>
    have same := frames_unheard composed own
    cases hf : (m.task t).frames with
    | nil =>
      rw [hf] at same
      simp only [move?, advance?, hf, same, Option.map_none]
    | cons f rest =>
      rw [hf] at same
      have step := step_unheard composed own hf
      obtain ⟨below, heard, silent⟩ := quiet_of_isQuietOn composed own hf
      by_cases blocked : f.step ⟨m.routerAlive, m.now, (m.task t).reply⟩ m.router = .blocked
      · rw [advance_of_blocked hf blocked, advance_of_blocked same (by rw [step, blocked]; rfl)]
        rfl
      · obtain ⟨above, apart⟩ := heard_of_step (Frame.becomes_step f blocked) heard silent
        rw [advance_of_step hf rfl blocked,
          advance_of_step same step fun h => blocked (Outcome.eq_blocked_of_unheard h),
          Option.map_some, settle_unheard below above apart]
  | request t f =>
    simp only [move?, call?_unheard composed own]
    split
    · rename_i request
      obtain ⟨c, rest, hf⟩ := exists_call request.1
      obtain ⟨same, plain⟩ := task_unheard_of_called composed own hf
      obtain ⟨top, below⟩ := List.forall_mem_cons.1 plain
      have requested : IsPlain (f :: f.note (.call c) :: rest) :=
        List.forall_mem_cons.2 ⟨Frame.isPlain_of_isRequest request.2,
          List.forall_mem_cons.2 ⟨Frame.isPlain_note top, below⟩⟩
      rw [Option.map_some, Machine.request, Machine.request, setTask_unheard, same, hf,
        Task.unheard_of_isPlain (by exact requested)]
    · rfl
  | answer t reply =>
    simp only [move?, call?_unheard composed own]
    split
    · rename_i call
      obtain ⟨c, rest, hf⟩ := exists_call call
      obtain ⟨same, plain⟩ := task_unheard_of_called composed own hf
      rw [Option.map_some, finish, finish, setTask_unheard, same, hf,
        Task.unheard_of_isPlain (by exact plain.tail)]
    · rfl
  | operate o =>
    have other : ∀ ls, o ≠ .setListeners ls := fun ls h => by
      subst h
      cases own
    rw [move?, routerAlive_unheard]
    exact congrArg (fun router => some { m.unheard with router }) (apply_unheard _ _ other)
  | fork => exact congrArg some (add_unheard m Task.application).symm
  | elapse duration => rfl

/-! ## Moves that are about listeners -/

/-- Where a listener is called, or about to be, there is a frame that tells it something. -/
theorem exists_notice_of_loud (composed : m.Composed) (loud : m.isQuietOn t = false) :
    ∃ f rest, f.isNotice = true ∧ IsPlain rest ∧
      ((m.task t).frames = f :: rest ∨
        ∃ c, c.listener?.isSome = true ∧ (m.task t).frames = .call c :: f :: rest) := by
  have stack := composed t
  rw [isQuietOn] at loud
  generalize (m.task t).frames = frames at stack loud
  cases stack with
  | plain plain =>
    cases frames with
    | nil => cases loud
    | cons f rest =>
      have top := plain f List.mem_cons_self
      simp [Frame.isListening_of_isPlain top, Frame.notices_of_isPlain top] at loud
  | telling notice plain => exact ⟨_, _, notice, plain, .inl rfl⟩
  | told listening notice plain => exact ⟨_, _, notice, plain, .inr ⟨_, listening, rfl⟩⟩

/-- What is left on such a task without listeners. -/
theorem task_unheard_of_loud (notice : f.isNotice = true) (plain : IsPlain rest)
    (frames : (m.task t).frames = f :: rest ∨
      ∃ c, c.listener?.isSome = true ∧ (m.task t).frames = .call c :: f :: rest) :
    (m.task t).unheard =
      { m.task t with frames := f.unheard :: rest, reply := .done, started := true } := by
  obtain ⟨same, notice⟩ := unheardFrames_telling notice plain
  refine Task.unheard_of_telling ?_ notice
  rcases frames with frames | ⟨c, listening, frames⟩
  · rw [frames, same]
  · rw [frames, unheardFrames_told listening, same]

theorem setTask_unheard_of_loud {task : Task} (notice : f.isNotice = true) (plain : IsPlain rest)
    (frames : (m.task t).frames = f :: rest ∨
      ∃ c, c.listener?.isSome = true ∧ (m.task t).frames = .call c :: f :: rest)
    (same : task.unheard =
      { m.task t with frames := f.unheard :: rest, reply := .done, started := true }) :
    (m.setTask t task).unheard = m.unheard := by
  have ht : t < m.unheard.tasks.size := by
    refine (m.tasks.size_map Task.unheard).symm ▸ lt_size_of_frames fun none => ?_
    rcases frames with frames | ⟨c, -, frames⟩ <;> cases none.symm.trans frames
  rw [setTask_unheard, same, ← task_unheard_of_loud notice plain frames, ← task_unheard]
  exact congrArg (fun tasks => { m.unheard with tasks }) (Table.set_get_self _ ht)

/-- A move that is about listeners leaves the machine without them as it is. -/
theorem unheard_of_not_own (composed : m.Composed) (observes : m.observes mv = true)
    (hm : m.move? mv = some m') (other : m.isOwn mv = false) : m'.unheard = m.unheard := by
  cases mv with
  | advance t =>
    obtain ⟨f, rest, o, hf, b, rfl⟩ := exists_becomes hm
    obtain ⟨g, below, notice, plain, frames⟩ := exists_notice_of_loud composed other
    rcases id frames with same | ⟨c, listening, same⟩
    case inr =>
      cases same.symm.trans hf
      cases b
    cases same.symm.trans hf
    cases b with
    | notified | slotNotified =>
      all_goals
        rw [isOwn, isQuietOn, hf] at other
        cases other
    | notify | notifySlot =>
      all_goals
        refine setTask_unheard_of_loud notice plain frames ?_
        refine Task.unheard_of_telling ?_ rfl
        exact (unheardFrames_told rfl).trans (unheardFrames_telling notice plain).1
    | _ => cases notice
  | request t f =>
    obtain ⟨⟨call, -⟩, -⟩ := request_of_move hm
    obtain ⟨c, rest, hf⟩ := exists_call call
    obtain ⟨g, below, notice, plain, same | ⟨c, listening, same⟩⟩ :=
      exists_notice_of_loud composed other
    · cases same.symm.trans hf
      cases notice
    · rw [observes_request same, listening] at observes
      cases observes
  | answer t reply =>
    obtain ⟨call, rfl⟩ := finish_of_move hm
    obtain ⟨c, rest, hf⟩ := exists_call call
    obtain ⟨g, below, notice, plain, frames⟩ := exists_notice_of_loud composed other
    rcases id frames with same | ⟨c, listening, same⟩
    · cases same.symm.trans hf
      cases notice
    · obtain ⟨left, telling⟩ := unheardFrames_telling notice plain
      exact setTask_unheard_of_loud notice plain frames
        (Task.unheard_of_telling ((congrArg (unheardFrames ·.tail) same).trans left) telling)
  | operate o =>
    cases o with
    | setListeners ls => exact Option.some.inj hm ▸ rfl
    | _ => cases other
  | fork | elapse => all_goals cases other

end Machine

/-! ## Whole runs -/

/-- Moves that are about listeners do not count. -/
theorem own_append_of_others {h : History} (others : ∀ q ∈ h, q.1.isOwn q.2 = false)
    (h' : History) : own (h ++ h') = own h' := by
  have none : h.filter (fun q => q.1.isOwn q.2) = [] :=
    List.filter_eq_nil_iff.2 fun q hq => ne_true_of_eq_false (others q hq)
  rw [own, List.filter_append, none, List.nil_append]
  rfl

theorem own_cons (q : Machine × Move) (h : History) :
    own (q :: h) = if q.1.isOwn q.2 = true then q :: own h else own h :=
  List.filter_cons

section

variable {m₀ m m' : Machine} {h h' : History}

theorem Path.composed (p : Path m₀ h m) (composed : m₀.Composed) (observed : Observed h) :
    m.Composed := by
  induction p with
  | nil => exact composed
  | cons p hm ih => exact (ih observed.tail).move (observed _ List.mem_cons_self) hm

/-- Without the listeners a path is a path. -/
theorem Path.unheard (p : Path m₀ h m) (composed : m₀.Composed) (observed : Observed h) :
    Path m₀.unheard (unheard h) m.unheard := by
  induction p with
  | nil => exact .nil
  | @cons h m m' mv p hm ih =>
    have before := ih observed.tail
    have now := p.composed composed observed.tail
    cases own : m.isOwn mv with
    | true =>
      have step : m.unheard.move? mv = some m'.unheard := by
        rw [Machine.move?_unheard now own, hm, Option.map_some]
      rw [Engine.unheard, own_cons, if_pos own, List.map_cons]
      exact before.cons step
    | false =>
      rw [Machine.unheard_of_not_own now (observed _ List.mem_cons_self) hm own, Engine.unheard,
        own_cons, if_neg (ne_true_of_eq_false own)]
      exact before

/-- Where some moves lead to is determined by the moves. -/
theorem Path.eq_of_moves (p : Path m₀ h m) (p' : Path m₀ h' m')
    (same : h.map (·.2) = h'.map (·.2)) : h = h' ∧ m = m' := by
  induction p generalizing h' m' with
  | nil =>
    cases p' with
    | nil => exact ⟨rfl, rfl⟩
    | cons => cases same
  | cons p hm ih =>
    cases p' with
    | nil => cases same
    | cons p' hm' =>
      obtain ⟨rfl, moves⟩ := List.cons.inj same
      obtain ⟨rfl, rfl⟩ := ih p' moves
      exact ⟨rfl, Option.some.inj (hm.symm.trans hm')⟩

end

section

variable {config : Config} {h h' : History} {m m' : Machine}

theorem Run.composed (run : Run config h m) (observed : Observed h) : m.Composed := by
  obtain ⟨r, -, p⟩ := run
  exact p.composed (Machine.composed_ofRouter r) observed

theorem Run.all_composed (run : Run config h m) (observed : Observed h) :
    ∀ q ∈ h, q.1.Composed := by
  intro q hq
  obtain ⟨h₁, h₂, rfl⟩ := List.append_of_mem hq
  exact run.before.composed fun q hq =>
    observed q (List.mem_append_right _ (List.mem_cons_of_mem _ hq))

/-- What is left of a run without the listeners is a run. -/
theorem Run.unheard (run : Run config h m) (observed : Observed h) :
    Run config (unheard h) m.unheard := by
  obtain ⟨r, hr, p⟩ := run
  have none : (Machine.ofRouter r).unheard = .ofRouter r := by
    rw [Router.eq_of_start hr]
    rfl
  exact ⟨r, hr, none ▸ p.unheard (Machine.composed_ofRouter r) observed⟩

theorem Run.eq_of_moves (run : Run config h m) (run' : Run config h' m')
    (same : h.map (·.2) = h'.map (·.2)) : h = h' ∧ m = m' := by
  obtain ⟨r, hr, p⟩ := run
  obtain ⟨r', hr', p'⟩ := run'
  cases Except.ok.inj (hr.symm.trans hr')
  exact p.eq_of_moves p' same

end

end MessageRouter.Engine
