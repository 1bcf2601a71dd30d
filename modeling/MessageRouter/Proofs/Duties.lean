import Mathlib.Algebra.BigOperators.Group.Multiset.Basic
import MessageRouter.Proofs.Run

/-!
# Duties

The duties of a machine are the frames on all of its stacks, as a multiset.  Most of them are
about one exchange, their subject.  A frame that is about to learn that its exchange was refused
counts as one that has lost it: `Frame.pending` reads the top of a stack together with the reply
of the task, so that the exchange is always the business of the right frame.
-/

namespace MessageRouter

namespace Table

variable {α M : Type} [AddCommMonoid M]

theorem sum_add (t : Table α) (a : α) (f : α → M) :
    (((t.add a).2).rows.map f).sum = (t.rows.map f).sum + f a := by
  simp [add]

/-- One value contributes its own part to a sum over a table, whatever it is replaced by. -/
theorem exists_sum_set [Inhabited α] (t : Table α) (i : Nat) (f : α → M) (h : f default = 0) :
    ∃ n, (t.rows.map f).sum = f (t.get i) + n ∧
      ∀ a, ((t.set i a).rows.map f).sum = f a + n := by
  obtain ⟨rows, hrows⟩ : ∃ rows, rows = t.rows ++ List.replicate (i + 1 - t.size) default :=
    ⟨_, rfl⟩
  have hlen : i < rows.length := by simp [hrows, size]; omega
  have hget : rows[i] = t.get i := by
    simp only [hrows, get, List.getElem_append, List.getElem_replicate, List.getD_eq_getElem?_getD]
    split
    · rename_i hi
      rw [List.getElem?_eq_getElem hi]
      rfl
    · rename_i hi
      rw [List.getElem?_eq_none (by omega)]
      rfl
  have hsum : (t.rows.map f).sum = (rows.map f).sum := by simp [hrows, h]
  refine ⟨((rows.take i).map f).sum + ((rows.drop (i + 1)).map f).sum, ?_, fun a => ?_⟩
  · conv_lhs => rw [hsum, ← List.take_append_drop i rows, List.drop_eq_getElem_cons hlen, hget]
    simp only [List.map_append, List.map_cons, List.sum_append, List.sum_cons]
    exact add_left_comm _ _ _
  · have hset : (t.set i a).rows = rows.set i a := by rw [hrows]; rfl
    rw [hset, List.set_eq_take_append_cons_drop, if_pos hlen]
    simp only [List.map_append, List.map_cons, List.sum_append, List.sum_cons]
    exact add_left_comm _ _ _

end Table

namespace Engine

namespace Frame

/-- The exchange that a frame is about. -/
def subject : Frame → Option ExchangeId
  | .send _ e | .sendSync _ e _ | .mark _ e _ | .marked e _ _ | .waiting e _ _ | .woken e _
  | .dispatch _ e | .accept _ e | .release e | .wake e _ | .deliver _ e | .hand _ e
  | .process _ e | .enter _ e _ | .handle _ e _ => some e
  | .call (.carry _ h _ _) | .sent h | .routed h | .lost h _ | .route h | .offer h _ _ _
  | .offered h _ _ _ _ | .routeTo h _ | .reaching h _ => some h.exchange
  | _ => none

/-- A frame is about an exchange. -/
def isAbout (e : ExchangeId) (f : Frame) : Bool := f.subject == some e

/-- What a frame amounts to with the reply that it has got. -/
def pending : Reply → Frame → Frame
  | .refused err, .routed h => .lost h err
  | _, f => f

theorem pending_of_ne {f : Frame} (hf : ∀ h, f ≠ .routed h) (reply : Reply) :
    f.pending reply = f := by
  cases reply <;> cases f <;> first | rfl | exact absurd rfl (hf _)

/-- Only a hop that has been refused counts as something else. -/
theorem eq_routed_of_pending {f : Frame} {reply : Reply} (h : f.pending reply ≠ f) :
    ∃ hop err, f = .routed hop ∧ reply = .refused err := by
  cases reply <;> cases f <;> first | exact absurd rfl h | exact ⟨_, _, rfl, rfl⟩

end Frame

/-- What is still to be done with a stack and a reply for its top. -/
def dutiesOn (reply : Reply) : List Frame → List Frame
  | [] => []
  | f :: rest => f.pending reply :: rest

@[simp] theorem dutiesOn_done (frames : List Frame) : dutiesOn .done frames = frames := by
  cases frames <;> rfl

namespace Task

def duties (t : Task) : List Frame := dutiesOn t.reply t.frames

end Task

namespace Machine

/-- All that is still to be done. -/
def duties (m : Machine) : Multiset Frame :=
  (m.tasks.rows.map fun t => (t.duties : Multiset Frame)).sum

/-- All that is still to be done with an exchange. -/
def dutiesFor (m : Machine) (e : ExchangeId) : Multiset Frame :=
  m.duties.filter fun f => f.isAbout e

/-- The duties of one task stand beside those of the others, which a change of the task keeps. -/
theorem exists_duties_setTask (m : Machine) (t : Nat) :
    ∃ others : Multiset Frame, m.duties = (m.task t).duties + others ∧
      ∀ task, (m.setTask t task).duties = task.duties + others :=
  m.tasks.exists_sum_set t (fun task => (task.duties : Multiset Frame)) rfl

/-- What holds of the duties of every task holds of all, if it holds of sums. -/
theorem duties_induction {Q : Multiset Frame → Prop} {m : Machine} (zero : Q 0)
    (add : ∀ M N, Q M → Q N → Q (M + N)) (task : ∀ t, Q (m.task t).duties) : Q m.duties := by
  have sum {tasks : List Task} (h : ∀ task ∈ tasks, Q task.duties) :
      Q (tasks.map fun t => (t.duties : Multiset Frame)).sum := by
    induction tasks with
    | nil => exact zero
    | cons task tasks ih =>
      rw [List.map_cons, List.sum_cons]
      exact add _ _ (h task List.mem_cons_self) (ih fun u hu => h u (List.mem_cons_of_mem _ hu))
  refine sum fun t ht => ?_
  obtain ⟨i, hi, rfl⟩ := List.mem_iff_getElem.1 ht
  have := task i
  rwa [Machine.task, Table.get, List.getD_eq_getElem?_getD, List.getElem?_eq_getElem hi] at this

/-- Every duty is one of some task. -/
theorem exists_task_of_mem {m : Machine} {f : Frame} (hf : f ∈ m.duties) :
    ∃ t, f ∈ (m.task t).duties := by
  have mem_sum {tasks : List Task} (hf : f ∈ (tasks.map fun t => (t.duties : Multiset Frame)).sum) :
      ∃ task ∈ tasks, f ∈ task.duties := by
    induction tasks with
    | nil => exact absurd hf (Multiset.notMem_zero f)
    | cons task tasks ih =>
      rw [List.map_cons, List.sum_cons] at hf
      rcases Multiset.mem_add.1 hf with hf | hf
      · exact ⟨task, List.mem_cons_self, hf⟩
      · obtain ⟨task', hmem, hf⟩ := ih hf
        exact ⟨task', List.mem_cons_of_mem _ hmem, hf⟩
  obtain ⟨task, hmem, hf⟩ := mem_sum hf
  obtain ⟨t, ht, rfl⟩ := List.mem_iff_getElem.1 hmem
  refine ⟨t, ?_⟩
  rwa [task, Table.get, List.getD_eq_getElem?_getD, List.getElem?_eq_getElem ht]

/-- A duty is a frame of some stack, unless it is a lost hop that has still to learn of it. -/
theorem exists_frame_of_mem {m : Machine} {f : Frame} (hf : f ∈ m.duties) :
    ∃ t, f ∈ (m.task t).frames ∨ ∃ h err, f = .lost h err ∧ .routed h ∈ (m.task t).frames := by
  obtain ⟨t, hf⟩ := exists_task_of_mem hf
  refine ⟨t, ?_⟩
  unfold Task.duties at hf
  cases hframes : (m.task t).frames with
  | nil =>
    rw [hframes] at hf
    cases hf
  | cons g rest =>
    rw [hframes] at hf
    rcases List.mem_cons.1 hf with rfl | hf
    · by_cases hg : ∃ h, g = .routed h
      · obtain ⟨h, rfl⟩ := hg
        generalize (m.task t).reply = reply
        cases reply with
        | refused err => exact .inr ⟨h, err, rfl, List.mem_cons_self⟩
        | _ => exact .inl List.mem_cons_self
      · rw [Frame.pending_of_ne fun h he => hg ⟨h, he⟩]
        exact .inl List.mem_cons_self
    · exact .inl (List.mem_cons_of_mem _ hf)

/-- A frame of a stack is a duty, unless it is a hop that has been refused. -/
theorem mem_duties {m : Machine} {t : Nat} {f : Frame} (hf : f ∈ (m.task t).frames)
    (hop : ∀ h, f ≠ .routed h) : f ∈ m.duties := by
  obtain ⟨others, hd, -⟩ := m.exists_duties_setTask t
  rw [hd]
  refine Multiset.mem_add.2 (.inl ?_)
  unfold Task.duties
  cases hframes : (m.task t).frames with
  | nil =>
    rw [hframes] at hf
    cases hf
  | cons g rest =>
    rw [hframes] at hf
    rcases List.mem_cons.1 hf with rfl | hf
    · rw [dutiesOn, Frame.pending_of_ne hop]
      exact List.mem_cons_self
    · exact List.mem_cons_of_mem _ hf

theorem mem_dutiesFor {m : Machine} {t : Nat} {f : Frame} {e : ExchangeId}
    (hf : f ∈ (m.task t).frames) (about : f.isAbout e = true) (hop : ∀ h, f ≠ .routed h) :
    f ∈ m.dutiesFor e :=
  Multiset.mem_filter.2 ⟨mem_duties hf hop, about⟩

@[simp] theorem task_setTask_self (m : Machine) (t : Nat) (task : Task) :
    (m.setTask t task).task t = task :=
  Table.get_set_self ..

theorem task_setTask (m : Machine) (t u : Nat) (task : Task) :
    (m.setTask t task).task u = if t = u then task else m.task u :=
  Table.get_set ..

/-- What holds of the duties of every task, and of sums, holds of the others beside one task. -/
theorem exists_others {Q : Multiset Frame → Prop} {m : Machine} (zero : Q 0)
    (add : ∀ M N, Q M → Q N → Q (M + N)) (task : ∀ t, Q (m.task t).duties) (t : Nat) :
    ∃ others : Multiset Frame, Q others ∧ m.duties = (m.task t).duties + others ∧
      ∀ task, (m.setTask t task).duties = task.duties + others := by
  obtain ⟨others, hm, hset⟩ := m.exists_duties_setTask t
  refine ⟨others, ?_, hm, hset⟩
  have idle := hset default
  rw [show (default : Task).duties = [] from rfl, Multiset.coe_nil, zero_add] at idle
  refine idle ▸ duties_induction zero add fun u => ?_
  rw [task_setTask]
  split
  · exact zero
  · exact task u

end Machine

end Engine

end MessageRouter
