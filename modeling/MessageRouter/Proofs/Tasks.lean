import MessageRouter.Proofs.Stacks

/-!
# One stack at a time

What a move does to one stack.  Only the top of a stack ever changes, so what a frame finds below
it when it comes to a stack is what it leaves there when it is through.
-/

namespace MessageRouter.Engine

namespace Outcome

/-- The frames that a step puts in the place of its own. -/
def above : Outcome → List Frame
  | .next fs _ => fs
  | .blocked | .through .. | .spawn .. => []

/-- What a step hands down. -/
def reply : Outcome → Reply
  | .through reply _ => reply
  | .next .. | .spawn .. | .blocked => .done

/-- The frames of the task that a step leaves beside its own. -/
def apart : Outcome → List Frame
  | .spawn _ fs _ => fs
  | .blocked | .next .. | .through .. => []

variable {g : Frame}

theorem mem_frames_of_above (o : Outcome) (hg : g ∈ o.above) : g ∈ o.frames := by
  cases o <;> first | exact hg | cases hg

theorem mem_frames_of_apart (o : Outcome) (hg : g ∈ o.apart) : g ∈ o.frames := by
  cases o <;> first | exact hg | cases hg

end Outcome

namespace Machine

variable {m m' : Machine} {t : Nat}

/-- What a move does to the stack of a task, if it is a move of this task. -/
inductive Touches (m : Machine) (t : Nat) : Move → Machine → Prop
  | advance {f : Frame} {rest : List Frame} {o : Outcome} (frames : (m.task t).frames = f :: rest)
    (step : Frame.Becomes ⟨m.routerAlive, m.now, (m.task t).reply⟩ m.router f o) :
    Touches m t (.advance t) (m.settle t rest o)
  | request {f : Frame} {c : Call} {rest : List Frame}
    (frames : (m.task t).frames = .call c :: rest) (request : f.isRequest = true) :
    Touches m t (.request t f) (m.request t f)
  | answer {c : Call} {rest : List Frame} (reply : Reply)
    (frames : (m.task t).frames = .call c :: rest) :
    Touches m t (.answer t reply) (m.finish t reply)

theorem lt_size_of_frames (h : (m.task t).frames ≠ []) : t < m.tasks.size := by
  by_contra ht
  refine h ?_
  rw [task, Table.get, List.getD_eq_getElem?_getD, List.getElem?_eq_none (by
    unfold Table.size at ht
    omega)]
  rfl

/-- A new task takes no place of another. -/
theorem task_add (h : t < m.tasks.size) (task : Task) :
    Machine.task { m with tasks := (m.tasks.add task).2 } t = m.task t :=
  (Table.get_add ..).trans (if_neg (by omega))

theorem size_setTask (m : Machine) (u : Nat) (task : Task) :
    (m.setTask u task).tasks.size = max m.tasks.size (u + 1) :=
  Table.size_set ..

theorem lt_size_setTask (task : Task) : t < (m.setTask t task).tasks.size := by
  rw [size_setTask]
  omega

theorem size_le_setTask (m : Machine) (u : Nat) (task : Task) :
    m.tasks.size ≤ (m.setTask u task).tasks.size := by
  rw [size_setTask]
  exact Nat.le_max_left ..

theorem task_settle_of_ne {u : Nat} {rest : List Frame} {o : Outcome} (hu : u ≠ t)
    (h : t < m.tasks.size) : (m.settle u rest o).task t = m.task t := by
  have set (r : Router) (task : Task) :
      ({ m with router := r }.setTask u task).task t = m.task t :=
    (task_setTask ..).trans (if_neg hu)
  cases o with
  | blocked => rfl
  | next fs r => exact set r _
  | through reply r => exact set r _
  | spawn lane fs r =>
    refine (task_add ?_ _).trans (set r _)
    exact Nat.lt_of_lt_of_le h (size_le_setTask { m with router := r } u _)

theorem frames_settle {f : Frame} {rest : List Frame} {o : Outcome} {c : Context} {r : Router}
    (b : Frame.Becomes c r f o) : ((m.settle t rest o).task t).frames = o.above ++ rest := by
  cases o with
  | blocked => cases b
  | next fs r => rw [settle, task_setTask_self, Outcome.above]
  | through reply r => rw [settle, task_setTask_self, Outcome.above, List.nil_append]
  | spawn lane fs r =>
    rw [settle, task_add (lt_size_setTask _), task_setTask_self, Outcome.above, List.nil_append]

theorem reply_settle {f : Frame} {rest : List Frame} {o : Outcome} {c : Context} {r : Router}
    (b : Frame.Becomes c r f o) : ((m.settle t rest o).task t).reply = o.reply := by
  cases o with
  | blocked => cases b
  | next fs r => rw [settle, task_setTask_self, Outcome.reply]
  | through reply r => rw [settle, task_setTask_self, Outcome.reply]
  | spawn lane fs r => rw [settle, task_add (lt_size_setTask _), task_setTask_self, Outcome.reply]

theorem router_settle {rest : List Frame} {f : Frame} {o : Outcome} {c : Context}
    (b : Frame.Becomes c m.router f o) : (m.settle t rest o).router = o.router m.router := by
  cases o with
  | blocked => cases b
  | _ => rfl

/-- A frame that does not have to wait can be worked on. -/
theorem advance_of_step {f : Frame} {rest : List Frame} {o : Outcome}
    (hf : (m.task t).frames = f :: rest)
    (hs : f.step ⟨m.routerAlive, m.now, (m.task t).reply⟩ m.router = o) (go : o ≠ .blocked) :
    m.move? (.advance t) = some (m.settle t rest o) := by
  simp only [move?, advance?, hf, hs]
  cases o with
  | blocked => exact absurd rfl go
  | _ => rfl

theorem advance_of_blocked {f : Frame} {rest : List Frame} (hf : (m.task t).frames = f :: rest)
    (hs : f.step ⟨m.routerAlive, m.now, (m.task t).reply⟩ m.router = .blocked) :
    m.move? (.advance t) = none := by
  simp only [move?, advance?, hf, hs]

theorem frames_settle_next {rest fs : List Frame} {r : Router} :
    ((m.settle t rest (.next fs r)).task t).frames = fs ++ rest := by
  rw [settle, task_setTask_self]

theorem exists_call {t : Nat} (hc : (m.task t).call?.isSome) :
    ∃ c rest, (m.task t).frames = .call c :: rest := by
  unfold Task.call? at hc
  split at hc
  · exact ⟨_, _, by assumption⟩
  · cases hc

/-- A move that is not one of a task leaves it alone. -/
theorem touches_of_move {mv : Move} (hm : m.move? mv = some m') (ht : t < m.tasks.size) :
    m'.task t = m.task t ∧ mv ≠ .advance t ∨ Touches m t mv m' := by
  cases mv with
  | advance u =>
    obtain ⟨f, rest, o, hf, b, rfl⟩ := exists_becomes hm
    by_cases hu : u = t
    · subst hu
      exact .inr (.advance hf b)
    · exact .inl ⟨task_settle_of_ne hu ht, fun h => hu (Move.advance.inj h)⟩
  | request u f =>
    obtain ⟨⟨hc, hf⟩, rfl⟩ := request_of_move hm
    by_cases hu : u = t
    · subst hu
      obtain ⟨c, rest, hframes⟩ := exists_call hc
      exact .inr (.request hframes hf)
    · exact .inl ⟨(task_setTask ..).trans (if_neg hu), fun h => by cases h⟩
  | answer u reply =>
    obtain ⟨hc, rfl⟩ := finish_of_move hm
    by_cases hu : u = t
    · subst hu
      obtain ⟨c, rest, hframes⟩ := exists_call hc
      exact .inr (.answer reply hframes)
    · exact .inl ⟨(task_setTask ..).trans (if_neg hu), fun h => by cases h⟩
  | operate o => exact .inl ⟨Option.some.inj hm ▸ rfl, fun h => by cases h⟩
  | fork => exact .inl ⟨Option.some.inj hm ▸ task_add ht _, fun h => by cases h⟩
  | elapse duration => exact .inl ⟨Option.some.inj hm ▸ rfl, fun h => by cases h⟩

/-- What holds of every stack and the reply for its top still does after a move, if it holds of
what the move makes of a stack and of the stacks that are new. -/
theorem stacks_of_step {P : List Frame → Reply → Prop} {mv : Move} (hm : m.move? mv = some m')
    (all : ∀ t, P (m.task t).frames (m.task t).reply)
    (fork : P [.call .application] .done)
    (advance : ∀ t f rest o, mv = .advance t → (m.task t).frames = f :: rest →
      f.step ⟨m.routerAlive, m.now, (m.task t).reply⟩ m.router = o → o ≠ .blocked →
        P (o.above ++ rest) o.reply ∧ P o.apart .done)
    (request : ∀ t f c rest, mv = .request t f → f.isRequest = true →
      (m.task t).frames = .call c :: rest → P (f :: f.note (.call c) :: rest) .done)
    (answer : ∀ t reply c rest, (m.task t).frames = .call c :: rest → P rest reply) :
    ∀ t, P (m'.task t).frames (m'.task t).reply := by
  have set (m : Machine) (all : ∀ t, P (m.task t).frames (m.task t).reply) (u : Nat) (task : Task)
      (ht : P task.frames task.reply) (t : Nat) :
      P ((m.setTask u task).task t).frames ((m.setTask u task).task t).reply := by
    rw [task_setTask]
    split
    · exact ht
    · exact all t
  have add (m : Machine) (all : ∀ t, P (m.task t).frames (m.task t).reply) (task : Task)
      (ht : P task.frames task.reply) (t : Nat) :
      P (Machine.task { m with tasks := (m.tasks.add task).2 } t).frames
        (Machine.task { m with tasks := (m.tasks.add task).2 } t).reply := by
    rw [Machine.task, Table.get_add]
    split
    · exact ht
    · exact all t
  cases mv with
  | advance u =>
    obtain ⟨f, rest, hf, go, rfl⟩ := exists_step hm
    obtain ⟨top, apart⟩ := advance u f rest _ rfl hf rfl go
    generalize f.step ⟨m.routerAlive, m.now, (m.task u).reply⟩ m.router = o at go top apart ⊢
    cases o with
    | blocked => exact absurd rfl go
    | next fs r => exact set { m with router := r } all u _ top
    | through reply r => exact set { m with router := r } all u _ top
    | spawn lane fs r => exact add _ (set { m with router := r } all u _ top) _ apart
  | request u f =>
    obtain ⟨⟨hc, hf⟩, rfl⟩ := request_of_move hm
    obtain ⟨c, rest, hframes⟩ := exists_call hc
    refine set m all u _ ?_
    rw [hframes]
    exact request u f c rest rfl hf hframes
  | answer u reply =>
    obtain ⟨hc, rfl⟩ := finish_of_move hm
    obtain ⟨c, rest, hframes⟩ := exists_call hc
    refine set m all u _ ?_
    rw [hframes]
    exact answer u reply c rest hframes
  | operate o => exact Option.some.inj hm ▸ all
  | fork => exact Option.some.inj hm ▸ add m all _ fork
  | elapse duration => exact Option.some.inj hm ▸ all

/-- The same, with what becomes of a frame in place of its step. -/
theorem stacks_of_move {P : List Frame → Reply → Prop} {mv : Move} (hm : m.move? mv = some m')
    (all : ∀ t, P (m.task t).frames (m.task t).reply)
    (fork : P [.call .application] .done)
    (advance : ∀ t f rest o, (m.task t).frames = f :: rest →
      Frame.Becomes ⟨m.routerAlive, m.now, (m.task t).reply⟩ m.router f o →
        P (o.above ++ rest) o.reply ∧ P o.apart .done)
    (request : ∀ t f c rest, mv = .request t f → f.isRequest = true →
      (m.task t).frames = .call c :: rest → P (f :: f.note (.call c) :: rest) .done)
    (answer : ∀ t reply c rest, (m.task t).frames = .call c :: rest → P rest reply) :
    ∀ t, P (m'.task t).frames (m'.task t).reply :=
  stacks_of_step hm all fork (fun t f rest _ _ hf ho go => ho ▸ advance t f rest _ hf
    (Frame.becomes_step f (ho ▸ go))) request answer

/-- What holds of every frame still does after a move, if it holds of calls, of what comes of a
step and of what is requested. -/
theorem each_of_step {P : Frame → Prop} {mv : Move} (hm : m.move? mv = some m')
    (all : ∀ t, ∀ f ∈ (m.task t).frames, P f) (call : ∀ c, P (.call c))
    (advance : ∀ t f rest o, mv = .advance t → (m.task t).frames = f :: rest →
      f.step ⟨m.routerAlive, m.now, (m.task t).reply⟩ m.router = o → o ≠ .blocked →
        ∀ g ∈ o.frames, P g)
    (request : ∀ t f, mv = .request t f → f.isRequest = true → P f) :
    ∀ t, ∀ f ∈ (m'.task t).frames, P f := by
  have below {t : Nat} {f : Frame} {rest : List Frame} (hf : (m.task t).frames = f :: rest) :
      ∀ g ∈ rest, P g := fun g hg => all t g (hf ▸ List.mem_cons_of_mem _ hg)
  refine stacks_of_step (P := fun frames _ => ∀ f ∈ frames, P f) hm all
    (List.forall_mem_singleton.2 (call _)) ?_ ?_ fun t reply c rest hf => below hf
  · intro t f rest o hmv hf ho go
    have left := advance t f rest o hmv hf ho go
    exact ⟨List.forall_mem_append.2 ⟨fun g hg => left g (o.mem_frames_of_above hg), below hf⟩,
      fun g hg => left g (o.mem_frames_of_apart hg)⟩
  · intro t f c rest hmv hr hf
    obtain ⟨c', noted⟩ := f.exists_note c
    rw [noted]
    exact List.forall_mem_cons.2 ⟨request t f hmv hr, List.forall_mem_cons.2 ⟨call c', below hf⟩⟩

/-- The same, with what becomes of a frame in place of its step. -/
theorem each_of_move {P : Frame → Prop} {mv : Move} (hm : m.move? mv = some m')
    (all : ∀ t, ∀ f ∈ (m.task t).frames, P f) (call : ∀ c, P (.call c))
    (advance : ∀ t f rest o, (m.task t).frames = f :: rest →
      Frame.Becomes ⟨m.routerAlive, m.now, (m.task t).reply⟩ m.router f o → ∀ g ∈ o.frames, P g)
    (request : ∀ t f, mv = .request t f → f.isRequest = true → P f) :
    ∀ t, ∀ f ∈ (m'.task t).frames, P f :=
  each_of_step hm all call (fun t f rest _ _ hf ho go => ho ▸ advance t f rest _ hf
    (Frame.becomes_step f (ho ▸ go))) request

/-- A task has a frame of some kind on top of `n` others. -/
def stands (m : Machine) (t n : Nat) (p : Frame → Bool) : Bool :=
  match (m.task t).frames with
  | f :: below => p f && below.length == n
  | [] => false

theorem frames_of_stands {m : Machine} {t n : Nat} {p : Frame → Bool}
    (h : m.stands t n p = true) :
    ∃ f below, (m.task t).frames = f :: below ∧ below.length = n ∧ p f = true := by
  unfold stands at h
  split at h
  · rename_i f below frames
    obtain ⟨hf, hn⟩ := Bool.and_eq_true_iff.1 h
    exact ⟨f, below, frames, beq_iff_eq.1 hn, hf⟩
  · cases h

/-- What stands below the top of a stack is left there by a move. -/
theorem frames_of_move {mv : Move} {f : Frame} {below : List Frame} (hm : m.move? mv = some m')
    (hf : (m.task t).frames = f :: below) : ∃ above, (m'.task t).frames = above ++ below := by
  have hlt : t < m.tasks.size := lt_size_of_frames (by rw [hf]; exact List.cons_ne_nil f below)
  rcases touches_of_move hm hlt with ⟨hsame, -⟩ | touches
  · exact ⟨[f], hsame ▸ hf⟩
  · cases touches with
    | advance hframes b =>
      obtain ⟨rfl, rfl⟩ := List.cons.inj (hf.symm.trans hframes)
      exact ⟨_, frames_settle b⟩
    | @request g c rest hframes request =>
      refine ⟨[g, g.note f], ?_⟩
      rw [Machine.request, task_setTask_self, hf]
      rfl
    | answer reply hframes =>
      refine ⟨[], ?_⟩
      rw [finish, task_setTask_self, hf]
      rfl

/-- A frame on top that is not a call is worked on by its task, or left alone. -/
theorem work_of_move {mv : Move} {f : Frame} {below : List Frame} (hm : m.move? mv = some m')
    (hf : (m.task t).frames = f :: below) (call : ∀ c, f ≠ .call c) :
    m'.task t = m.task t ∧ mv ≠ .advance t ∨ mv = .advance t ∧
      ∃ o, Frame.Becomes ⟨m.routerAlive, m.now, (m.task t).reply⟩ m.router f o ∧
        (m'.task t).frames = o.above ++ below ∧ (m'.task t).reply = o.reply ∧
          m'.router = o.router m.router := by
  have hlt : t < m.tasks.size := lt_size_of_frames (by rw [hf]; exact List.cons_ne_nil f below)
  refine (touches_of_move hm hlt).imp_right fun touches => ?_
  cases touches with
  | advance hframes b =>
    obtain ⟨rfl, rfl⟩ := List.cons.inj (hf.symm.trans hframes)
    exact ⟨rfl, _, b, frames_settle b, reply_settle b, router_settle b⟩
  | request hframes | answer reply hframes =>
    all_goals exact absurd (List.cons.inj (hf.symm.trans hframes)).1 (call _)

end Machine

/-! ## Who has to wait -/

namespace Frame

variable {c : Context} {r : Router} {f : Frame} {o : Outcome} {rest : List Frame}

/-- The frame may have to wait, now or later, for something that others do to the router. -/
def isPatient : Frame → Bool
  | .sendSync .. | .mark .. | .marked .. | .waiting .. | .receive .. => true
  | _ => false

theorem isPatient_carryFrame (fl : Flow) (h : Hop) (s : SlotId) :
    (carryFrame fl h s).isPatient = false := by
  unfold carryFrame
  split <;> rfl

theorem step_ne_blocked (patient : f.isPatient = false) (call : ∀ c, f ≠ .call c) :
    f.step c r ≠ .blocked := by
  intro blocked
  cases f with
  | call c => exact call c rfl
  | sendSync | mark | marked | waiting | receive => cases patient
  | notify _ _ l | notifySlot _ _ l | choose _ _ l | offer _ _ l =>
    all_goals
      cases l
      all_goals
        simp only [step, stepChoose, stepOffer] at blocked
        repeat' split at blocked
        all_goals cases blocked
  | _ =>
    all_goals
      simp only [step, stepAccept, stepLost, returnFailure, strand, stepRouted, stepRoute,
        stepOffered, stepReaching, stepAsking, stepHand, stepProcess, stepEnter, stepHandle,
        stepRegister, stepBound, stepUnregister] at blocked
      repeat' split at blocked
      all_goals cases blocked

end Frame

/-- Every frame that may have to wait stands on the call that has asked for it. -/
def Grounded : List Frame → Prop
  | [] => True
  | f :: rest => (f.isPatient = true → ∃ c, rest.head? = some (.call c)) ∧ Grounded rest

theorem Grounded.cons {f : Frame} {rest : List Frame} (h : Grounded rest)
    (hf : f.isPatient = false) : Grounded (f :: rest) :=
  ⟨fun patient => absurd (hf.symm.trans patient) Bool.false_ne_true, h⟩

theorem Frame.Becomes.grounded {c : Context} {r : Router} {f : Frame} {o : Outcome}
    {rest : List Frame} (b : Becomes c r f o) (h : Grounded (f :: rest)) :
    Grounded (o.above ++ rest) ∧ Grounded o.apart := by
  obtain ⟨asked, grounded⟩ := h
  cases b with
  | sendSync | wait | waitOn => exact ⟨⟨fun _ => asked rfl, grounded⟩, trivial⟩
  | mark => exact ⟨.cons ⟨fun _ => asked rfl, grounded⟩ rfl, trivial⟩
  | pins fl | reaches fl =>
    all_goals exact ⟨(grounded.cons rfl).cons (isPatient_carryFrame fl _ _), trivial⟩
  | _ => simp [Outcome.above, Outcome.apart, Grounded, isPatient, grounded]

/-- In every run, whatever may have to wait stands on a call. -/
theorem Run.grounded {config : Config} {h : History} {m : Machine} (run : Run config h m)
    (t : Nat) : Grounded (m.task t).frames := by
  have nothing : Grounded [] := trivial
  have application : Grounded [.call .application] := nothing.cons rfl
  obtain ⟨r, -, p⟩ := run
  refine p.induct (I := fun m => ∀ t, Grounded (m.task t).frames) ?_ ?_ t
  · rintro (_ | t)
    · exact application
    · exact nothing
  · intro m mv m' grounded hm
    refine Machine.stacks_of_move (P := fun frames _ => Grounded frames) hm grounded application
      (fun t f rest o hf b => b.grounded (hf ▸ grounded t)) ?_ ?_
    · rintro t f c rest - - hf
      obtain ⟨c', noted⟩ := f.exists_note c
      have below : Grounded (.call c :: rest) := hf ▸ grounded t
      have call : Grounded (.call c' :: rest) := .cons below.2 rfl
      rw [noted]
      exact ⟨fun _ => ⟨c', rfl⟩, call⟩
    · intro t reply c rest hf
      have below : Grounded (.call c :: rest) := hf ▸ grounded t
      exact below.2

end MessageRouter.Engine
