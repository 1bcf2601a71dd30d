import MessageRouter.Proofs.Onlookers

/-!
# What does not depend on listeners

A task that raises an event finds out who is to be told of it, and that is what is due to the
listeners; they have been told of it but for those that are still to be told.  What is due to a
listener depends on its own attendance and on nothing else about listeners: neither on the others
nor on what any of them answers.  What passes between the router and those who are not listeners
does not depend on listeners at all.
-/

namespace MessageRouter.Engine

/-! ## What a listener is told -/

section

variable (l : String)

/-- What is still to be told to a listener on a stack. -/
def pendingOn (frames : List Frame) : List Call :=
  (frames.flatMap Frame.notices).filter (·.listener? == some l)

namespace Machine

/-- What is still to be told to a listener on a task. -/
def pending (m : Machine) (t : Nat) : List (Nat × Call) :=
  (pendingOn l (m.task t).frames).map (t, ·)

/-- What a listener is told in a move, and on which task. -/
def tells (m : Machine) : Move → List (Nat × Call)
  | .advance t =>
    let notice? := (m.task t).frames.head?.bind (·.notices.head?)
    (notice?.toList.filter (·.listener? == some l)).map (t, ·)
  | _ => []

/-- How often a listener hears of an exchange, and how often of an endpoint. -/
def attendance (m : Machine) : Nat × Nat :=
  ((Frame.hearing m.router Listener.hearsExchanges).count l,
    (Frame.hearing m.router Listener.hearsEndpoints).count l)

end Machine

/-- What is due to a listener that hears so often of exchanges and of endpoints. -/
def Frame.dues (n : Nat × Nat) : Frame → List Call
  | .announce event e => List.replicate n.1 (.exchangeEvent l event e)
  | .announceSlot event s => List.replicate n.2 (.slotEvent l event s)
  | _ => []

/-- What becomes due to a listener in a move, and on which task. -/
def Machine.dues (m : Machine) (n : Nat × Nat) : Move → List (Nat × Call)
  | .advance t => ((m.task t).frames.head?.elim [] (·.dues l n)).map (t, ·)
  | _ => []

/-- What a listener has been told, the latest first. -/
def callbacks (h : History) : List (Nat × Call) := h.flatMap fun q => q.1.tells l q.2

/-- What a listener is told on a task, the latest first: what is still to be told to it, and what it
has been told. -/
def tellings (t : Nat) (h : History) (m : Machine) : List (Nat × Call) :=
  (m.pending l t).reverse ++ (callbacks l h).filter (·.1 == t)

/-- What has become due to a listener, the latest first. -/
def dues (h : History) : List (Nat × Call) := h.flatMap fun q => q.1.dues l (q.1.attendance l) q.2

end

variable {l : String} {m m' : Machine} {mv : Move} {t : Nat} {f : Frame} {rest : List Frame}

theorem pendingOn_append (frames rest : List Frame) :
    pendingOn l (frames ++ rest) = pendingOn l frames ++ pendingOn l rest := by
  rw [pendingOn, List.flatMap_append, List.filter_append]
  rfl

theorem pendingOn_cons_of_silent (silent : f.notices = []) :
    pendingOn l (f :: rest) = pendingOn l rest := by
  rw [pendingOn, List.flatMap_cons, silent, List.nil_append]
  rfl

theorem pendingOn_of_isPlain (plain : IsPlain rest) : pendingOn l rest = [] := by
  have silent : rest.flatMap Frame.notices = [] :=
    List.flatMap_eq_nil_iff.2 fun f hf => Frame.notices_of_isPlain (plain f hf)
  rw [pendingOn, silent]
  rfl

/-- Of those that hear of something a listener is told as often as it is one of them. -/
theorem filter_listener (ls : List String) (tell : String → Call)
    (told : ∀ l, (tell l).listener? = some l) :
    (ls.map tell).filter (·.listener? == some l) = List.replicate (ls.count l) (tell l) := by
  have same : ls.filter ((·.listener? == some l) ∘ tell) = ls.filter (· == l) :=
    List.filter_congr fun l' _ => by
      rw [Function.comp, told]
      rfl
  rw [List.filter_map, same, List.filter_beq, List.map_replicate]

/-- What somebody still has to tell, before and after the next listener has been told. -/
theorem pendingOn_told {g : Frame} {call call' : Call} {calls : List Call}
    (before : f.notices = call :: calls) (after : g.notices = calls) :
    (pendingOn l ([.call call', g] ++ rest)).reverse ++ [call].filter (·.listener? == some l) =
      (pendingOn l (f :: rest)).reverse := by
  have left : pendingOn l ([.call call', g] ++ rest) =
      calls.filter (·.listener? == some l) ++ pendingOn l rest := by
    rw [pendingOn_append, pendingOn, pendingOn, List.flatMap_cons, List.flatMap_cons, after]
    simp [Frame.notices]
  have all : pendingOn l (f :: rest) =
      [call].filter (·.listener? == some l) ++
        (calls.filter (·.listener? == some l) ++ pendingOn l rest) := by
    rw [← List.singleton_append, pendingOn_append, pendingOn, List.flatMap_singleton, before,
      ← List.singleton_append, List.filter_append, List.append_assoc]
  have one : ([call].filter (·.listener? == some l)).reverse =
      [call].filter (·.listener? == some l) := by
    rw [List.filter_cons]
    split <;> rfl
  rw [all, List.reverse_append, one, left]

/-- Once it is known who is to be told something, that is what is due. -/
theorem pendingOn_of_news {g : Frame} (ls : List String) (tell : String → Call)
    (plain : IsPlain rest) (silent : f.notices = []) (told : ∀ l, (tell l).listener? = some l)
    (notices : g.notices = ls.map tell) :
    (pendingOn l ([g] ++ rest)).reverse =
      List.replicate (ls.count l) (tell l) ++ (pendingOn l (f :: rest)).reverse := by
  rw [pendingOn_append, pendingOn_cons_of_silent silent, pendingOn_of_isPlain plain, pendingOn,
    List.flatMap_singleton, notices, filter_listener ls tell told, List.append_nil,
    List.reverse_replicate, List.reverse_nil, List.append_nil]

/-- What a step does to what is still to be told. -/
theorem pendingOn_of_step {c : Context} {r : Router} {o : Outcome} (composed : Composed (f :: rest))
    (ho : f.step c r = o) (go : o ≠ .blocked) :
    (pendingOn l (o.above ++ rest)).reverse ++
        f.notices.head?.toList.filter (·.listener? == some l) =
      f.dues l ((Frame.hearing r Listener.hearsExchanges).count l,
        (Frame.hearing r Listener.hearsEndpoints).count l) ++ (pendingOn l (f :: rest)).reverse ∧
    pendingOn l o.apart = [] := by
  have b : Frame.Becomes c r f o := ho ▸ Frame.becomes_step f (ho ▸ go)
  cases composed with
  | telling notice =>
    cases f with
    | notify event e ls | notifySlot event e ls =>
      all_goals
        subst ho
        cases ls with
        | nil => exact ⟨List.append_nil _, rfl⟩
        | cons l' ls => exact ⟨pendingOn_told rfl rfl, rfl⟩
    | _ => cases notice
  | told => cases b
  | plain plain =>
    obtain ⟨top, below⟩ := List.forall_mem_cons.1 plain
    have silent := Frame.notices_of_isPlain top
    obtain ⟨above, apart⟩ := b.plain top
    refine ⟨?_, pendingOn_of_isPlain apart⟩
    rw [silent, List.head?_nil, Option.toList_none, List.filter_nil, List.append_nil]
    cases news : f.isNews with
    | true =>
      cases f with
      | announce event e =>
        subst ho
        exact pendingOn_of_news _ (fun l => .exchangeEvent l event e) below rfl (fun _ => rfl) rfl
      | announceSlot event s =>
        subst ho
        exact pendingOn_of_news _ (fun l => .slotEvent l event s) below rfl (fun _ => rfl) rfl
      | _ => cases news
    | false =>
      have none (n : Nat × Nat) : f.dues l n = [] := by
        cases f <;> first | rfl | cases news
      rcases above with above | ⟨news', -⟩
      · rw [none, pendingOn_append, pendingOn_of_isPlain above, pendingOn_cons_of_silent silent,
          List.nil_append, List.nil_append]
      · exact absurd (news.symm.trans news') Bool.false_ne_true

namespace Machine

theorem pending_of_frames {m m' : Machine} (h : (m'.task t).frames = (m.task t).frames) :
    m'.pending l t = m.pending l t := by
  rw [pending, pending, h]

/-- A new task has nothing to tell. -/
theorem pending_add {task : Task} (silent : pendingOn l task.frames = []) :
    Machine.pending l { m with tasks := (m.tasks.add task).2 } t = m.pending l t := by
  by_cases ht : t = m.tasks.size
  · have none : (m.task t).frames = [] := by
      rw [Machine.task, Table.get, List.getD_eq_getElem?_getD,
        List.getElem?_eq_none (Nat.le_of_eq ht.symm)]
      rfl
    rw [pending, pending, none, Machine.task, Table.get_add, if_pos ht, silent]
    rfl
  · exact pending_of_frames (congrArg Task.frames ((Table.get_add ..).trans (if_neg ht)))

theorem pending_setTask {u : Nat} {task : Task}
    (same : pendingOn l task.frames = pendingOn l (m.task u).frames) :
    (m.setTask u task).pending l t = m.pending l t := by
  rw [pending, pending, task_setTask]
  split
  · rename_i hu
    rw [← hu, same]
  · rfl

/-- What is still to be told on another task than the one at work. -/
theorem pending_settle_of_ne {u : Nat} {o : Outcome} (hu : t ≠ u)
    (apart : pendingOn l o.apart = []) : (m.settle u rest o).pending l t = m.pending l t := by
  have set (r : Router) (task : Task) :
      Machine.pending l ({ m with router := r }.setTask u task) t = m.pending l t :=
    pending_of_frames (congrArg Task.frames ((task_setTask ..).trans (if_neg hu.symm)))
  cases o with
  | blocked => rfl
  | next fs r => exact set r _
  | through reply r => exact set r _
  | spawn lane fs r => exact (pending_add apart).trans (set r _)

/-- What is still to be told to a listener on a task after a move, and what it is told in it. -/
theorem pending_of_move (composed : m.Composed) (hm : m.move? mv = some m') (t : Nat) :
    (m'.pending l t).reverse ++ (m.tells l mv).filter (·.1 == t) =
      (m.dues l (m.attendance l) mv).filter (·.1 == t) ++ (m.pending l t).reverse := by
  have same (h : m'.pending l t = m.pending l t) :
      (m'.pending l t).reverse ++ [] = [] ++ (m.pending l t).reverse := by
    rw [h, List.append_nil, List.nil_append]
  cases mv with
  | advance u =>
    obtain ⟨f, rest, hf, go, rfl⟩ := exists_step hm
    have stack := composed u
    rw [hf] at stack
    obtain ⟨told, apart⟩ := pendingOn_of_step (l := l) stack rfl go
    have on (calls : List Call) :
        (calls.map (u, ·)).filter (·.1 == t) = if u = t then calls.map (t, ·) else [] := by
      split
      · rename_i hu
        subst hu
        exact List.filter_eq_self.2 fun p hp => by
          obtain ⟨call, -, rfl⟩ := List.mem_map.1 hp
          exact beq_self_eq_true u
      · rename_i hu
        exact List.filter_eq_nil_iff.2 fun p hp => by
          obtain ⟨call, -, rfl⟩ := List.mem_map.1 hp
          simpa using hu
    rw [tells, Machine.dues, hf, on, on]
    by_cases hu : u = t
    · subst hu
      rw [if_pos rfl, if_pos rfl, pending, pending, hf,
        frames_settle (Frame.becomes_step f go), ← List.map_reverse, ← List.map_reverse,
        ← List.map_append]
      exact (congrArg (List.map (u, ·)) told).trans List.map_append
    · rw [if_neg hu, if_neg hu]
      exact same (pending_settle_of_ne (Ne.symm hu) apart)
  | request u f =>
    obtain ⟨⟨call, request⟩, rfl⟩ := request_of_move hm
    obtain ⟨c, rest, hf⟩ := exists_call call
    obtain ⟨c', noted⟩ := f.exists_note c
    have silent := Frame.notices_of_isPlain (Frame.isPlain_of_isRequest request)
    refine same (pending_setTask ?_)
    rw [hf, List.modifyHead_cons, noted, pendingOn_cons_of_silent silent,
      pendingOn_cons_of_silent rfl, pendingOn_cons_of_silent rfl]
  | answer u reply =>
    obtain ⟨call, rfl⟩ := finish_of_move hm
    obtain ⟨c, rest, hf⟩ := exists_call call
    refine same (pending_setTask ?_)
    rw [hf, List.tail_cons, pendingOn_cons_of_silent rfl]
  | operate | elapse => all_goals exact same (Option.some.inj hm ▸ rfl)
  | fork => exact same (Option.some.inj hm ▸ pending_add rfl)

end Machine

/-- A listener is told what is due to it. -/
theorem Run.tellings_eq {config : Config} {h : History} (run : Run config h m)
    (observed : Observed h) (l : String) (t : Nat) :
    tellings l t h m = (dues l h).filter (·.1 == t) := by
  obtain ⟨r, hr, p⟩ := run
  induction p with
  | nil => cases t <;> rfl
  | @cons h m m' mv p hm ih =>
    have told := Machine.pending_of_move (l := l)
      (p.composed (Machine.composed_ofRouter r) observed.tail) hm t
    rw [tellings, callbacks, dues, List.flatMap_cons, List.flatMap_cons, List.filter_append,
      List.filter_append, ← List.append_assoc, told, List.append_assoc]
    exact congrArg (_ ++ ·) (ih observed.tail)

/-! ## What does not depend on listeners -/

section

variable {h h' : History}

/-- How a listener attends whenever a move is made that is not about listeners. -/
def attendances (l : String) (h : History) : List (Nat × Nat) :=
  (own h).map fun q => q.1.attendance l

theorem Machine.exists_loud (loud : m.isQuietOn t = false) :
    ∃ f rest, (m.task t).frames = f :: rest ∧ (f.isListening = true ∨ f.notices ≠ []) := by
  rw [isQuietOn] at loud
  cases hf : (m.task t).frames with
  | nil =>
    rw [hf] at loud
    cases loud
  | cons f rest =>
    rw [hf, List.head?_cons, Option.all_some, Bool.and_eq_false_iff] at loud
    refine ⟨f, rest, rfl, loud.imp (fun heard => by simpa using heard) fun some none => ?_⟩
    rw [none] at some
    cases some

/-- Nothing becomes due in a move that is about listeners. -/
theorem Machine.dues_of_not_own {n : Nat × Nat} (other : m.isOwn mv = false) :
    m.dues l n mv = [] := by
  cases mv with
  | advance t =>
    obtain ⟨f, rest, hf, loud⟩ := exists_loud other
    rw [dues, hf]
    cases f with
    | announce | announceSlot =>
      all_goals
        rcases loud with listening | notices
        · cases listening
        · exact absurd rfl notices
    | _ => rfl
  | _ => rfl

theorem Machine.dues_unheard {n : Nat × Nat} (composed : m.Composed) (own : m.isOwn mv = true) :
    m.unheard.dues l n mv = m.dues l n mv := by
  cases mv with
  | advance t => rw [dues, dues, frames_unheard composed own]
  | _ => rfl

/-- What is due to a listener can be told from the history without listeners and from how that one
attends. -/
theorem dues_eq_zip (composed : ∀ q ∈ h, q.1.Composed) :
    dues l h = ((unheard h).zip (attendances l h)).flatMap fun p => p.1.1.dues l p.2 p.1.2 := by
  induction h with
  | nil => rfl
  | cons q h ih =>
    have ih := ih fun q' hq => composed q' (List.mem_cons_of_mem _ hq)
    rw [dues, List.flatMap_cons, unheard, attendances, own_cons]
    cases own : q.1.isOwn q.2 with
    | true =>
      rw [if_pos rfl, List.map_cons, List.map_cons, List.zip_cons_cons, List.flatMap_cons,
        Machine.dues_unheard (composed q List.mem_cons_self) own]
      exact congrArg (_ ++ ·) ih
    | false =>
      rw [if_neg Bool.false_ne_true, Machine.dues_of_not_own own, List.nil_append]
      exact ih

/-- What passes between the router and those who are not listeners. -/
inductive Dealing where
  /-- Somebody is asked for something on a task. -/
  | asks (t : Nat) (c : Call)
  /-- Somebody who has asked for something on a task gets an answer. -/
  | answers (t : Nat) (reply : Reply)
  /-- Somebody makes an exchange. -/
  | makes (e : ExchangeId)
  /-- Somebody changes an exchange, if it can be changed. -/
  | changes (result : Except RouterError Unit)
  /-- Somebody opens a channel. -/
  | opens (s : SlotId)
  /-- Somebody looks into a mailbox. -/
  | takes (e : Option ExchangeId)

/-- What somebody gets who does something to the router at once. -/
def Operation.dealing? (r : Router) : Operation → Option Dealing
  | .create p => some (.makes (r.addExchange p).1)
  | .change e c => some (.changes (r.change e c).1)
  | .openChannel => some (.opens r.openChannel.1)
  | .take s => some (.takes ((r.slot s).take?.map (·.1)))
  | _ => none

def Outcome.dealing? (t : Nat) (below : Option Frame) : Outcome → Option Dealing
  | .next (.call c :: _) _ => if c.listener?.isSome then none else some (.asks t c)
  | .through reply _ =>
    match below with
    | some (.call _) => some (.answers t reply)
    | _ => none
  | _ => none

/-- What passes in a move between the router and somebody who is not a listener. -/
def Machine.dealing? (m : Machine) : Move → Option Dealing
  | .advance t =>
    match (m.task t).frames with
    | f :: rest =>
      (f.step ⟨m.routerAlive, m.now, (m.task t).reply⟩ m.router).dealing? t rest.head?
    | [] => none
  | .operate o => o.dealing? m.router
  | _ => none

/-- All that has passed between the router and those who are not listeners, the latest first. -/
def dealings (h : History) : List Dealing := h.filterMap fun q => q.1.dealing? q.2

theorem Outcome.dealing?_unheard (o : Outcome) (t : Nat) (below : Option Frame) :
    o.unheard.dealing? t below = o.dealing? t below := by
  cases o with
  | next fs r =>
    cases fs with
    | nil => rfl
    | cons f fs => cases f <;> rfl
  | _ => rfl

theorem Operation.dealing?_unheard (o : Operation) (r : Router) :
    o.dealing? r.unheard = o.dealing? r := by
  cases o with
  | change e c =>
    simp only [dealing?, Router.change, Router.exchange_unheard]
    split <;> rfl
  | _ => rfl

theorem Machine.dealing?_unheard (composed : m.Composed) (own : m.isOwn mv = true) :
    m.unheard.dealing? mv = m.dealing? mv := by
  cases mv with
  | advance t =>
    have same := frames_unheard composed own
    cases hf : (m.task t).frames with
    | nil =>
      rw [hf] at same
      simp only [dealing?, hf, same]
    | cons f rest =>
      rw [hf] at same
      simp only [dealing?, hf, same]
      rw [step_unheard composed own hf, Outcome.dealing?_unheard]
  | operate o => exact o.dealing?_unheard m.router
  | _ => rfl

theorem Machine.dealing?_of_not_own (other : m.isOwn mv = false) : m.dealing? mv = none := by
  cases mv with
  | advance t =>
    obtain ⟨f, rest, hf, loud⟩ := exists_loud other
    rw [dealing?, hf]
    cases f with
    | call => rfl
    | notify event e ls | notifySlot event s ls =>
      all_goals
        cases ls with
        | nil =>
          rcases loud with listening | notices
          · cases listening
          · exact absurd rfl notices
        | cons => rfl
    | _ =>
      rcases loud with listening | notices
      · cases listening
      · exact absurd rfl notices
  | operate o =>
    cases o with
    | setListeners => rfl
    | _ => cases other
  | _ => rfl

theorem dealings_unheard (composed : ∀ q ∈ h, q.1.Composed) :
    dealings (unheard h) = dealings h := by
  induction h with
  | nil => rfl
  | cons q h ih =>
    have ih := ih fun q' hq => composed q' (List.mem_cons_of_mem _ hq)
    rw [unheard, own_cons]
    cases own : q.1.isOwn q.2 with
    | true =>
      rw [if_pos rfl, List.map_cons, dealings, dealings, List.filterMap_cons, List.filterMap_cons,
        Machine.dealing?_unheard (composed q List.mem_cons_self) own]
      cases q.1.dealing? q.2 with
      | none => exact ih
      | some d => exact congrArg (d :: ·) ih
    | false =>
      rw [if_neg Bool.false_ne_true, dealings, dealings, List.filterMap_cons,
        Machine.dealing?_of_not_own own]
      exact ih

end

end MessageRouter.Engine
