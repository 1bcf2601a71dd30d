import MessageRouter.Proofs.Audiences
import MessageRouter.Proofs.Commands
import MessageRouter.Proofs.Journeys

/-!
# Listeners do not disturb

Two runs in which the same moves are made, but for those that are about listeners, come to the
same, whoever listens in either of them and whatever they answer: `Run.undisturbed`.  And listeners
cannot keep such a move from being made: whoever listens, a task is through with telling them after
finitely many moves.
-/

namespace MessageRouter.Engine

/-- What is done by those who are not listeners, the latest first. -/
def ownMoves (h : History) : List Move := (own h).map (·.2)

/-! ## Other listeners -/

/-- A listener that answers in a move answers in this way. -/
def Machine.answersAs (m : Machine) (replies : Call → Reply) : Move → Prop
  | .answer t reply =>
    ∀ c, (m.task t).call? = some c → c.listener?.isSome = true → reply = replies c
  | _ => True

/-- Before the move with the number `n` that is not about listeners, `plan n` are the listeners, and
until then they answer as `replies n` says. -/
def Follows (plan : Nat → List Listener) (replies : Nat → Call → Reply) : History → Prop
  | [] => True
  | q :: h => (q.1.isOwn q.2 = true → q.1.router.listeners = plan (own h).length) ∧
    q.1.answersAs (replies (own h).length) q.2 ∧ Follows plan replies h

namespace Machine

variable {m m₁ m' : Machine} {mv : Move} {t : Nat} {f : Frame} {rest : List Frame} {h h' : History}
  {replies : Call → Reply}

theorem isQuietOn_called {c : Call} (hf : (m.task t).frames = .call c :: rest) :
    m.isQuietOn t = !c.listener?.isSome := by
  rw [isQuietOn, hf]
  exact Bool.and_true _

/-- In a move that is not about listeners none of them makes a request, or answers. -/
theorem observes_of_isOwn (replies : Call → Reply) (own : m.isOwn mv = true)
    (hm : m.move? mv = some m') : m.observes mv = true ∧ m.answersAs replies mv := by
  cases mv with
  | request t f =>
    obtain ⟨⟨call, -⟩, -⟩ := request_of_move hm
    obtain ⟨c, rest, hf⟩ := exists_call call
    exact ⟨(observes_request hf).trans ((isQuietOn_called hf).symm.trans own), trivial⟩
  | answer t reply =>
    refine ⟨rfl, fun c call listening => ?_⟩
    obtain ⟨rest, hf⟩ := frames_of_call? call
    have quiet : (!c.listener?.isSome) = true := (isQuietOn_called hf).symm.trans own
    rw [listening] at quiet
    cases quiet
  | _ => exact ⟨rfl, trivial⟩

/-- Moves in which listeners are told something, and answer in a given way. -/
structure Hushes (replies : Call → Reply) (m : Machine) (h : History) (m' : Machine) : Prop where
  path : Path m h m'
  others : ∀ q ∈ h, q.1.isOwn q.2 = false
  observed : Observed h
  answers : ∀ q ∈ h, q.1.answersAs replies q.2

theorem Hushes.nil : Hushes replies m [] m :=
  ⟨.nil, List.forall_mem_nil _, List.forall_mem_nil _, List.forall_mem_nil _⟩

theorem Hushes.append (first : Hushes replies m h m₁) (second : Hushes replies m₁ h' m') :
    Hushes replies m (h' ++ h) m' :=
  ⟨first.path.append second.path, List.forall_mem_append.2 ⟨second.others, first.others⟩,
    List.forall_mem_append.2 ⟨second.observed, first.observed⟩,
    List.forall_mem_append.2 ⟨second.answers, first.answers⟩⟩

theorem Hushes.one (hm : m.move? mv = some m') (other : m.isOwn mv = false)
    (observes : m.observes mv = true) (answers : m.answersAs replies mv) :
    Hushes replies m [(m, mv)] m' :=
  ⟨.cons .nil hm, List.forall_mem_singleton.2 other, List.forall_mem_singleton.2 observes,
    List.forall_mem_singleton.2 answers⟩

/-- A listener that has been told something answers. -/
theorem exists_answer (replies : Call → Reply) {c : Call} (hf : (m.task t).frames = .call c :: rest)
    (listening : c.listener?.isSome = true) :
    ∃ h m', Hushes replies m h m' ∧ (m'.task t).frames = rest := by
  have call : (m.task t).call? = some c := by rw [Task.call?, hf]
  refine ⟨[(m, .answer t (replies c))], m.finish t (replies c), .one ?_ ?_ rfl ?_, ?_⟩
  · rw [move?, call]
    rfl
  · exact (isQuietOn_called hf).trans (by rw [listening]; rfl)
  · intro c' call' _
    rw [Option.some.inj (call.symm.trans call')]
  · rw [finish, task_setTask_self, hf, List.tail_cons]

/-- The next listener is told something, and answers. -/
theorem exists_oneTold (replies : Call → Reply) {c : Call} {calls : List Call}
    (hf : (m.task t).frames = f :: rest) (notice : f.isNotice = true)
    (notices : f.notices = c :: calls) :
    ∃ h m' g, Hushes replies m h m' ∧ (m'.task t).frames = g :: rest ∧ g.isNotice = true ∧
      g.notices = calls := by
  have told {g : Frame} (listening : c.listener?.isSome = true)
      (step : f.step ⟨m.routerAlive, m.now, (m.task t).reply⟩ m.router =
        .next [.call c, g] m.router) :
      ∃ h m', Hushes replies m h m' ∧ (m'.task t).frames = g :: rest := by
    have hm := advance_of_step hf step fun h => by cases h
    have loud : m.isOwn (.advance t) = false := by
      rw [isOwn, isQuietOn, hf, List.head?_cons, Option.all_some, notices]
      exact Bool.and_false _
    have called : ((m.settle t rest (.next [.call c, g] m.router)).task t).frames =
        .call c :: g :: rest := frames_settle_next
    obtain ⟨h, m', hush, frames⟩ := exists_answer replies called listening
    exact ⟨_, m', (Hushes.one hm loud rfl trivial).append hush, frames⟩
  cases f with
  | notify event e ls =>
    cases ls with
    | nil => cases notices
    | cons l ls =>
      obtain ⟨rfl, rfl⟩ := List.cons.inj notices
      obtain ⟨h, m', hush, frames⟩ := told (g := .notify event e ls) rfl rfl
      exact ⟨h, m', _, hush, frames, rfl, rfl⟩
  | notifySlot event s ls =>
    cases ls with
    | nil => cases notices
    | cons l ls =>
      obtain ⟨rfl, rfl⟩ := List.cons.inj notices
      obtain ⟨h, m', hush, frames⟩ := told (g := .notifySlot event s ls) rfl rfl
      exact ⟨h, m', _, hush, frames, rfl, rfl⟩
  | _ => cases notice

/-- All listeners are told something, and answer. -/
theorem exists_allTold (replies : Call → Reply) (hf : (m.task t).frames = f :: rest)
    (notice : f.isNotice = true) : ∃ h m', Hushes replies m h m' ∧ m'.isQuietOn t = true := by
  generalize hn : f.notices = notices
  induction notices generalizing m f with
  | nil =>
    refine ⟨[], m, .nil, ?_⟩
    rw [isQuietOn, hf, List.head?_cons, Option.all_some, hn]
    cases f with
    | notify | notifySlot => all_goals rfl
    | _ => cases notice
  | cons c calls ih =>
    obtain ⟨h, m₁, g, hush, frames, notice, notices⟩ := exists_oneTold replies hf notice hn
    obtain ⟨h', m', hush', quiet⟩ := ih frames notice notices
    exact ⟨h' ++ h, m', hush.append hush', quiet⟩

/-- Whatever listeners answer, a task is through with them in the end. -/
theorem exists_quiet (composed : m.Composed) (replies : Call → Reply) (t : Nat) :
    ∃ h m', Hushes replies m h m' ∧ m'.isQuietOn t = true := by
  cases quiet : m.isQuietOn t with
  | true => exact ⟨[], m, .nil, quiet⟩
  | false =>
    obtain ⟨f, rest, notice, -, hf | ⟨c, listening, hf⟩⟩ := exists_notice_of_loud composed quiet
    · exact exists_allTold replies hf notice
    · obtain ⟨h, m₁, hush, frames⟩ := exists_answer replies hf listening
      obtain ⟨h', m', hush', quiet⟩ := exists_allTold replies frames notice
      exact ⟨h' ++ h, m', hush.append hush', quiet⟩

theorem Hushes.composed (hush : Hushes replies m h m') (composed : m.Composed) : m'.Composed :=
  hush.path.composed composed hush.observed

/-- Telling listeners something leaves the machine without them as it is. -/
theorem Hushes.unheard_eq (hush : Hushes replies m h m') (composed : m.Composed) :
    m'.unheard = m.unheard := by
  have p := hush.path.unheard composed hush.observed
  have none : own h = [] := by
    rw [← List.append_nil h, own_append_of_others hush.others]
    rfl
  rw [Engine.unheard, none, List.map_nil] at p
  exact (p.eq_of_moves .nil rfl).2

/-- Whatever is a move that is not about listeners becomes one when they have been told what they
are to be told; then others may become listeners. -/
theorem exists_own (composed : m.Composed) (own : m₁.isOwn mv = true) (replies : Call → Reply)
    (ls : List Listener) :
    ∃ h m', Hushes replies m h m' ∧ m'.isOwn mv = true ∧ m'.router.listeners = ls := by
  have quiet : ∃ h m', Hushes replies m h m' ∧ m'.isOwn mv = true := by
    cases mv with
    | advance t | request t | answer t => all_goals exact exists_quiet composed replies t
    | operate o =>
      cases o with
      | setListeners => cases own
      | _ => exact ⟨[], m, .nil, rfl⟩
    | fork | elapse => all_goals exact ⟨[], m, .nil, rfl⟩
  obtain ⟨h, m₂, hush, own⟩ := quiet
  let m₃ : Machine := { m₂ with router := { m₂.router with listeners := ls } }
  have hm : m₂.move? (.operate (.setListeners ls)) = some m₃ := rfl
  refine ⟨_, m₃, hush.append (.one hm rfl rfl trivial), ?_, rfl⟩
  cases mv <;> exact own

end Machine

theorem Machine.Hushes.follows {m m' : Machine} {h h₁ : History} {plan : Nat → List Listener}
    {replies : Nat → Call → Reply} (hush : Hushes (replies (own h₁).length) m h m')
    (follows : Follows plan replies h₁) : Follows plan replies (h ++ h₁) := by
  have others := hush.others
  have answers := hush.answers
  clear hush
  induction h with
  | nil => exact follows
  | cons q h ih =>
    obtain ⟨other, others⟩ := List.forall_mem_cons.1 others
    obtain ⟨answer, answers⟩ := List.forall_mem_cons.1 answers
    refine ⟨fun own => absurd (own.symm.trans other) Bool.false_ne_true.symm, ?_, ih others answers⟩
    rwa [List.append_eq, own_append_of_others others]

/-! ## Two runs -/

section

variable {h h' : History} {m m' m₀ : Machine} {config : Config}

theorem moves_unheard (h : History) : (unheard h).map (·.2) = ownMoves h := List.map_map ..

/-- Whoever is to listen, and whatever they are to answer, the moves that are not about listeners
can be made. -/
theorem Path.exists_follows (p : Path m₀ h m) (composed : m₀.Composed) (observed : Observed h)
    (plan : Nat → List Listener) (replies : Nat → Call → Reply) :
    ∃ h' m', Path m₀ h' m' ∧ Observed h' ∧ ownMoves h' = ownMoves h ∧
      Follows plan replies h' := by
  induction p with
  | nil => exact ⟨[], m₀, .nil, observed, rfl, trivial⟩
  | @cons h m m' mv p hm ih =>
    obtain ⟨h₁, m₁, p₁, observed₁, same, follows⟩ := ih observed.tail
    cases own : m.isOwn mv with
    | false =>
      refine ⟨h₁, m₁, p₁, observed₁, ?_, follows⟩
      rw [same, ownMoves, ownMoves, own_cons, if_neg (ne_true_of_eq_false own)]
    | true =>
      have now := p.composed composed observed.tail
      have composed₁ := p₁.composed composed observed₁
      have alike : m₁.unheard = m.unheard :=
        ((p₁.unheard composed observed₁).eq_of_moves (p.unheard composed observed.tail)
          (by rw [moves_unheard, moves_unheard, same])).2
      obtain ⟨k, m₂, hush, own₂, listeners⟩ := Machine.exists_own composed₁ own
        (replies (Engine.own h₁).length) (plan (Engine.own h₁).length)
      -- The move can be made without listeners, and therefore with those that now listen.
      have made : (m₂.move? mv).map Machine.unheard = some m'.unheard := by
        rw [← Machine.move?_unheard (hush.composed composed₁) own₂, hush.unheard_eq composed₁,
          alike, Machine.move?_unheard now own, hm, Option.map_some]
      obtain ⟨m₃, hm₃, -⟩ := Option.map_eq_some_iff.1 made
      obtain ⟨observes, answers⟩ :=
        Machine.observes_of_isOwn (replies (Engine.own (k ++ h₁)).length) own₂ hm₃
      have left : Engine.own (k ++ h₁) = Engine.own h₁ := own_append_of_others hush.others h₁
      refine ⟨(m₂, mv) :: (k ++ h₁), m₃, (p₁.append hush.path).cons hm₃,
        List.forall_mem_cons.2 ⟨observes, List.forall_mem_append.2 ⟨hush.observed, observed₁⟩⟩, ?_,
        fun _ => left ▸ listeners, answers, hush.follows follows⟩
      rw [ownMoves, ownMoves, own_cons, own_cons, if_pos own₂, if_pos own, left, List.map_cons,
        List.map_cons]
      exact congrArg (mv :: ·) same

/-- What two runs have in common in which the same moves were made, but for those that are about
listeners. -/
structure Alike (config : Config) (h : History) (m : Machine) (h' : History) (m' : Machine) :
    Prop where
  /-- The router and the tasks are the same without listeners, -/
  machine : m.unheard = m'.unheard
  /-- and so were they whenever such a move was made. -/
  history : unheard h = unheard h'
  /-- Everybody else was asked the same and got the same. -/
  dealings : dealings h = dealings h'
  /-- A listener that attended both in the same way is told the same on every task, -/
  told (l : String) (attended : attendances l h = attendances l h') (t : Nat) :
    tellings l t h m = tellings l t h' m'
  /-- and altogether where only one task is at work. -/
  toldInTurn (sync : config.syncDelivery = true) (unforked : Unforked h) (l : String)
    (attended : attendances l h = attendances l h') :
    (m.pending l 0).reverse ++ callbacks l h = (m'.pending l 0).reverse ++ callbacks l h'

/-- Whoever is told something where only one task is at work is told it there. -/
theorem Run.callbacks_eq (run : Run config h m) (sync : config.syncDelivery = true)
    (unforked : Unforked h) (l : String) :
    tellings l 0 h m = (m.pending l 0).reverse ++ callbacks l h := by
  refine congrArg (_ ++ ·) (List.filter_eq_self.2 fun p hp => beq_iff_eq.2 ?_)
  obtain ⟨q, hq, told⟩ := List.mem_flatMap.1 hp
  have one := run.size_of_mem sync unforked hq
  cases hmv : q.2 with
  | advance t =>
    rw [hmv] at told
    obtain ⟨c, hc, rfl⟩ := List.mem_map.1 told
    have working : (q.1.task t).frames ≠ [] := fun none => by
      rw [none] at hc
      cases hc
    have := Machine.lt_size_of_frames working
    show t = 0
    omega
  | _ =>
    rw [hmv] at told
    cases told

theorem Unforked.of_commands (unforked : Unforked h) (same : commands (own h') = commands (own h)) :
    Unforked h' := by
  intro q hq
  cases hmv : q.2 with
  | fork =>
    have made : Move.fork ∈ commands (own h') := by
      refine List.mem_filter.2 ⟨List.mem_map.2 ⟨q, List.mem_filter.2 ⟨hq, ?_⟩, hmv⟩, rfl⟩
      rw [hmv]
      rfl
    obtain ⟨q', hq', hmv'⟩ := List.mem_map.1 (List.mem_of_mem_filter (same ▸ made))
    have other := unforked q' (List.mem_of_mem_filter hq')
    rw [hmv'] at other
    cases other
  | _ => rfl

/-- Runs in which the same moves are made are alike. -/
theorem Run.alike (run : Run config h m) (observed : Observed h) (run' : Run config h' m')
    (observed' : Observed h') (same : ownMoves h' = ownMoves h) : Alike config h m h' m' := by
  obtain ⟨history, machine⟩ := (run.unheard observed).eq_of_moves (run'.unheard observed')
    (by rw [moves_unheard, moves_unheard, same])
  have told (l : String) (attended : attendances l h = attendances l h') (t : Nat) :
      tellings l t h m = tellings l t h' m' := by
    rw [run.tellings_eq observed, run'.tellings_eq observed',
      dues_eq_zip (run.all_composed observed), dues_eq_zip (run'.all_composed observed'), history,
      attended]
  refine ⟨machine, history, ?_, told, fun sync unforked l attended => ?_⟩
  · rw [← dealings_unheard (run.all_composed observed), history,
      dealings_unheard (run'.all_composed observed')]
  · rw [← run.callbacks_eq sync unforked, told l attended,
      run'.callbacks_eq sync (unforked.of_commands (congrArg (List.filter _) same))]

/-- Where only one task is at work, it alone goes on without listeners. -/
theorem Run.alone (run : Run config h m) (observed : Observed h) (sync : config.syncDelivery = true)
    (unforked : Unforked h) : Alone (Engine.unheard h) := by
  have run := run.unheard observed
  have unforked : Unforked (Engine.unheard h) := fun q hq => by
    obtain ⟨q', hq', rfl⟩ := List.mem_map.1 hq
    exact unforked q' (List.mem_of_mem_filter hq')
  intro q hq t hmv
  have one := run.size_of_mem sync unforked hq
  obtain ⟨r, -, p⟩ := run
  obtain ⟨m', hm⟩ := p.exists_made hq
  rw [hmv] at hm
  have := Machine.lt_size_of_advance hm
  omega

/-- Listeners do not disturb.  Of the moves of a run those that are not about listeners can also be
made when others listen, as they come and go and whatever they answer, and a run in which they are
made is like the first one.  Under synchronous delivery it is enough that the same is done from
outside by those who are not listeners. -/
theorem Run.undisturbed (run : Run config h m) (observed : Observed h) :
    (∀ (plan : Nat → List Listener) (replies : Nat → Call → Reply),
      ∃ h' m', Run config h' m' ∧ Observed h' ∧ ownMoves h' = ownMoves h ∧
        Follows plan replies h') ∧
    (∀ h' m', Run config h' m' → Observed h' → ownMoves h' = ownMoves h →
      Alike config h m h' m') ∧
    (config.syncDelivery = true → Unforked h → Patient (Engine.unheard h) m.unheard →
      ∀ h' m', Run config h' m' → Observed h' → Patient (Engine.unheard h') m'.unheard →
        commands (own h') = commands (own h) → Alike config h m h' m') := by
  refine ⟨fun plan replies => ?_, fun h' m' => run.alike observed,
    fun sync unforked patient h' m' run' observed' patient' same => ?_⟩
  · obtain ⟨r, hr, p⟩ := run
    obtain ⟨h', m', p', rest⟩ :=
      p.exists_follows (Machine.composed_ofRouter r) observed plan replies
    exact ⟨h', m', ⟨r, hr, p'⟩, rest⟩
  · have unforked' := unforked.of_commands same
    obtain ⟨r, hr, p⟩ := run.unheard observed
    obtain ⟨r', hr', p'⟩ := run'.unheard observed'
    cases Except.ok.inj (hr.symm.trans hr')
    have all := p'.eq_of_commands p (run'.alone observed' sync unforked')
      (run.alone observed sync unforked) patient' patient
      (by rw [commands, commands, moves_unheard, moves_unheard]; exact same)
    refine run.alike observed run' observed' ?_
    rw [← moves_unheard, ← moves_unheard, all]

/-- An exchange is sent and delivered while there is one listener. -/
def Cue.overheard : List Cue :=
  opening .inOnly ++ [listen, request 0 (.send ⟨1⟩ ⟨0⟩)] ++ hears ++ hears ++ [runs 0]

/-- That is done while there is another listener before that one, which breaks down. -/
def Cue.overheardByTwo : List Cue :=
  let noise := [runs 0, answer 0 (.failed (.other "listener panicked"))]
  opening .inOnly ++
    [operate (.setListeners [⟨"noisy", true, true, ∅⟩, ⟨"listener", false, true, ∅⟩]),
      request 0 (.send ⟨1⟩ ⟨0⟩)] ++
    noise ++ hears ++ noise ++ hears ++ [runs 0]

/-- What those do who are not listeners. -/
def Cue.unheard : List Move :=
  ((opening .inOnly ++ [request 0 (.send ⟨1⟩ ⟨0⟩)]).filterMap fun
    | .makes mv => some mv
    | .goes .. => none).reverse

theorem commands_overheard : (Machine.synchronous.enact [] Cue.overheard).map
    (fun p => commands (own p.1)) = some Cue.unheard := by rfl

theorem commands_overheardByTwo : (Machine.synchronous.enact [] Cue.overheardByTwo).map
    (fun p => commands (own p.1)) = some Cue.unheard := by rfl

/-- Listeners look on, everybody else waits for his turn on the one task, and a listener is told
what is given. -/
def Machine.watched (l : String) (calls : List (Nat × Call)) (p : History × Machine) : Bool :=
  p.1.all (fun q => q.1.observes q.2 && !q.2.isFork) &&
    (Engine.unheard p.1).all (fun q => q.2.isAdvance || q.1.waits) && p.2.unheard.waits &&
    callbacks l p.1 == calls

theorem Machine.of_watched {l : String} {calls : List (Nat × Call)}
    (watched : watched l calls (h, m) = true) :
    (Observed h ∧ Unforked h ∧ Patient (Engine.unheard h) m.unheard) ∧ callbacks l h = calls := by
  simp only [Machine.watched, Bool.and_eq_true, List.all_eq_true, Bool.or_eq_true,
    Bool.not_eq_true', beq_iff_eq] at watched
  obtain ⟨⟨⟨moves, before⟩, after⟩, told⟩ := watched
  refine ⟨⟨fun q hq => (moves q hq).1, fun q hq => (moves q hq).2, ?_, ?_⟩, told⟩
  · exact fun q hq command => resting_of_waits ((before q hq).resolve_left fun go =>
      Bool.false_ne_true (command.symm.trans go))
  · exact resting_of_waits after

theorem Run.undisturbed_overheard : ∃ h m h' m', Run { syncDelivery := true } h m ∧ Observed h ∧
    Run { syncDelivery := true } h' m' ∧ Observed h' ∧ commands (own h') = commands (own h) ∧
    callbacks "listener" h = [(0, .exchangeEvent "listener" .delivered ⟨0⟩),
      (0, .exchangeEvent "listener" .sent ⟨0⟩)] ∧
    callbacks "noisy" h' = [(0, .exchangeEvent "noisy" .delivered ⟨0⟩),
      (0, .exchangeEvent "noisy" .sent ⟨0⟩)] ∧
    attendances "listener" h = attendances "listener" h' ∧
    Alike { syncDelivery := true } h m h' m' := by
  have seen : (Machine.synchronous.enact [] Cue.overheard).any (Machine.watched "listener"
      [(0, .exchangeEvent "listener" .delivered ⟨0⟩), (0, .exchangeEvent "listener" .sent ⟨0⟩)]) =
        true := by rfl
  have seen' : (Machine.synchronous.enact [] Cue.overheardByTwo).any (Machine.watched "noisy"
      [(0, .exchangeEvent "noisy" .delivered ⟨0⟩), (0, .exchangeEvent "noisy" .sent ⟨0⟩)]) =
        true := by rfl
  have attended : (Machine.synchronous.enact [] Cue.overheard).map
        (fun p => attendances "listener" p.1) =
      (Machine.synchronous.enact [] Cue.overheardByTwo).map
        (fun p => attendances "listener" p.1) := by decide +kernel
  obtain ⟨⟨h, m⟩, hp, hq⟩ := (Option.any_eq_true _ _).1 seen
  obtain ⟨⟨h', m'⟩, hp', hq'⟩ := (Option.any_eq_true _ _).1 seen'
  obtain ⟨⟨observed, unforked, patient⟩, told⟩ := Machine.of_watched hq
  obtain ⟨⟨observed', -, patient'⟩, told'⟩ := Machine.of_watched hq'
  rw [hp, hp', Option.map_some, Option.map_some, Option.some.injEq] at attended
  have same : commands (own h') = commands (own h) := by
    have made := commands_overheard
    have made' := commands_overheardByTwo
    rw [hp, Option.map_some, Option.some.injEq] at made
    rw [hp', Option.map_some, Option.some.injEq] at made'
    rw [made, made']
  have run := (Path.nil.enact hp).runSynchronous
  have run' := (Path.nil.enact hp').runSynchronous
  exact ⟨h, m, h', m', run, observed, run', observed', same, told, told', attended,
    (run.undisturbed observed).2.2 rfl unforked patient h' m' run' observed' patient' same⟩

end

end MessageRouter.Engine
