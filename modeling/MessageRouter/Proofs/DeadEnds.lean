import MessageRouter.Proofs.Failures
import MessageRouter.Proofs.Refusals

/-!
# Dead ends

Whoever has the turn can end an exchange, unless something has been put on it that no send gets
rid of: changes only add messages, and none is possible once the exchange is done or has failed.
`Run.endable_iff` says which exchanges can still be ended.
-/

namespace MessageRouter

namespace Exchange

variable {x x' : Exchange} {s : SlotId}

/-- The slot whose turn it is. -/
def holder (x : Exchange) : Option SlotId :=
  match x.role with
  | .consumer => x.source
  | .provider => x.destination

/-- The changes with which a party prepares its next send. -/
def Change.preparesSend : Change → Bool
  | .message .output _ | .message .fault _ | .status _ | .error _ => true
  | _ => false

/-- Nothing stands in the way of the end of an exchange: it carries one reply at most, the provider
has not called it done where it must not, and it is not for the provider alone to end it. -/
structure Endable (x : Exchange) : Prop where
  oneReply : x.output = none ∨ x.fault = none
  done : x.role = .provider → x.status = .done →
    x.pattern.allowsProviderDone ∧ x.output = none ∧ x.fault = none
  closing : x.role = .consumer → x.pattern ≠ .inOnly

/-- No change helps an exchange out of a dead end. -/
theorem Endable.of_change {c : Change} (h : x'.Endable) (hc : x.change c = .ok x') : x.Endable := by
  obtain ⟨same, going⟩ := change_ok hc
  have oneReply : x.output = none ∨ x.fault = none := by
    rcases replies_of_change hc with ⟨slot, m, -, rfl⟩ | ⟨output, fault⟩
    · have := h.oneReply
      cases slot with
      | input => exact this
      | output => exact this.imp_left fun none => by cases none
      | fault => exact this.imp_right fun none => by cases none
    · rw [← output, ← fault]
      exact h.oneReply
  refine ⟨oneReply, fun _ done => ?_, fun hr => ?_⟩
  · rw [done] at going
    cases going
  · rw [← same.pattern]
    exact h.closing (same.role.trans hr)

theorem endable_setWaiting {role : Role} {b : Bool} :
    (x.setWaiting role b).Endable ↔ x.Endable :=
  ⟨fun h => ⟨h.oneReply, h.done, h.closing⟩, fun h => ⟨h.oneReply, h.done, h.closing⟩⟩

/-- A later send is only accepted of an exchange that can be ended. -/
theorem endable_of_checkSend (h : x.checkSend s = .ok ()) (sent : x.source.isSome = true) :
    x.Endable := by
  obtain ⟨rest, turn⟩ := checkSend_ok.1 h
  refine ⟨rest.oneReply, fun hr hd => ?_, fun hr => ?_⟩
  · rcases turn with opens | answers | closes
    · exact absurd (opens.turn.symm.trans hr) (by decide)
    · exact answers.done hd
    · exact absurd (closes.turn.symm.trans hr) (by decide)
  · rcases turn with opens | answers | closes
    · rw [opens.fresh] at sent
      cases sent
    · exact absurd (answers.turn.symm.trans hr) (by decide)
    · exact closes.pattern

/-- An exchange that can be ended may be sent as soon as it is done or has failed. -/
theorem Endable.checkSend (h : x.Endable) (going : x.completed = false)
    (arrived : x.inTransit = false) (keeps : x.KeepsPattern) (holder : x.holder = some s)
    (terminal : x.status.isTerminal = true) : x.checkSend s = .ok () := by
  refine checkSend_ok.2 ⟨⟨going, arrived, h.oneReply, keeps.output, keeps.fault⟩, .inr ?_⟩
  unfold Exchange.holder at holder
  cases hr : x.role with
  | consumer =>
    rw [hr] at holder
    exact .inr ⟨hr, holder, terminal, h.closing hr⟩
  | provider =>
    rw [hr] at holder
    refine .inl ⟨hr, holder, fun active => ?_, h.done hr⟩
    rw [active] at terminal
    cases terminal

end Exchange

namespace Engine

/-! ## Changes before a send -/

namespace Machine

variable {m m' : Machine} {s : SlotId} {e : ExchangeId} {t : Nat} {h : History}

/-- The machine after some changes of an exchange, those included that are refused. -/
def changed (m : Machine) (e : ExchangeId) (cs : List Exchange.Change) : Machine :=
  { m with router := cs.foldl (fun r c => (r.change e c).2) m.router }

end Machine

/-- Makes moves one after the other, as long as they can be made. -/
def Machine.play (m : Machine) (h : History) : List Move → Option (History × Machine)
  | [] => some (h, m)
  | mv :: rest => (m.move? mv).bind fun m' => m'.play ((m, mv) :: h) rest

/-- A new thread of the application changes an exchange and then sends it. -/
def Move.changing (t : Nat) (s : SlotId) (e : ExchangeId) (cs : List Exchange.Change) : List Move :=
  .fork :: (cs.map (fun c => .operate (.change e c)) ++
    .request t (.send s e) :: List.replicate 3 (.advance t))

namespace Machine

variable {m m' : Machine} {s : SlotId} {e : ExchangeId} {t : Nat} {h : History}

/-- An exchange has been sent, it is neither over nor in transit, and a slot with an open channel
has the turn. -/
structure MayGoOn (m : Machine) (s : SlotId) (e : ExchangeId) : Prop where
  sent : 0 < (m.router.exchange e).sends
  going : (m.router.exchange e).completed = false
  arrived : (m.router.exchange e).inTransit = false
  turn : (m.router.exchange e).holder = some s
  alive : m.routerAlive = true
  isOpen : (m.router.slot s).closed = false

/-- The same, as it is found out by looking. -/
def mayGoOn (m : Machine) (s : SlotId) (e : ExchangeId) : Bool :=
  let x := m.router.exchange e
  decide (0 < x.sends) && !x.completed && !x.inTransit && x.holder == some s && m.routerAlive &&
    !(m.router.slot s).closed

theorem mayGoOn_of_check (h : m.mayGoOn s e = true) : m.MayGoOn s e := by
  simp only [mayGoOn, Bool.and_eq_true, decide_eq_true_eq, beq_iff_eq, Bool.not_eq_true'] at h
  obtain ⟨⟨⟨⟨⟨sent, going⟩, arrived⟩, turn⟩, alive⟩, isOpen⟩ := h
  exact ⟨sent, going, arrived, turn, alive, isOpen⟩

/-- After some changes a slot sends an exchange, and the send is accepted. -/
def SendsAfter (m : Machine) (s : SlotId) (e : ExchangeId) (cs : List Exchange.Change)
    (m' : Machine) : Prop :=
  ∃ h m₁, m.play [] (Move.changing m.tasks.size s e cs) =
      some ((m₁, .advance m.tasks.size) :: h, m') ∧
    m₁.Accepts m.tasks.size s e (.advance m.tasks.size)

/-- A task tries to send an exchange and comes back without a send, and nobody comes between. -/
def Rejects (m : Machine) (e : ExchangeId) (m' : Machine) : Prop :=
  ∃ t g s rest h, (m.task t).frames = g :: rest ∧ g.sendOf? = some (s, e) ∧ Path m h m' ∧
    (∀ q ∈ h, q.2 = .advance t ∧ rest.length < (q.1.task t).frames.length ∧
      ¬q.1.Accepts t s e q.2) ∧ (m'.task t).frames.length ≤ rest.length

theorem play_append (moves moves' : List Move) :
    m.play h (moves ++ moves') = (m.play h moves).bind fun p => p.2.play p.1 moves' := by
  induction moves generalizing m h with
  | nil => rfl
  | cons mv moves ih =>
    rw [List.cons_append, play, play]
    cases m.move? mv with
    | none => rfl
    | some m' => exact ih

theorem play_changes (cs : List Exchange.Change) :
    ∃ h', m.play h (cs.map fun c => .operate (.change e c)) = some (h', m.changed e cs) := by
  induction cs generalizing m h with
  | nil => exact ⟨h, rfl⟩
  | cons c cs ih => exact ih

/-- A send through an open channel comes as far as its acceptance. -/
theorem exists_play_send (frames : (m.task t).frames = [.send s e, .call .application])
    (alive : m.routerAlive = true) (present : m.router.isPresent s = true)
    (isOpen : (m.router.slot s).closed = false) :
    ∃ h' m₁ m', m.play h (List.replicate 3 (.advance t)) = some ((m₁, .advance t) :: h', m') ∧
      m₁.router = m.router ∧ (m₁.task t).frames = [.accept s e, .call .application] ∧
        m₁.move? (.advance t) = some m' := by
  have usable : Frame.checkChannel ⟨m.routerAlive, m.now, (m.task t).reply⟩ m.router s = .ok () :=
    Frame.checkChannel_ok.2 ⟨alive, present⟩
  have h₁ : m.move? (.advance t) =
      some (m.settle t [.call .application] (.next [.dispatch s e] m.router)) :=
    advance_of_step frames (by simp only [Frame.step, usable]) (by simp)
  generalize hm₁ : m.settle t [.call .application] (.next [.dispatch s e] m.router) = m₁ at h₁
  have hf₁ : (m₁.task t).frames = [.dispatch s e, .call .application] :=
    hm₁ ▸ frames_settle_next
  have hr₁ : m₁.router = m.router := hm₁ ▸ rfl
  have h₂ : m₁.move? (.advance t) =
      some (m₁.settle t [.call .application] (.next [.accept s e] m₁.router)) :=
    advance_of_step hf₁ (by simp [Frame.step, hr₁, isOpen]) (by simp)
  generalize hm₂ : m₁.settle t [.call .application] (.next [.accept s e] m₁.router) = m₂ at h₂
  have hf₂ : (m₂.task t).frames = [.accept s e, .call .application] :=
    hm₂ ▸ frames_settle_next
  have hr₂ : m₂.router = m.router := hr₁ ▸ hm₂ ▸ rfl
  have go : (Frame.accept s e).step ⟨m₂.routerAlive, m₂.now, (m₂.task t).reply⟩ m₂.router ≠
      .blocked := by
    simp only [Frame.step, Frame.stepAccept]
    split <;> simp
  have h₃ := advance_of_step hf₂ rfl go
  exact ⟨(m₁, .advance t) :: (m, .advance t) :: h, m₂, _, by simp [play, h₁, h₂, h₃], hr₂, hf₂, h₃⟩

/-- The router is there as long as it has an owner or a task works on it. -/
theorem routerAlive_iff :
    m.routerAlive = true ↔ m.router.owned = true ∨ ∃ t, (m.task t).holdsRouter = true := by
  rw [routerAlive, Bool.or_eq_true, List.any_eq_true]
  refine or_congr_right ⟨fun ⟨task, hmem, holds⟩ => ?_, fun ⟨t, holds⟩ => ?_⟩
  · obtain ⟨t, ht, rfl⟩ := List.mem_iff_getElem.1 hmem
    refine ⟨t, ?_⟩
    rwa [task, Table.get, List.getD_eq_getElem?_getD, List.getElem?_eq_getElem ht]
  · obtain ⟨f, hf, -⟩ := List.any_eq_true.1 holds
    exact ⟨_, mem_rows_of_mem_frames hf, holds⟩

/-- Changes have no effect on anything but the exchange. -/
theorem changed_keeps (m : Machine) (e : ExchangeId) (cs : List Exchange.Change) :
    (m.changed e cs).router.owned = m.router.owned ∧
      (m.changed e cs).router.slots = m.router.slots := by
  induction cs generalizing m with
  | nil => exact ⟨rfl, rfl⟩
  | cons c cs ih =>
    have same : (m.router.change e c).2.owned = m.router.owned ∧
        (m.router.change e c).2.slots = m.router.slots := by
      unfold Router.change
      split <;> exact ⟨rfl, rfl⟩
    obtain ⟨owned, slots⟩ := ih { m with router := (m.router.change e c).2 }
    exact ⟨owned.trans same.1, slots.trans same.2⟩

/-- A new thread of the application that sends an exchange keeps the router there. -/
theorem routerAlive_fork (alive : m.routerAlive = true) :
    (Machine.request { m with tasks := (m.tasks.add Task.application).2 } m.tasks.size
      (.send s e)).routerAlive = true := by
  refine routerAlive_iff.2 ((routerAlive_iff.1 alive).imp_right fun ⟨t, holds⟩ => ⟨t, ?_⟩)
  have ht : t < m.tasks.size := lt_size_of_frames fun none => by
    rw [Task.holdsRouter, none] at holds
    cases holds
  rw [request, task_setTask, if_neg (by omega), task_add ht]
  exact holds

/-- After some changes a slot with an open channel comes as far as the acceptance of its send. -/
theorem exists_play_changing (cs : List Exchange.Change) (alive : m.routerAlive = true)
    (present : m.router.isPresent s = true) (isOpen : (m.router.slot s).closed = false) :
    ∃ h m₁ m', m.play [] (Move.changing m.tasks.size s e cs) =
        some ((m₁, .advance m.tasks.size) :: h, m') ∧
      m₁.router = (m.changed e cs).router ∧
      (m₁.task m.tasks.size).frames = [.accept s e, .call .application] ∧
        m₁.move? (.advance m.tasks.size) = some m' := by
  obtain ⟨owned, slots⟩ := m.changed_keeps e cs
  have slot : (m.changed e cs).router.slot s = m.router.slot s := by
    rw [Router.slot, slots, Router.slot]
  have alive : (m.changed e cs).routerAlive = true := by
    rw [routerAlive_iff, owned]
    exact routerAlive_iff.1 alive
  -- The machine with the new thread, after the changes.
  generalize hn : Machine.mk (m.changed e cs).router (m.tasks.add Task.application).2 m.now = n
  have frames : (n.task m.tasks.size).frames = [.call .application] := by
    rw [← hn, task, Table.get_add, if_pos rfl]
    rfl
  have sending : ((n.request m.tasks.size (.send s e)).task m.tasks.size).frames =
      [.send s e, .call .application] := by
    rw [request, task_setTask_self, frames]
    rfl
  have router : (n.request m.tasks.size (.send s e)).router = (m.changed e cs).router := hn ▸ rfl
  obtain ⟨h, hplay⟩ := play_changes (m := { m with tasks := (m.tasks.add Task.application).2 })
    (h := [(m, .fork)]) (e := e) cs
  obtain ⟨h', m₁, m', hsend, hr, hf, hm⟩ := exists_play_send
    (h := (n, .request m.tasks.size (.send s e)) :: h) sending (hn ▸ routerAlive_fork alive)
    (by rwa [router, Router.isPresent, slot]) (by rwa [router, slot])
  refine ⟨h', m₁, m', ?_, hr.trans router, hf, hm⟩
  have call : (n.task m.tasks.size).call?.isSome ∧ (Frame.send s e).isRequest := by
    rw [Task.call?, frames]
    exact ⟨rfl, rfl⟩
  have hrequest : n.move? (.request m.tasks.size (.send s e)) =
      some (n.request m.tasks.size (.send s e)) := if_pos call
  have hn' : Machine.changed { m with tasks := (m.tasks.add Task.application).2 } e cs = n := hn
  rw [hn'] at hplay
  have hfork : m.move? .fork = some { m with tasks := (m.tasks.add Task.application).2 } := rfl
  rw [Move.changing, play, hfork, Option.bind_some, play_append, hplay, Option.bind_some, play,
    hrequest, Option.bind_some, hsend]

theorem source_of_change {r : Router} (e : ExchangeId) (c : Exchange.Change) :
    ((r.change e c).2.exchange e).source = (r.exchange e).source ∧
      (((r.change e c).2.exchange e).Endable → (r.exchange e).Endable) := by
  unfold Router.change
  rcases hc : (r.exchange e).change c with err | x
  · exact ⟨rfl, id⟩
  · dsimp only
    rw [Router.exchange_setExchange_self]
    exact ⟨(Exchange.change_ok hc).1.source, fun h => h.of_change hc⟩

/-- Changes neither send an exchange nor help it out of a dead end. -/
theorem exchange_changed (m : Machine) (e : ExchangeId) (cs : List Exchange.Change) :
    ((m.changed e cs).router.exchange e).source = (m.router.exchange e).source ∧
      (((m.changed e cs).router.exchange e).Endable → (m.router.exchange e).Endable) := by
  induction cs generalizing m with
  | nil => exact ⟨rfl, id⟩
  | cons c cs ih =>
    obtain ⟨source, endable⟩ := ih { m with router := (m.router.change e c).2 }
    obtain ⟨source', endable'⟩ := source_of_change (r := m.router) e c
    exact ⟨source.trans source', fun h => endable' (endable h)⟩

variable {cs : List Exchange.Change}

/-- A send that is accepted after some changes was allowed. -/
theorem SendsAfter.endable (h : m.SendsAfter s e cs m') (may : m.MayGoOn s e)
    (present : m.router.isPresent s = true)
    (sent : (m.router.exchange e).source.isSome = true) : (m.router.exchange e).Endable := by
  obtain ⟨h, m₁, hplay, -, a, accepted, rfl⟩ := h
  obtain ⟨h', m₂, m₃, hplay', router, frames, hm⟩ :=
    exists_play_changing (e := e) cs may.alive present may.isOpen
  obtain ⟨⟨⟨rfl, -⟩, rfl⟩, rfl⟩ : ((m₂ = m₁ ∧ True) ∧ h' = h) ∧ m₃ = m' := by
    simpa using hplay'.symm.trans hplay
  obtain ⟨source, endable⟩ := m.exchange_changed e cs
  obtain ⟨-, state, allowed, -⟩ := accepted?_eq_some hm accepted
  rw [state, router] at allowed
  exact endable (Exchange.endable_of_checkSend allowed (by rwa [source]))

/-- A send that is allowed after some changes is accepted. -/
theorem exists_sendsAfter (cs : List Exchange.Change) (may : m.MayGoOn s e)
    (present : m.router.isPresent s = true)
    (sent : (m.router.exchange e).source.isSome = true)
    (allowed : ((m.changed e cs).router.exchange e).checkSend s = .ok ()) :
    ∃ m', m.SendsAfter s e cs m' ∧
      m'.router.exchange e = ((m.changed e cs).router.exchange e).sentBy s := by
  obtain ⟨h, m₁, m', hplay, router, frames, hm⟩ :=
    exists_play_changing (e := e) cs may.alive present may.isOpen
  obtain ⟨source, -⟩ := m.exchange_changed e cs
  have ok : (m₁.router.accept e s).1.isOk = true := by
    rw [router]
    exact (Router.isOk_accept (by rwa [source])).2 allowed
  rcases hr : m₁.router.accept e s with ⟨_ | _, r⟩
  · rw [hr] at ok
    cases ok
  have accepts := accepts_of_isAccepted (s := s) (e := e) frames ⟨r, rfl, hr⟩
  obtain ⟨-, a, accepted, rfl⟩ := accepts
  obtain ⟨-, state, -, hx⟩ := accepted?_eq_some hm accepted
  exact ⟨m', ⟨h, m₁, hplay, rfl, a, accepted, rfl⟩, by rw [hx, state, router]⟩

end Machine

/-! ## Reachable exchanges -/

section

variable {c : Context} {e : ExchangeId} {d : Deed} {f : Frame} {x x' : Exchange} {fs : List Frame}
  {D D' : Multiset Frame}

theorem Work.pattern (w : Work c x e f x' fs) : x'.pattern = x.pattern := by
  cases w with
  | strandWaiter | strand => all_goals exact x.pattern_stranded ..
  | _ => rfl

theorem Work.source_of_sends (w : Work c x e f x' fs) (h : 0 < x.sends → x.source.isSome = true) :
    0 < x'.sends → x'.source.isSome = true := by
  cases w with
  | accept => exact fun _ => rfl
  | strandWaiter | strand =>
    all_goals
      rw [Exchange.sends_stranded, Exchange.source_stranded]
      exact h
  | _ => exact h

/-- Where an exchange that only the provider ends stands before it is over: the consumer has not
sent it yet, it is on its way to the provider, or the provider has it. -/
def OneWay (x : Exchange) (D : Multiset Frame) : Prop :=
  x.pattern = .inOnly → ∃ l : List Sending, l.length ≤ 1 ∧ Stands x D l

theorem Turn.oneWay (t : Turn true e d x D x' D') (custody : InCustody x D) (h : OneWay x D) :
    OneWay x' D' := by
  intro hp'
  have hp : x.pattern = .inOnly := by
    cases t with
    | work w => exact w.pattern.symm.trans hp'
    | create p => rfl
    | change c changed => exact (Exchange.change_ok changed).1.pattern.symm.trans hp'
    | _ => exact hp'
  obtain ⟨l, one, stands⟩ := h hp
  rcases t.stands custody stands with ⟨c, s, rfl, rfl⟩ | stands
  case inr => exact ⟨l, one, stands⟩
  rcases t.of_accept with same | ⟨allowed, -, same⟩
  · exact absurd (congrArg Exchange.sends same) (Nat.succ_ne_self _)
  obtain ⟨rest, turn⟩ := Exchange.checkSend_ok.1 allowed
  obtain ⟨taken, phase⟩ := stands.resolve_left fun hc => by cases rest.going.symm.trans hc
  cases phase with
  | fresh hr hs ha alone taken' =>
    refine ⟨[⟨s, x⟩], Nat.le_refl 1, .inr ⟨(same _).trans taken, ?_⟩⟩
    rw [same]
    exact .opened hr (by simp [Exchange.sentBy, hs]) rfl alone taken'
  | opened hr hs ht => cases rest.arrived.symm.trans ht
  | asked hr =>
    -- The provider has no reply to send, so the exchange ends.
    have noReply : x.hasReply = false := by
      have output := rest.outAllowed
      have fault := rest.faultAllowed
      rw [hp] at output fault
      refine Bool.or_eq_false_iff.2
        ⟨eq_false_of_ne_true fun h => ?_, eq_false_of_ne_true fun h => ?_⟩
      · cases output h
      · cases fault h
    have terminal : x.status.isTerminal = true := by
      rcases turn with opens | answers | closes
      · cases opens.turn.symm.trans hr
      · cases hs : x.status with
        | active => cases noReply.symm.trans (answers.active hs)
        | done | error => all_goals rfl
      · cases closes.turn.symm.trans hr
    exact ⟨[], Nat.zero_le 1, .inl terminal⟩
  | answered | handedOver | returned => all_goals exact absurd one (by simp)

end

variable {config : Config} {h : History} {m : Machine}

/-- An exchange that has been sent has a source. -/
theorem Run.source_of_sends (run : Run config h m) {e : ExchangeId}
    (sent : 0 < (m.router.exchange e).sends) : (m.router.exchange e).source.isSome = true := by
  refine run.turns (P := fun x _ => 0 < x.sends → x.source.isSome = true) e
    (fun h : false = true => by cases h) (fun h => by cases h) ?_ sent
  intro d x D x' D' h t
  cases t with
  | work w => exact w.source_of_sends h
  | create p => exact fun h => by cases h
  | change c changed =>
    have same := (Exchange.change_ok changed).1
    rw [same.sends, same.source]
    exact h
  | _ => exact h

/-- As long as flows keep their contract, an exchange that only the provider ends is not the
consumer's turn once it has been sent. -/
theorem Run.oneWay (run : Run config h m) (tame : Tame h) (e : ExchangeId) :
    InCustody (m.router.exchange e) (m.dutiesFor e) ∧
      OneWay (m.router.exchange e) (m.dutiesFor e) := by
  refine run.turns (P := fun x D => InCustody x D ∧ OneWay x D) e
    (fun _ : true = true => tame) ?_ ?_
  · exact ⟨Nat.le_refl _, fun _ => ⟨[], Nat.zero_le 1, .inr ⟨rfl, .fresh rfl rfl rfl rfl rfl⟩⟩⟩
  · exact fun d x D x' D' h t => ⟨t.inCustody h.1, t.oneWay h.1 h.2⟩

/-- Whoever holds an active exchange can give it up. -/
theorem Machine.exchange_changed_error {e : ExchangeId}
    (active : (m.router.exchange e).status.isTerminal = false) :
    (m.changed e [.status .error]).router.exchange e =
      { m.router.exchange e with status := .error } := by
  have change : (m.router.exchange e).change (.status .error) =
      .ok { m.router.exchange e with status := .error } :=
    Exchange.change_eq_ok.2 ⟨active, trivial, rfl⟩
  rw [changed, List.foldl_cons, List.foldl_nil, Router.change, change]
  exact Router.exchange_setExchange_self ..

/-- The slot whose turn it is stays as long as the exchange goes on. -/
theorem Run.isPresent_holder (run : Run config h m) (tame : Tame h) {e : ExchangeId} {s : SlotId}
    (going : (m.router.exchange e).completed = false)
    (turn : (m.router.exchange e).holder = some s) : m.router.isPresent s = true := by
  have kept : (m.router.exchange e).released = false := by
    refine eq_false_of_ne_true fun released => ?_
    cases going.symm.trans ((run.sound tame e).released released)
  refine (run.accounted tame).ledger.isPresent_of_mem_ends kept (List.mem_append.2 ?_)
  unfold Exchange.holder at turn
  split at turn
  · exact .inl (Option.mem_toList.2 turn)
  · exact .inr (Option.mem_toList.2 turn)

/-- A send that is rejected does not make a dead end. -/
theorem Run.endable_of_rejects (run : Run config h m) {e : ExchangeId} {m' : Machine}
    (known : e.index < m.router.exchanges.size) (rejects : m.Rejects e m') :
    (m'.router.exchange e).Endable ↔ (m.router.exchange e).Endable := by
  obtain ⟨t, g, s, rest, h, frames, send, p, own, through⟩ := rejects
  rcases p.passes_or_trying run.settled known frames send fun q hq => (own q hq).2.1 with
    ⟨⟨q, hq, accepts⟩, -⟩ | trying
  · exact absurd accepts (own q hq).2.2
  · rcases (trying.refused known through).alone fun q hq => (own q hq).1 with
      ⟨-, same⟩ | ⟨-, unmarked⟩
    · rw [same]
    · rw [unmarked, Router.modifyExchange, Router.exchange_setExchange_self,
        Exchange.endable_setWaiting]

/-- An exchange that nothing stands in the way of is given up, if it is still active, and sent. -/
theorem Run.exists_ending (run : Run config h m) {e : ExchangeId} {s : SlotId}
    (may : m.MayGoOn s e) (present : m.router.isPresent s = true)
    (endable : (m.router.exchange e).Endable) :
    ∃ cs m', (∀ c ∈ cs, c.preparesSend = true) ∧ m.SendsAfter s e cs m' ∧
      (m'.router.exchange e).completed = true := by
  have source := run.source_of_sends may.sent
  have keeps := run.keepsPattern e
  by_cases terminal : (m.router.exchange e).status.isTerminal = true
  · have allowed := endable.checkSend may.going may.arrived keeps may.turn terminal
    obtain ⟨m', sends, hx⟩ := Machine.exists_sendsAfter [] may present source allowed
    exact ⟨[], m', (fun c hc => by cases hc), sends, by rw [hx]; exact terminal⟩
  · have given := Machine.exchange_changed_error (eq_false_of_ne_true terminal)
    have endable' : ((m.changed e [.status .error]).router.exchange e).Endable := by
      rw [given]
      exact ⟨endable.oneReply, (fun _ done => by cases done), endable.closing⟩
    have allowed : ((m.changed e [.status .error]).router.exchange e).checkSend s = .ok () := by
      refine endable'.checkSend ?_ ?_ ?_ ?_ ?_ <;> rw [given]
      · exact may.going
      · exact may.arrived
      · exact ⟨keeps.output, keeps.fault⟩
      · exact may.turn
      · rfl
    obtain ⟨m', sends, hx⟩ := Machine.exists_sendsAfter _ may present source allowed
    refine ⟨[.status .error], m', fun c hc => ?_, sends, by rw [hx, given]; rfl⟩
    rw [List.mem_singleton.1 hc]
    rfl

/-- As long as flows keep their contract, what the consumer has got back is not for the provider
alone to end. -/
theorem Run.pattern_of_consumer (run : Run config h m) (tame : Tame h) {e : ExchangeId}
    {s : SlotId} (may : m.MayGoOn s e) (consumer : (m.router.exchange e).role = .consumer) :
    (m.router.exchange e).pattern ≠ .inOnly := by
  intro inOnly
  obtain ⟨l, one, stands⟩ := (run.oneWay tame e).2 inOnly
  obtain ⟨-, phase⟩ := stands.resolve_left fun hc => by cases may.going.symm.trans hc
  cases phase with
  | fresh _ hs => cases (run.source_of_sends may.sent).symm.trans (congrArg Option.isSome hs)
  | opened _ _ ht => cases may.arrived.symm.trans ht
  | asked hr => cases consumer.symm.trans hr
  | answered | handedOver | returned => all_goals exact absurd one (by simp)

/-- Whoever has the turn and an open channel can bring about that a send is accepted, with which the
exchange ends, if and only if nothing stands in the way of its end; a send that is rejected does
not put anything there.  As long as flows keep their contract, the consumer never has the turn
where only the provider may end the exchange. -/
theorem Run.endable_iff (run : Run config h m) {e : ExchangeId} {s : SlotId}
    (may : m.MayGoOn s e) (here : Tame h ∨ m.router.isPresent s = true) :
    ((∃ cs m', (∀ c ∈ cs, c.preparesSend = true) ∧ m.SendsAfter s e cs m') ↔
      (m.router.exchange e).Endable) ∧
    ((m.router.exchange e).Endable → ∃ cs m', (∀ c ∈ cs, c.preparesSend = true) ∧
      m.SendsAfter s e cs m' ∧ (m'.router.exchange e).completed = true) ∧
    (∀ m', m.Rejects e m' → ((m'.router.exchange e).Endable ↔ (m.router.exchange e).Endable)) ∧
    (Tame h → (m.router.exchange e).role = .consumer →
      (m.router.exchange e).pattern ≠ .inOnly) := by
  have source := run.source_of_sends may.sent
  have present : m.router.isPresent s = true :=
    here.elim (fun tame => run.isPresent_holder tame may.going may.turn) id
  have known : e.index < m.router.exchanges.size := by
    by_contra unknown
    have sent := may.sent
    rw [Router.exchange_of_size_le (Nat.le_of_not_lt unknown)] at sent
    exact absurd sent (Nat.lt_irrefl 0)
  refine ⟨⟨fun ⟨cs, m', _, sends⟩ => sends.endable may present source, fun endable => ?_⟩,
    run.exists_ending may present, fun m' rejects => run.endable_of_rejects known rejects,
    fun tame consumer => run.pattern_of_consumer tame may consumer⟩
  obtain ⟨cs, m', prepares, sends, -⟩ := run.exists_ending may present endable
  exact ⟨cs, m', prepares, sends⟩

/-- On the provider's turn the client sends the exchange once more, which is rejected, and the
provider can still end it. -/
theorem Run.endable_iff_reached : ∃ h m, Run {} h m ∧ Tame h ∧ m.MayGoOn ⟨0⟩ ⟨0⟩ ∧
    (∃ m', m.Rejects ⟨0⟩ m' ∧ (m'.router.exchange ⟨0⟩).Endable) ∧
    ∃ cs m', (∀ c ∈ cs, c.preparesSend = true) ∧ m.SendsAfter ⟨0⟩ ⟨0⟩ cs m' ∧
      (m'.router.exchange ⟨0⟩).completed = true := by
  obtain ⟨h, m, h', m', p, p', hq⟩ := Path.exists_of_enacts .usual
    (Cue.asking .inOut ++ [.fork, .request 2 (.send ⟨1⟩ ⟨0⟩)]) [.runs 2]
    (fun p p' => p.1.all (fun q => q.1.isTame q.2) && p.2.mayGoOn ⟨0⟩ ⟨0⟩ &&
      (p.2.router.exchange ⟨0⟩).role == .provider &&
      (p.2.router.exchange ⟨0⟩).status == .active && (p.2.router.exchange ⟨0⟩).output.isNone &&
      p.2.isSending 2 &&
      p'.1.all (fun q => q.2.advances 2) &&
      p'.1.all (fun q => decide (1 < (q.1.task 2).frames.length)) &&
      p'.1.all (fun q => (q.1.accepted? ⟨0⟩ q.2).isNone) &&
      decide ((p'.2.task 2).frames.length ≤ 1)) (by rfl)
  simp only [Bool.and_eq_true, List.all_eq_true, beq_iff_eq, Option.isNone_iff_eq_none,
    decide_eq_true_eq] at hq
  obtain ⟨⟨⟨⟨⟨⟨⟨⟨⟨tame, check⟩, provider⟩, active⟩, output⟩, sends⟩, own⟩, under⟩, unsent⟩,
    through⟩ := hq
  have may := Machine.mayGoOn_of_check check
  have endable : (m.router.exchange ⟨0⟩).Endable :=
    ⟨.inl output, (fun _ done => by cases active.symm.trans done),
      (fun consumer => by cases provider.symm.trans consumer)⟩
  have rejects : m.Rejects ⟨0⟩ m' := by
    refine ⟨2, _, ⟨1⟩, _, h', Machine.frames_of_isSending sends, rfl, p',
      fun q hq => ⟨Move.advances_iff.1 (own q hq), under q hq, ?_⟩, through⟩
    rintro ⟨-, a, accepted, -⟩
    cases (unsent q hq).symm.trans accepted
  obtain ⟨-, ends, stays, -⟩ := p.run.endable_iff may (.inl tame)
  exact ⟨h, m, p.run, tame, may, ⟨m', rejects, (stays m' rejects).2 endable⟩, ends endable⟩

/-- The provider has put an answer and a fault on the exchange that it has got: nothing it can do
with the exchange makes its send acceptable. -/
theorem Run.endable_twoReplies : ∃ h m, Run {} h m ∧ Tame h ∧ m.MayGoOn ⟨0⟩ ⟨0⟩ ∧
    ¬∃ cs m', (∀ c ∈ cs, c.preparesSend = true) ∧ m.SendsAfter ⟨0⟩ ⟨0⟩ cs m' := by
  obtain ⟨h, m, p, hq⟩ := Path.exists_of_enact .usual
    (Cue.asking .inOut ++ [.operate (.change ⟨0⟩ (.message .output default)),
      .operate (.change ⟨0⟩ (.message .fault default))])
    (fun p => p.1.all (fun q => q.1.isTame q.2) && p.2.mayGoOn ⟨0⟩ ⟨0⟩ &&
      (p.2.router.exchange ⟨0⟩).output.isSome && (p.2.router.exchange ⟨0⟩).fault.isSome)
    (by rfl)
  simp only [Bool.and_eq_true, List.all_eq_true] at hq
  obtain ⟨⟨⟨tame, check⟩, output⟩, fault⟩ := hq
  have may := Machine.mayGoOn_of_check check
  refine ⟨h, m, p.run, tame, may, fun ⟨cs, m', _, sends⟩ => ?_⟩
  have present := p.run.isPresent_holder tame may.going may.turn
  rcases (sends.endable may present (p.run.source_of_sends may.sent)).oneReply with none | none
  · rw [none] at output
    cases output
  · rw [none] at fault
    cases fault

end Engine

end MessageRouter
