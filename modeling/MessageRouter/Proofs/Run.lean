import MessageRouter.Engine.Step

/-!
# Runs

What may happen to a machine, in any order: a task takes a step, whoever has been called makes a
request or answers, somebody changes the state of the router from outside, a thread of the
application appears, time passes.  A run keeps its history, the latest move first.
-/

namespace MessageRouter.Engine

/-- What is done to the router at once, by anyone and at any time. -/
inductive Operation where
  | create (p : Pattern)
  | change (e : ExchangeId) (c : Exchange.Change)
  | openChannel
  | close (s : SlotId)
  /-- A client drops its channel, which closes it. -/
  | abandon (s : SlotId)
  /-- A client looks into its mailbox. -/
  | take (s : SlotId)
  /-- The owner drops the router. -/
  | disown
  | setStreams (streams : Streams)
  | setWires (wires : List Wire)
  | setListeners (listeners : List Listener)
  | setFlows (flows : List Flow)
  | setAuthorization (authorization : Authorization)

namespace Operation

/-- A channel can only be closed as long as the router is there. -/
def closeIn (alive : Bool) (s : SlotId) (r : Router) : Router :=
  if alive then r.closeChannel s else r

/-- The router after an operation. -/
def apply (alive : Bool) (r : Router) : Operation → Router
  | .create p => (r.addExchange p).2
  | .change e c => (r.change e c).2
  | .openChannel => r.openChannel.2
  | .close s => closeIn alive s r
  | .abandon s => if s ∈ r.allSlots then closeIn alive s (r.modifySlot s Slot.abandon) else r
  | .take s =>
    match (r.slot s).take? with
    | some (_, slot) => r.setSlot s slot
    | none => r
  | .disown => { r with owned := false }
  | .setStreams streams => { r with streams }
  | .setWires wires => { r with wires }
  | .setListeners listeners => { r with listeners }
  | .setFlows flows => { r with flows }
  | .setAuthorization authorization => { r with authorization }

end Operation

/-- What can be asked of the router from inside a call. -/
def Frame.isRequest : Frame → Bool
  | .send .. | .sendSync .. | .deliver .. | .register .. | .unregister .. | .receive .. => true
  | _ => false

/-- A move of a machine. -/
inductive Move where
  | advance (t : Nat)
  | request (t : Nat) (f : Frame)
  | answer (t : Nat) (reply : Reply)
  | operate (o : Operation)
  | fork
  | elapse (duration : Nat)

/-- A thread of the application. -/
def Task.application : Task := { lane := .application, frames := [.call .application] }

namespace Machine

/-- The machine of a new router, on which only the application is at work. -/
def ofRouter (r : Router) : Machine := { router := r, tasks := ⟨[Task.application]⟩ }

/-- The machine after a move; `none` if the move cannot be made. -/
def move? (m : Machine) : Move → Option Machine
  | .advance t => m.advance? t
  | .request t f =>
    if (m.task t).call?.isSome ∧ f.isRequest then some (m.request t f) else none
  | .answer t reply => if (m.task t).call?.isSome then some (m.finish t reply) else none
  | .operate o => some { m with router := o.apply m.routerAlive m.router }
  | .fork => some { m with tasks := (m.tasks.add Task.application).2 }
  | .elapse duration => some { m with now := m.now + duration }

theorem request_of_move {m m' : Machine} {t : Nat} {f : Frame}
    (hm : m.move? (.request t f) = some m') :
    ((m.task t).call?.isSome ∧ f.isRequest) ∧ m.request t f = m' := by
  rwa [move?, Option.ite_none_right_eq_some, Option.some.injEq] at hm

theorem finish_of_move {m m' : Machine} {t : Nat} {reply : Reply}
    (hm : m.move? (.answer t reply) = some m') :
    (m.task t).call?.isSome ∧ m.finish t reply = m' := by
  rwa [move?, Option.ite_none_right_eq_some, Option.some.injEq] at hm

end Machine

/-- The moves made so far, each with the machine that made it. -/
abbrev History := List (Machine × Move)

/-- From `m₀` the moves of a history lead to a machine. -/
inductive Path (m₀ : Machine) : History → Machine → Prop
  | nil : Path m₀ [] m₀
  | cons {h : History} {m m' : Machine} {mv : Move} (p : Path m₀ h m)
    (step : m.move? mv = some m') : Path m₀ ((m, mv) :: h) m'

/-- A path of the machine of a new router. -/
def Run (config : Config) (h : History) (m : Machine) : Prop :=
  ∃ r, Router.start config = .ok r ∧ Path (.ofRouter r) h m

/-- A flow keeps its contract: it has an exchange delivered only to the slot to which it carries
it, at most once, and does not refuse it afterwards. -/
def Machine.isTame (m : Machine) : Move → Bool
  | .request t (.deliver s e) =>
    match (m.task t).call? with
    | some (.carry _ h s' delivered) => s == s' && e == h.exchange && !delivered
    | _ => false
  | .answer t (.refused _) =>
    match (m.task t).call? with
    | some (.carry _ _ _ delivered) => !delivered
    | _ => true
  | _ => true

/-- All flows kept their contract. -/
def Tame (h : History) : Prop := ∀ p ∈ h, p.1.isTame p.2

theorem Tame.tail {q : Machine × Move} {h : History} (tame : Tame (q :: h)) : Tame h :=
  fun p hp => tame p (List.mem_cons_of_mem q hp)

namespace Path

variable {m₀ m₁ m : Machine} {h h' : History}

theorem append (p : Path m₀ h m₁) (q : Path m₁ h' m) : Path m₀ (h' ++ h) m := by
  induction q with
  | nil => exact p
  | cons _ step ih => exact .cons ih step

/-- A move of a history was made where an earlier part of it leads to. -/
theorem before {q : Machine × Move} {h₁ h₂ : History} (p : Path m₀ (h₁ ++ q :: h₂) m) :
    Path m₀ h₂ q.1 := by
  induction h₁ generalizing m with
  | nil =>
    cases p with
    | cons p hm => exact p
  | cons q' h₁ ih =>
    cases p with
    | cons p hm => exact ih p

/-- What holds at first and is kept by every move holds all along. -/
theorem induct {I : Machine → Prop} (p : Path m₀ h m) (start : I m₀)
    (step : ∀ m mv m', I m → m.move? mv = some m' → I m') : I m := by
  induction p with
  | nil => exact start
  | cons _ hm ih => exact step _ _ _ ih hm

end Path

theorem Run.before {config : Config} {q : Machine × Move} {h₁ h₂ : History} {m : Machine}
    (run : Run config (h₁ ++ q :: h₂) m) : Run config h₂ q.1 := by
  obtain ⟨r, hr, p⟩ := run
  exact ⟨r, hr, p.before⟩

theorem Run.append {config : Config} {h₀ h : History} {m m' : Machine} (run : Run config h₀ m)
    (p : Path m h m') : Run config (h ++ h₀) m' := by
  obtain ⟨r, hr, p₀⟩ := run
  exact ⟨r, hr, p₀.append p⟩

end MessageRouter.Engine
