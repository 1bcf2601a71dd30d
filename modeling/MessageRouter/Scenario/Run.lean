import MessageRouter.Scenario.Agent

/-!
# Running a scenario

Tasks run one at a time, each as far as it gets, the application first.  Time passes only when
nobody can go on.  After each step of the application everything comes to rest before the next
one begins.
-/

namespace MessageRouter.Scenario

open Engine

namespace World

/-- A delivery needs a thread of the pool before it can start. -/
def hasThread (w : World) (t : Nat) : Bool :=
  let task := w.machine.task t
  task.lane != .pool || task.started || w.machine.poolInUse < w.router.config.executorThreads

/-- Lets a task take a step of its own or of the program that it calls. -/
def step? (w : World) (t : Nat) : Option World :=
  match (w.machine.task t).call? with
  | some call => w.turn? t call
  | none =>
    if w.hasThread t then (w.machine.advance? t).map fun machine => { w with machine } else none

/-- The first task that can go on takes a step, beginning with the one that went on last. -/
def stepAny? (w : World) (last : Nat) : Option (Nat × World) :=
  let others := w.machine.tasks.indices.filter (· != last)
  (last :: others).findSome? fun t => (w.step? t).map (t, ·)

/-- Lets everybody go on as far as they get; each step takes one from `fuel`. -/
def runAll : Nat → Nat → World → World
  | 0, _, w => w
  | fuel + 1, last, w =>
    match w.stepAny? last with
    | some (t, w) => runAll fuel t w
    | none => w

/-- How many deliveries are not through. -/
def unfinished (w : World) : Nat := w.machine.tasks.rows.tail.countP (!·.isFinished)

/-- The next moment for which somebody waits. -/
def nextMoment? (w : World) : Option Nat :=
  (w.machine.tasks.rows.filterMap Task.deadline?).min?

/-- Lets everybody go on and time pass until the application has its result and no more than
`blocked` deliveries wait; each moment takes one from `fuel`. -/
def runToRest (blocked : Nat) : Nat → World → World
  | 0, w => w
  | fuel + 1, w =>
    let w := w.runAll stepLimit 0
    if w.result.isSome ∧ w.unfinished ≤ blocked then w
    else
      match w.nextMoment? with
      | some now => runToRest blocked fuel { w with machine := { w.machine with now } }
      | none => w
where
  /-- More steps than any scenario takes between two moments. -/
  stepLimit : Nat := 1000000

/-! ## The transcript -/

/-- The log of a step: in order, or by key if deliveries have tasks of their own. -/
def logView (w : World) : Json :=
  let entries := w.log.reverse
  if w.router.config.syncDelivery then .arr (entries.map (·.2))
  else
    let keys := entries.map (·.1) |>.eraseDups
    Json.mkObj (keys.map fun k => (k, .arr ((entries.filter (·.1 == k)).map (·.2))))

/-- What is told after a step. -/
def stepView (w : World) (s : Action) : Json :=
  let slots := if w.router.owned then Json.ofNat w.router.slotCount else .null
  let log := if w.log.isEmpty then [] else [("ev", w.logView)]
  let shown := match s.shown.bind w.exchanges.get? with
    | some e => [("ex", relabel w.labels (w.exchangeView e))]
    | none => []
  Json.mkObj ([("r", w.result.getD .null), ("slots", slots)] ++ log ++ shown)

/-- Takes a step of the application and lets everything come to rest. -/
def takeActionOf (w : World) (s : Action) : Json × World :=
  let agent := ((w.agentsOf 0).head?).getD { call := .application }
  let w := { w with log := [], result := none }.setAgent 0 { agent with program := [s] }
  let w := runToRest s.leaveBlocked 10000 w
  (w.stepView s, w)

/-- The world before the first step. -/
def start (r : Router) : World :=
  { machine := {
      router := r
      tasks := ⟨[{ lane := .application, frames := [.call .application] }]⟩ }
    agents := ⟨[[{ call := .application }]]⟩ }

end World

/-- What is told after each step of a scenario. -/
def transcript : List Action → World → List Json
  | [], _ => []
  | s :: rest, w =>
    let (told, w) := w.takeActionOf s
    told :: transcript rest w

/-- Runs a scenario on a new router. -/
def run (config : Config) (steps : List Action) : Except RouterError (List Json) := do
  let r ← Router.start config
  return transcript steps (World.start r)

end MessageRouter.Scenario
