import MessageRouter.Scenario.Perform

/-!
# Programs

The programs of endpoints, listeners and flows: what they log when they are called, how their
steps follow each other, and what they answer in the end.
-/

namespace MessageRouter.Scenario

open Engine

namespace World

/-- The programs of a task, the innermost first. -/
def agentsOf (w : World) (t : Nat) : List Agent := w.agents.get t

def setAgents (w : World) (t : Nat) (agents : List Agent) : World :=
  { w with agents := w.agents.set t agents }

def pushAgent (w : World) (t : Nat) (a : Agent) : World := w.setAgents t (a :: w.agentsOf t)

/-- Replaces the innermost program of a task. -/
def setAgent (w : World) (t : Nat) (a : Agent) : World := w.setAgents t (a :: (w.agentsOf t).tail)

/-- Ends the innermost program of a task. -/
def endAgent (w : World) (t : Nat) (reply : Reply) : World :=
  { w.setAgents t (w.agentsOf t).tail with machine := w.machine.finish t reply }

/-! ## Calls -/

/-- An exchange in the log: its label, status and role. -/
def exchangeItems (w : World) (e : ExchangeId) : List Json :=
  let x := w.router.exchange e
  [.str (w.exchangeLabel e), .str x.status.name, .str x.role.name]

/-- A flow's decision about a slot. -/
def accepts (w : World) (f : FlowScript Action) (e : ExchangeId) (s : SlotId) : Bool :=
  let slot := w.router.slot s
  let x := w.router.exchange e
  (f.orClient && slot.isClient) ||
  match f.rule with
  | .all => true
  | .none => false
  | .client => slot.isClient
  | .notClient => !slot.isClient
  | .property key value => slot.properties.get? key = some value
  | .pattern p => x.pattern = p
  | .status s => x.status = s

def beginProcess (w : World) (t : Nat) (call : Call) (name : String) (e : ExchangeId) : World :=
  let script := (w.endpoints.get? name).getD {}
  let status := (w.router.exchange e).status
  let key := name ++ " " ++ w.exchangeLabel e ++ " " ++ status.name
  let program := if status = .active then script.active else script.terminal
  (w.record key (.str "process" :: .str name :: w.exchangeItems e)).pushAgent t
    { call := call, program := program, key := key }

/-- An endpoint is given its channel; its slot has a label from now on. -/
def beginBind (w : World) (t : Nat) (call : Call) (name : String) (s : SlotId) : World :=
  let script := (w.endpoints.get? name).getD {}
  let w := { w with bindings := w.bindings.insert name s }.labelSlot s ("ep:" ++ name)
  (w.record "registry" [.str "set_channel", .str name, .str (w.slotLabel s)]).pushAgent t
    { call, program := script.bind, key := "registry" }

/-- A listener hears of something; a deaf one takes no notice. -/
def beginEvent (w : World) (t : Nat) (call : Call) (name event key : String)
    (items : List Json) : World :=
  let script := (w.listeners.get? name).getD {}
  if script.deaf then w.pushAgent t { call := call, key := key }
  else
    let answer : Reply :=
      if script.panics.contains event then .failed (.other "listener panicked") else .done
    (w.record key (.str name :: .str event :: items)).pushAgent t
      { call, program := (script.on.lookup event).getD [], answer, key }

def beginAccepts (w : World) (t : Nat) (call : Call) (name : String) (e : ExchangeId)
    (s : SlotId) : World :=
  let script := (w.flows.get? name).getD {}
  let b := w.accepts script e s
  let items := [.str "flow", .str name, .str "can", .str (w.slotLabel s), .bool b]
  (w.record "flow" items).pushAgent t
    { call, program := script.onAsked, answer := .answer b, key := "flow" }

/-- A flow delivers the exchange at once, or does without. -/
def beginCarry (w : World) (t : Nat) (call : Call) (name : String) (e : ExchangeId)
    (s : SlotId) : World :=
  let script := (w.flows.get? name).getD {}
  let w := w.record "flow" [.str "flow", .str name, .str "dispatch", .str (w.slotLabel s)]
  let delivering (a : Agent) : World :=
    let w := w.pushAgent t { a with awaited := some .delivery }
    { w with machine := w.machine.request t (.deliver s e) }
  match script.carry with
  | .deliver => delivering { call := call }
  | .drop => w.pushAgent t { call := call }
  | .fail err => w.pushAgent t { call, answer := .refused err }
  | .deliverAndFail err => delivering { call, answer := .refused err }

/-- Starts the program that a call is for. -/
def begin (w : World) (t : Nat) (call : Call) : World :=
  match call with
  | .application => w.pushAgent t { call := call }
  | .process name _ e => w.beginProcess t call name e
  | .bind name s => w.beginBind t call name s
  | .exchangeEvent name event e =>
    w.beginEvent t call name event.name (name ++ " " ++ w.exchangeLabel e) (w.exchangeItems e)
  | .slotEvent name event s =>
    let slot := w.router.slot s
    w.beginEvent t call name event.name "registry" [.str (slot.text s), .bool slot.retired]
  | .accepts name e s => w.beginAccepts t call name e s
  | .carry name h s _ => w.beginCarry t call name h.exchange s

/-! ## Steps -/

/-- Whose program it is, for the log. -/
def ownerName : Call → String
  | .application => ""
  | .process name .. | .bind name _ | .exchangeEvent name .. | .slotEvent name ..
  | .accepts name .. | .carry name .. => name

def isProcess : Call → Bool
  | .process .. => true
  | _ => false

/-- Ends a program whose endpoint failed. -/
def failAgent (w : World) (t : Nat) (a : Agent) (f : Failure) : World :=
  (w.record a.key [.str "return", .str (ownerName a.call), .str "error"]).endAgent t (.failed f)

/-- Takes down the result of a step; an endpoint's program ends with the first failure. -/
def conclude (w : World) (t : Nat) (a : Agent) (s : Action) (result : Except Failure Json) :
    World :=
  let j := resultView Failure.view result
  let a := { a with awaited := none }
  match a.call with
  | .application => { w with result := some (relabel w.labels j) }.setAgent t a
  | call =>
    let w := w.record a.key [.str "step", .str (ownerName call), .str s.word, j]
    match result with
    | .error f =>
      if isProcess call && !s.ignored then w.failAgent t a f else w.setAgent t a
    | .ok _ => w.setAgent t a

/-- An endpoint that panics fails with what it had to say. -/
def panicAgent (w : World) (t : Nat) (a : Agent) (message : String) : World :=
  let w := w.record a.key [.str "panic", .str (ownerName a.call)]
  w.endAgent t (.failed (.other ("endpoint panicked: " ++ message)))

/-- Begins the next step of a program. -/
def takeStep (w : World) (t : Nat) (a : Agent) (s : Action) (rest : List Action) : World :=
  let a := { a with program := rest }
  match s.command with
  | .panic message => w.panicAgent t a message
  | command =>
    match w.perform a command with
    | .now result w => w.conclude t a s result
    | .later f handle w =>
      let w := w.setAgent t { a with awaited := some (.step s handle) }
      { w with machine := w.machine.request t f }

/-- Ends a program that is through. -/
def closeAgent (w : World) (t : Nat) (a : Agent) : World :=
  let w := if isProcess a.call then
      w.record a.key [.str "return", .str (ownerName a.call), .str "ok"]
    else w
  w.endAgent t a.answer

/-- Goes on after the step that was under way; a channel may be given up with it. -/
def resume (w : World) (t : Nat) (a : Agent) (s : Action) (handle : Option Handle) : World :=
  let result := w.settle s.command (w.machine.task t).reply
  let w := w.setAgent t { a with awaited := none }
  let w := match handle with
    | some h => w.settleHandle h
    | none => w
  w.conclude t a s result

/-- Lets the program at the top of a task go on; `none` if the application has nothing to do. -/
def turn? (w : World) (t : Nat) (call : Call) : Option World :=
  let agents := w.agentsOf t
  match agents with
  | [] => some (w.begin t call)
  | a :: _ =>
    if agents.length < (w.machine.task t).callDepth then some (w.begin t call)
    else
      match a.awaited, a.program with
      | some (.step s handle), _ => some (w.resume t a s handle)
      | some .delivery, _ =>
        let reply := match a.answer with
          | .done => (w.machine.task t).reply
          | answer => answer
        some (w.endAgent t reply)
      | none, s :: rest => some (w.takeStep t a s rest)
      | none, [] =>
        match a.call with
        | .application => none
        | _ => some (w.closeAgent t a)

end World

end MessageRouter.Scenario
