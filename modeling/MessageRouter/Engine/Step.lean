import MessageRouter.Engine.Frame

/-!
# Steps

What each frame does when it is its turn.  A step is what happens at once: between two steps of a
task, other tasks and the world outside the router may act.
-/

namespace MessageRouter.Engine

/-- What comes of a step. -/
inductive Outcome where
  /-- The frame gives way to others, the first of which is next. -/
  | next (frames : List Frame) (r : Router)
  /-- The frame is through. -/
  | through (reply : Reply) (r : Router)
  /-- The frame is through and leaves a task of its own. -/
  | spawn (lane : Lane) (frames : List Frame) (r : Router)
  /-- The frame has to wait. -/
  | blocked

/-- The circumstances of a step. -/
structure Context where
  alive : Bool
  now : Nat
  reply : Reply

namespace Frame

/-- The channel of a slot can be used. -/
def checkChannel (c : Context) (r : Router) (s : SlotId) : Except RouterError Unit :=
  if !c.alive then .error .routerShutdown
  else if !r.isPresent s then .error (.channelClosed s.text)
  else .ok ()

/-- The work of a flow that has been chosen. -/
def carryFrame (f : Flow) (h : Hop) (s : SlotId) : Frame :=
  match f.kind with
  | .straightThrough => .deliver s h.exchange
  | .custom => .call (.carry (f.owner.getD "") h s false)

/-- The slot that was addressed cannot be reached. -/
def unreachable (s : SlotId) : RouterError := .noEndpointAvailable ("endpoint:" ++ s.text)

/-- No candidate took the exchange. -/
def unroutable (target : Reference) (denied : Option String) : RouterError :=
  match denied with
  | some name => .notAuthorized name
  | none => .noEndpointAvailable target.text

/-! ## Steps of a send -/

/-- Marks the sender as waiting and passes the exchange on. -/
def stepMark (r : Router) (s : SlotId) (e : ExchangeId) (timeout : Option Nat) : Outcome :=
  let x := r.exchange e
  if x.status.isTerminal then
    .through (.refused
      (.invalidExchangeState "only an Active exchange can be sent synchronously")) r
  else
    .next [.dispatch s e, .marked e x.role timeout] (r.setExchange e (x.setWaiting x.role true))

/-- Takes the mark back if the send was refused. -/
def stepMarked (c : Context) (r : Router) (e : ExchangeId) (role : Role) (timeout : Option Nat) :
    Outcome :=
  match c.reply with
  | .refused err =>
    .through (.refused err) (r.modifyExchange e fun x => x.setWaiting role false)
  | _ => .next [.waiting e role (timeout.map (c.now + ·))] r

/-- Gives up waiting; a sender whose mark has been taken is owed a token and goes on waiting. -/
def giveUp (r : Router) (e : ExchangeId) (role : Role) : Outcome :=
  let (abandoned, x) := (r.exchange e).takeWaiting role
  let r := r.setExchange e x
  if abandoned then .through (.answer false) r else .next [.waiting e role none] r

def stepWaiting (c : Context) (r : Router) (e : ExchangeId) (role : Role) (deadline : Option Nat) :
    Outcome :=
  let x := r.exchange e
  if x.token.get role then .next [.woken e role] (r.setExchange e (x.setToken role false))
  else if deadline.any (· ≤ c.now) then giveUp r e role
  else .blocked

def stepAccept (r : Router) (s : SlotId) (e : ExchangeId) : Outcome :=
  let x := r.exchange e
  match r.accept e s with
  | (.error err, r) => .through (.refused err) r
  | (.ok (), r) =>
    let h : Hop := ⟨s, e, x.source.isNone, x.status.isTerminal, x.role⟩
    .next [.announce .sent e, .sent h] r

/-- Ends a first send that found no way: the exchange goes back to its source as failed. -/
def returnFailure (r : Router) (h : Hop) (err : RouterError) : Outcome :=
  .next [.announce .failed h.exchange, .hand h.sender h.exchange, .release h.exchange]
    (r.modifyExchange h.exchange fun x =>
      { x.fail (.router err) with role := .provider, completed := true })

/-- Ends a later send that found no way; if its sender waits, nobody else will wake it. -/
def strand (r : Router) (h : Hop) (err : RouterError) : Outcome :=
  let x := r.exchange h.exchange
  let x := if x.status.isTerminal then x else x.fail (.router err)
  let (waits, x) := { x with inTransit := false, completed := true }.takeWaiting h.role
  .next (.announce .failed h.exchange ::
      (if waits then [.wake h.exchange h.role] else []) ++ [.release h.exchange])
    (r.setExchange h.exchange x)

def stepLost (r : Router) (h : Hop) (err : RouterError) : Outcome :=
  if h.first then returnFailure r h err else strand r h err

def stepRouted (c : Context) (r : Router) (h : Hop) : Outcome :=
  match c.reply with
  | .refused err => .next [.lost h err] r
  | _ => if h.terminal then .next [.release h.exchange] r else .through .done r

/-! ## Steps of routing -/

def stepRoute (r : Router) (h : Hop) : Outcome :=
  let x := r.exchange h.exchange
  match x.role, x.destination with
  | .consumer, none =>
    match x.target with
    | some target => .next [.offer h target (r.choose target) none] r
    | none => .next [.lost h (.invalidExchangeState "exchange has no target")] r
  | .consumer, some s => .next [.routeTo h s] r
  | .provider, _ =>
    match x.source with
    | some s => .next [.routeTo h s] r
    | none => .next [.lost h (.invalidExchangeState "exchange has no source")] r

/-- Looks at the next candidate: it has to be available and to admit the exchange. -/
def stepOffer (r : Router) (h : Hop) (target : Reference) (candidates : List SlotId)
    (denied : Option String) : Outcome :=
  match candidates with
  | [] => .next [.lost h (unroutable target denied)] r
  | s :: rest =>
    if !(r.slot s).isAvailable then .next [.offer h target rest denied] r
    else
      let (admitted, r) :=
        if r.config.enforceAuthorization then r.admits h.exchange s else (true, r)
      if admitted then
        .next [.choose h.exchange s r.flows, .offered h target s rest denied] r
      else .next [.offer h target rest (denied <|> some (r.slotName s))] r

def stepOffered (c : Context) (r : Router) (h : Hop) (target : Reference) (s : SlotId)
    (rest : List SlotId) (denied : Option String) : Outcome :=
  match c.reply with
  | .chosen (some f) =>
    let (pinned, r) := r.pin h.exchange s
    if pinned then .next [carryFrame f h s, .routed h] r
    else .next [.offer h target rest denied] r
  | _ => .next [.offer h target rest denied] r

def stepReaching (c : Context) (r : Router) (h : Hop) (s : SlotId) : Outcome :=
  match c.reply with
  | .chosen (some f) => .next [carryFrame f h s, .routed h] r
  | _ => .next [.lost h (unreachable s)] r

def stepChoose (r : Router) (e : ExchangeId) (s : SlotId) : List Flow → Outcome
  | [] => .through (.chosen none) r
  | f :: rest =>
    match f.kind with
    | .straightThrough => .through (.chosen (some f)) r
    | .custom => .next [.call (.accepts (f.owner.getD "") e s), .asking e s f rest] r

def stepAsking (c : Context) (r : Router) (e : ExchangeId) (s : SlotId) (f : Flow)
    (rest : List Flow) : Outcome :=
  match c.reply with
  | .answer true => .through (.chosen (some f)) r
  | _ => .next [.choose e s rest] r

/-! ## Steps of a delivery -/

/-- Hands the exchange to the other party if it waits, and to the slot's owner otherwise. -/
def stepHand (r : Router) (s : SlotId) (e : ExchangeId) : Outcome :=
  let x := r.exchange e
  let sender := x.role
  let (answered, x) := x.takeWaiting sender.opposite
  if answered then
    .next [.announce .delivered e, .wake e sender.opposite]
      (r.setExchange e { x with inTransit := false })
  else
    let r := r.setExchange e x
    if (r.slot s).deliversInline || r.config.syncDelivery then .next [.process s e] r
    else .spawn (if x.waiting.get sender then .handoff else .pool) [.process s e] r

/-- Turns the exchange over to the receiver. -/
def stepProcess (r : Router) (s : SlotId) (e : ExchangeId) : Outcome :=
  let x := r.exchange e
  .next [.announce .delivered e, .enter s e x.sends]
    (r.setExchange e { x with role := x.role.opposite, inTransit := false })

def stepEnter (r : Router) (s : SlotId) (e : ExchangeId) (sends : Nat) : Outcome :=
  match (r.slot s).owner with
  | .endpoint name => .next [.call (.process name s e), .handle s e sends] r
  | .client .. =>
    match (r.slot s).post? e with
    | some slot => .through .done (r.setSlot s slot)
    | none =>
      let f := Failure.other "client channel is no longer receiving"
      .next [.yields (.failed f), .handle s e sends] r

/-- Answers with the failure of an endpoint, unless the endpoint has passed the exchange on. -/
def stepHandle (c : Context) (r : Router) (s : SlotId) (e : ExchangeId) (sends : Nat) : Outcome :=
  match c.reply with
  | .failed f =>
    let x := r.exchange e
    if x.sends = sends ∧ x.inTransit = false ∧ x.status = .active then
      .next [.announce .failed e, .dispatch s e, .yields .done] (r.setExchange e (x.fail f))
    else .through .done r
  | _ => .through .done r

/-! ## Steps of a registration -/

def stepRegister (r : Router) (name : String) (properties : Properties) : Outcome :=
  match r.registry.find? name with
  | some g =>
    .next [.announceSlot .registered g.slot, .yields (.slot g.slot)]
      (r.modifySlot g.slot fun slot => { slot with properties })
  | none =>
    let (g, r) := r.reserve name properties
    .next [.call (.bind name g.slot), .bound name g] r

def stepBound (r : Router) (name : String) (g : Registration) : Outcome :=
  let (confirmed, registry) := r.registry.confirm name g
  let r := { r with registry }
  if confirmed then .next [.announceSlot .registered g.slot, .yields (.slot g.slot)] r
  else .through (.slot g.slot) r

def stepUnregister (r : Router) (name : String) : Outcome :=
  match r.unregister name with
  | some (s, r) => .next [.announceSlot .unregistered s, .yields (.answer true)] r
  | none => .through (.answer false) r

/-! ## Steps of a client -/

def stepReceive (c : Context) (r : Router) (s : SlotId) (deadline : Nat) : Outcome :=
  match (r.slot s).take? with
  | some (e, slot) => .through (.received (some e)) (r.setSlot s slot)
  | none =>
    if deadline ≤ c.now ∨ !c.alive ∨ !r.isPresent s then .through (.received none) r else .blocked

/-! ## All steps -/

/-- The listeners that hear of exchanges, or of endpoints. -/
def hearing (r : Router) (hears : Listener → Bool) : List String :=
  (r.listeners.filter hears).map (·.name)

/-- The step of a frame. -/
def step (c : Context) (r : Router) : Frame → Outcome
  | .call _ => .blocked
  | .yields reply => .through reply r
  | .announce event e => .next [.notify event e (hearing r Listener.hearsExchanges)] r
  | .notify _ _ [] => .through .done r
  | .notify event e (l :: ls) => .next [.call (.exchangeEvent l event e), .notify event e ls] r
  | .announceSlot event s => .next [.notifySlot event s (hearing r Listener.hearsEndpoints)] r
  | .notifySlot _ _ [] => .through .done r
  | .notifySlot event s (l :: ls) => .next [.call (.slotEvent l event s), .notifySlot event s ls] r
  | .send s e =>
    match checkChannel c r s with
    | .ok () => .next [.dispatch s e] r
    | .error err => .through (.refused err) r
  | .sendSync s e timeout =>
    match checkChannel c r s with
    | .ok () => .next [.mark s e timeout] r
    | .error err => .through (.refused err) r
  | .mark s e timeout => stepMark r s e timeout
  | .marked e role timeout => stepMarked c r e role timeout
  | .waiting e role deadline => stepWaiting c r e role deadline
  | .woken e role => .through (.answer true) (r.modifyExchange e fun x => { x with role })
  | .dispatch s e =>
    if (r.slot s).closed then .through (.refused (.channelClosed s.text)) r
    else .next [.accept s e] r
  | .accept s e => stepAccept r s e
  | .sent h => .next [.route h] r
  | .routed h => stepRouted c r h
  | .lost h err => stepLost r h err
  | .release e => .through .done (r.releasePins e)
  | .wake e role => .through .done (r.modifyExchange e fun x => x.setToken role true)
  | .route h => stepRoute r h
  | .offer h target candidates denied => stepOffer r h target candidates denied
  | .offered h target s rest denied => stepOffered c r h target s rest denied
  | .routeTo h s =>
    if r.isPresent s then .next [.choose h.exchange s r.flows, .reaching h s] r
    else .next [.lost h (unreachable s)] r
  | .reaching h s => stepReaching c r h s
  | .choose e s flows => stepChoose r e s flows
  | .asking e s f rest => stepAsking c r e s f rest
  | .deliver s e =>
    if c.alive then .next [.hand s e] r else .through (.refused .routerShutdown) r
  | .hand s e => stepHand r s e
  | .process s e => stepProcess r s e
  | .enter s e sends => stepEnter r s e sends
  | .handle s e sends => stepHandle c r s e sends
  | .register name properties => stepRegister r name properties
  | .bound name g => stepBound r name g
  | .unregister name => stepUnregister r name
  | .receive s deadline => stepReceive c r s deadline

end Frame

namespace Machine

/-- The machine after a step of a task; `none` if the task is through or has to wait. -/
def advance? (m : Machine) (t : Nat) : Option Machine :=
  let task := m.task t
  match task.frames with
  | [] => none
  | f :: rest =>
    match f.step ⟨m.routerAlive, m.now, task.reply⟩ m.router with
    | .blocked => none
    | .next frames router =>
      some ({ m with router }.setTask t
        { task with frames := frames ++ rest, reply := .done, started := true })
    | .through reply router =>
      some ({ m with router }.setTask t { task with frames := rest, reply, started := true })
    | .spawn lane frames router =>
      let m := { m with router }.setTask t
        { task with frames := rest, reply := .done, started := true }
      some { m with tasks := (m.tasks.add { lane := lane, frames := frames }).2 }

/-- Someone outside the router calls it back on a task. -/
def request (m : Machine) (t : Nat) (f : Frame) : Machine :=
  let task := m.task t
  m.setTask t { task with frames := f :: task.frames.modifyHead f.note, reply := .done }

/-- Someone outside the router is through with a call. -/
def finish (m : Machine) (t : Nat) (reply : Reply) : Machine :=
  let task := m.task t
  m.setTask t { task with frames := task.frames.tail, reply }

end Machine

end MessageRouter.Engine
