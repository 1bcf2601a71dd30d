import MessageRouter.Scenario.World

/-!
# Steps of a scenario

What each step does.  Most have their result at once; a send, a registration and whatever else
calls programs back becomes a frame on the task of the program, and the reply of that frame is
turned into the result of the step.
-/

namespace MessageRouter.Scenario

open Engine

/-- What comes of a step. -/
inductive Effect where
  /-- The step has its result. -/
  | now (result : Except Failure Json) (w : World)
  /-- The step is under way, and may be using a channel. -/
  | later (f : Frame) (handle : Option Handle) (w : World)

namespace World

/-- A step that ends the moment it begins. -/
def give (w : World) (j : Json) : Effect := .now (.ok j) w

def refuse (w : World) (f : Failure) : Effect := .now (.error f) w

/-- Goes on with a value, or fails for the lack of it. -/
def need {α : Type} (w : World) (v : Option α) (lack : String) (f : α → Effect) : Effect :=
  match v with
  | some v => f v
  | none => w.refuse (.other lack)

def needExchange (w : World) (a : Agent) (e : ExchangeRef) (f : ExchangeId → Effect) : Effect :=
  w.need (w.exchange? a e) "no such exchange" f

def needChannel (w : World) (a : Agent) (ch : ChannelRef) (f : Handle → Effect) : Effect :=
  w.need (w.channel? a ch) "no such channel" f

/-- Goes on with the router, as long as the application holds it. -/
def needRouter (w : World) (f : Router → Effect) : Effect :=
  match w.held with
  | .ok r => f r
  | .error e => w.refuse e

/-- Goes on with a value, or fails with the error in its place. -/
def attempt {α : Type} (w : World) (v : Except Failure α) (f : α → Effect) : Effect :=
  match v with
  | .ok v => f v
  | .error e => w.refuse e

/-! ## Exchanges -/

/-- Changes an exchange and answers with what `view` makes of its state before. -/
def changing (w : World) (a : Agent) (e : ExchangeRef) (c : Exchange.Change)
    (view : Exchange → Json) : Effect :=
  w.needExchange a e fun e =>
    let before := w.router.exchange e
    match w.router.change e c with
    | (.ok (), r) => (w.setRouter r).give (view before)
    | (.error err, _) => w.refuse (.router err)

def change (w : World) (a : Agent) (e : ExchangeRef) (c : Exchange.Change) : Effect :=
  w.changing a e c fun _ => Json.ok

/-- Makes a message. -/
def draw (w : World) (d : MessageDraft) : Message × World :=
  let (m, streams) := d.make w.router.streams
  (m, w.setRouter { w.router with streams })

/-- Makes an exchange under a name. -/
def create (w : World) (name : String) (p : Pattern) : World :=
  let (e, r) := w.router.addExchange p
  { w.setRouter r with exchanges := w.exchanges.insert name e }.labelExchange e ("ex:" ++ name)

/-- Makes an exchange that is ready to be sent. -/
def request (w : World) (a : Agent) (name : String) (p : Pattern) (target : TargetRef)
    (d : MessageDraft) : Effect :=
  let w := w.create name p
  match w.target target with
  | .error f => w.refuse f
  | .ok target =>
    match w.change a (.named name) (.target target) with
    | .now (.ok _) w =>
      let (m, w) := w.draw d
      w.change a (.named name) (.message .input m)
    | effect => effect

/-- The In message's body becomes that of the Out message. -/
def echo (w : World) (a : Agent) (e : ExchangeRef) : Effect :=
  w.needExchange a e fun id =>
    let body := ((w.router.exchange id).input.map (·.body)).getD .empty
    w.change a e (.message .output { body := body })

/-- The Out message of one exchange becomes that of another. -/
def relay (w : World) (a : Agent) (e source : ExchangeRef) : Effect :=
  w.needExchange a source fun id =>
    w.need (w.router.exchange id).output "no Out to relay" fun m =>
      w.change a e (.message .output m)

/-- Displays an exchange; showing it in full reads its streams. -/
def display (w : World) (e : ExchangeId) (full : Bool) : Effect :=
  let (text, streams) := (w.router.exchange e).display e full w.router.streams
  (w.setRouter { w.router with streams }).give (.str text)

def ensure (w : World) (e : ExchangeId) : Effect :=
  let (r, streams) := (w.router.exchange e).ensureReadable w.router.streams
  .now ((r.map fun _ => Json.ok).mapError .stream) (w.setRouter { w.router with streams })

/-! ## Channels -/

def openChannel (w : World) (name : String) : Effect :=
  w.needRouter fun r =>
    let (s, r) := r.openChannel
    ((w.setRouter r).labelSlot s ("ch:" ++ name)).nameChannel name ⟨s, true⟩ |>.give Json.ok

def dropChannel (w : World) (name : String) : Effect :=
  match w.channels.get? name with
  | some h =>
    let w := { w with channels := w.channels.erase name }
    (w.settleHandle h).give (.bool true)
  | none => w.give (.bool false)

def tryReceive (w : World) (h : Handle) : Effect :=
  match h.isClient, (w.router.slot h.slot).take? with
  | true, some (e, slot) =>
    (w.setRouter (w.router.setSlot h.slot slot)).give (.str (w.exchangeLabel e))
  | _, _ => w.give .null

/-- Only a client's channel has a mailbox. -/
def receive (w : World) (h : Handle) (timeout : Nat) : Effect :=
  if h.isClient then .later (.receive h.slot (w.machine.now + timeout)) (some h) w
  else w.give .null

def close (w : World) (h : Handle) : Effect :=
  (if w.machine.routerAlive then w.setRouter (w.router.closeChannel h.slot) else w).give Json.ok

def isClosed (w : World) (h : Handle) : Effect :=
  w.give (.bool (!w.machine.routerAlive || w.router.isClosed h.slot))

def channelDebug (w : World) (h : Handle) : Effect :=
  w.give (.str ("Channel \x7b id: EndpointId(" ++ h.slot.text ++ "), client: " ++
    toString h.isClient ++ " \x7d"))

/-! ## Registrations -/

/-- Registers an endpoint, whose programs are those of its first mention. -/
def register (w : World) (name : String) (properties : Properties)
    (script : EndpointScript Action) : Effect :=
  w.needRouter fun _ =>
    let script := (w.endpoints.get? name).getD script
    .later (.register name properties) none
      { w with endpoints := w.endpoints.insert name script }

def registryView (r : Router) : Json := Json.mkObj [
  ("len", Json.ofNat r.registry.order.length),
  ("empty", .bool r.registry.order.isEmpty),
  ("slots", Json.ofNat r.slotCount)]

def chooseView (w : World) (found : List SlotId) : Json :=
  Json.mkObj [("len", Json.ofNat found.length), ("found", w.slotTexts found)]

def hold (w : World) (label : String) : Effect :=
  w.needRouter fun r =>
    match w.slotLabelled? label with
    | some s =>
      if r.isPresent s then { w with holds := w.holds.insert label s }.give (.bool true)
      else w.give (.bool false)
    | none => w.give (.bool false)

def releaseHold (w : World) (label : String) : Effect :=
  { w with holds := w.holds.erase label }.give (.bool (w.holds.contains label))

/-! ## Listeners and flows -/

/-- Registers a listener, whose programs are those of its first mention. -/
def listen (w : World) (name : String) (properties : Properties)
    (script : ListenerScript Action) : Effect :=
  w.needRouter fun r =>
    let script := (w.listeners.get? name).getD script
    let l : Listener := {
      name, properties
      hearsEndpoints := script.hearsEndpoints || script.deaf
      hearsExchanges := script.hearsExchanges || script.deaf }
    let w := { w with listeners := w.listeners.insert name script }
    (w.setRouter { r with listeners := l.register r.listeners }).give Json.ok

def listenersView (r : Router) : Json :=
  let names (hears : Listener → Bool) : Json :=
    Json.texts ((r.listeners.filter hears).map (·.name))
  Json.mkObj [
    ("endpoint", names Listener.hearsEndpoints), ("exchange", names Listener.hearsExchanges),
    ("len", Json.ofNat r.listeners.length), ("empty", .bool r.listeners.isEmpty)]

/-- Registers a flow, whose rules are those of its first mention. -/
def addFlow (w : World) (name : String) (properties : Properties)
    (script : FlowScript Action) : Effect :=
  w.needRouter fun r =>
    let script := (w.flows.get? name).getD script
    let w := { w with flows := w.flows.insert name script }
    let f : Flow := ⟨some name, script.kind, properties⟩
    (w.setRouter { r with flows := r.flows ++ [f] }).give Json.ok

def flowsView (r : Router) : Json := Json.mkObj [
  ("names", Json.texts (r.flows.map Flow.name)),
  ("len", Json.ofNat r.flows.length), ("empty", .bool r.flows.isEmpty)]

/-! ## Authorization -/

/-- Puts a rule in force; a rule stays as it was at its first mention. -/
def allow (w : World) (name : String) (rule : AccessRule) : Effect :=
  w.needRouter fun r =>
    let rule := (w.rules.get? name).getD rule
    let w := { w with rules := w.rules.insert name rule }
    match r.authorization.register name rule with
    | .ok authorization => (w.setRouter { r with authorization }).give Json.ok
    | .error e => w.refuse (.router e)

def accessList (w : World) (key : AccessKey) : Effect :=
  w.needRouter fun r =>
    let (list, authorization) := r.authorization.accessList key
    (w.setRouter { r with authorization }).give list.toJson

def isAuthorized (w : World) (key : AccessKey) (subject : Option PrincipalSet) : Effect :=
  w.needRouter fun r =>
    let (allowed, authorization) := r.authorization.isAuthorized key subject
    (w.setRouter { r with authorization }).give (.bool allowed)

/-- The router's answer to a question about its state. -/
def ask (w : World) (f : Router → Json) : Effect := w.needRouter fun r => w.give (f r)

/-- Changes the router and answers whether there was something to change. -/
def alter (w : World) (f : Router → Bool × Router) : Effect :=
  w.needRouter fun r =>
    let (found, r) := f r
    (w.setRouter r).give (.bool found)

def propertiesView (p : Option Properties) : Json := (p.map Properties.toJson).getD .null

/-! ## All steps -/

/-- Begins a step of a program. -/
def perform (w : World) (a : Agent) : Command → Effect
  | .create name ch p => w.needChannel a ch fun _ => (w.create name p).give Json.ok
  | .request name ch p target d => w.needChannel a ch fun _ => w.request a name p target d
  | .setTarget e target =>
    w.needExchange a e fun _ => w.attempt (w.target target) fun t => w.change a e (.target t)
  | .setMessage e slot d =>
    let (m, w) := w.draw d
    w.change a e (.message slot m)
  | .echo e => w.echo a e
  | .relay e source => w.relay a e source
  | .setStatus e s => w.change a e (.status s)
  | .setError e f => w.change a e (.error f)
  | .setOperation e q => w.change a e (.operation q)
  | .setProperty e name value => w.change a e (.property name value)
  | .removeProperty e name =>
    w.changing a e (.withoutProperty name) fun x => (x.properties.get? name).getD .null
  | .property e name =>
    w.needExchange a e fun e =>
      w.give (((w.router.exchange e).properties.get? name).getD .null)
  | .message e slot =>
    w.needExchange a e fun e =>
      w.give ((((w.router.exchange e).message slot).map (·.view w.router.streams)).getD .null)
  | .ensure e => w.needExchange a e w.ensure
  | .display e full => w.needExchange a e fun e => w.display e full
  | .state e => w.needExchange a e fun e => w.give (w.exchangeView e)
  | .same e other =>
    w.needExchange a e fun e => w.needExchange a other fun other => w.give (.bool (e = other))
  | .exchangeDebug e =>
    w.needExchange a e fun e => w.give (.str ((w.router.exchange e).quotedText e))
  | .channel name => w.openChannel name
  | .cloneChannel ch copy => w.needChannel a ch fun h => (w.nameChannel copy h).give Json.ok
  | .dropChannel name => w.dropChannel name
  | .send ch e =>
    w.needChannel a ch fun h => w.needExchange a e fun e =>
      .later (.send h.slot e) (some h) w
  | .sendSync ch e timeout =>
    w.needChannel a ch fun h => w.needExchange a e fun e =>
      .later (.sendSync h.slot e timeout) (some h) w
  | .tryReceive ch => w.needChannel a ch w.tryReceive
  | .receive ch timeout => w.needChannel a ch fun h => w.receive h timeout
  | .close ch => w.needChannel a ch w.close
  | .isClosed ch => w.needChannel a ch w.isClosed
  | .channelDebug ch => w.needChannel a ch w.channelDebug
  | .register name properties script => w.register name properties script
  | .unregister name => w.needRouter fun _ => .later (.unregister name) none w
  | .endpointProperties name => w.ask fun r => propertiesView (r.endpointProperties? name)
  | .idOf name =>
    w.ask fun r => Json.text? ((r.registry.find? name).map fun g => w.slotLabel g.slot)
  | .query properties => w.ask fun r => w.slotTexts (r.query properties)
  | .queryFilter expression =>
    w.needRouter fun r =>
      w.attempt ((Filter.parse expression).mapError .router) fun f =>
        w.give (w.slotTexts (r.queryFilter f))
  | .choose target =>
    w.needRouter fun r => w.attempt (w.target target) fun t => w.give (w.chooseView (r.choose t))
  | .endpoints => w.ask fun r => w.slotTexts (r.select fun _ => true)
  | .registry => w.ask registryView
  | .slots => w.ask fun _ => .arr (w.slotLabels.map fun (s, l) => .arr [.str l, w.slotView s])
  | .routerDebug => w.ask fun r => .str r.quotedText
  | .config => w.ask fun r => r.config.toJson
  | .wire wire =>
    w.needRouter fun r => (w.setRouter { r with wires := r.wires ++ [wire] }).give Json.ok
  | .unwire wire =>
    w.alter fun r =>
      let (found, wires) := wire.remove r.wires
      (found, { r with wires })
  | .wires => w.ask fun r => .arr (r.wires.map Wire.view)
  | .resolve query => w.ask fun r => (Wire.resolve r.wires query).toJson
  | .hold label => w.hold label
  | .releaseHold label => w.releaseHold label
  | .deliver label e =>
    w.need (w.holds.get? label) "no such slot" fun s => w.needExchange a e fun e =>
      .later (.deliver s e) none w
  | .listen name properties script => w.listen name properties script
  | .unlisten name =>
    w.alter fun r =>
      let (found, listeners) := Listener.unregister name r.listeners
      (found, { r with listeners })
  | .listenerProperties name =>
    w.ask fun r => propertiesView ((r.listeners.find? (·.name == name)).map (·.properties))
  | .listeners => w.ask listenersView
  | .flow name properties script => w.addFlow name properties script
  | .unflow name =>
    w.alter fun r =>
      let (found, flows) := Flow.unregister name r.flows
      (found, { r with flows })
  | .flowProperties name =>
    w.ask fun r => propertiesView ((r.flows.find? (·.owner == some name)).map (·.properties))
  | .flows => w.ask flowsView
  | .allow name rule => w.allow name rule
  | .disallow name =>
    w.alter fun r =>
      let (found, authorization) := r.authorization.unregister name
      (found, { r with authorization })
  | .rules => w.ask fun r => .arr (r.authorization.rules.map AccessRule.view)
  | .accessList key => w.accessList key
  | .isAuthorized key subject => w.isAuthorized key subject
  | .dropRouter => (w.setRouter { w.router with owned := false }).give (.bool w.router.owned)
  | .fail text => w.refuse (.other text)
  | .panic message => w.refuse (.other message)

/-- The result of a step that was under way. -/
def settle (w : World) (c : Command) (reply : Reply) : Except Failure Json :=
  match reply with
  | .done => .ok Json.ok
  | .refused e => .error (.router e)
  | .failed f => .error f
  | .answer b => .ok (.bool b)
  | .chosen _ => .ok .null
  | .slot s =>
    match c with
    | .register .. => .ok (.str (w.slotLabel s))
    | _ => .ok Json.ok
  | .received e => .ok (Json.text? (e.map w.exchangeLabel))

end World

end MessageRouter.Scenario
