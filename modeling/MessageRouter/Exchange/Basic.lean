import MessageRouter.Failure
import MessageRouter.Message
import MessageRouter.Pattern
import MessageRouter.QualifiedName
import MessageRouter.Reference
import MessageRouter.Slot

/-!
# Exchanges

An exchange is what a consumer and a provider pass back and forth: up to three messages, a status
and whose turn it is.  Either party may wait inside a send until the other one answers; it is
then handed the exchange by a token.
-/

namespace MessageRouter

/-- A value for each of the two parties. -/
structure PerRole (α : Type) where
  consumer : α
  provider : α
  deriving DecidableEq, Inhabited

namespace PerRole

variable {α : Type}

def get (p : PerRole α) : Role → α
  | .consumer => p.consumer
  | .provider => p.provider

def set (p : PerRole α) (r : Role) (a : α) : PerRole α :=
  match r with
  | .consumer => { p with consumer := a }
  | .provider => { p with provider := a }

@[simp] theorem get_set_self (p : PerRole α) (r : Role) (a : α) : (p.set r a).get r = a := by
  cases r <;> rfl

@[simp] theorem get_set_opposite (p : PerRole α) (r : Role) (a : α) :
    (p.set r a).get r.opposite = p.get r.opposite := by
  cases r <;> rfl

theorem get_set (p : PerRole α) (r s : Role) (a : α) :
    (p.set r a).get s = if r = s then a else p.get s := by
  cases r <;> cases s <;> rfl

end PerRole

/-- The state of an exchange. -/
structure Exchange where
  pattern : Pattern
  status : Status := .active
  role : Role := .consumer
  target : Option Reference := none
  source : Option SlotId := none
  destination : Option SlotId := none
  properties : Dict Json := ∅
  operation : Option QualifiedName := none
  error : Option Failure := none
  input : Option Message := none
  output : Option Message := none
  fault : Option Message := none
  /-- How often the exchange has been sent. -/
  sends : Nat := 0
  /-- The exchange has been sent and not yet delivered. -/
  inTransit : Bool := false
  /-- The last send of the exchange has been accepted. -/
  completed : Bool := false
  /-- A party waits inside a send. -/
  waiting : PerRole Bool := ⟨false, false⟩
  /-- A waiting party has been given its answer. -/
  token : PerRole Bool := ⟨false, false⟩
  /-- The slots no longer count the exchange. -/
  released : Bool := false
  deriving Inhabited

namespace Exchange

/-! ## Parts -/

def message (x : Exchange) : MessageSlot → Option Message
  | .input => x.input
  | .output => x.output
  | .fault => x.fault

def putMessage (x : Exchange) (slot : MessageSlot) (m : Message) : Exchange :=
  match slot with
  | .input => { x with input := some m }
  | .output => { x with output := some m }
  | .fault => { x with fault := some m }

/-- The messages that are there, in their usual order. -/
def messages (x : Exchange) : List Message := MessageSlot.all.filterMap x.message

/-- The exchange carries an answer of the provider. -/
def hasReply (x : Exchange) : Bool := x.output.isSome || x.fault.isSome

/-- The exchange ends with a failure. -/
def fail (x : Exchange) (f : Failure) : Exchange := { x with status := .error, error := some f }

/-- The flag of a party that waits, taken back. -/
def takeWaiting (x : Exchange) (r : Role) : Bool × Exchange :=
  (x.waiting.get r, { x with waiting := x.waiting.set r false })

def setWaiting (x : Exchange) (r : Role) (b : Bool) : Exchange :=
  { x with waiting := x.waiting.set r b }

def setToken (x : Exchange) (r : Role) (b : Bool) : Exchange := { x with token := x.token.set r b }

/-! ## Changes -/

/-- Why an exchange cannot be changed. -/
inductive ChangeError where
  | notAllowed (slot : MessageSlot) (p : Pattern)
  | ended (s : Status)
  | targetFixed
  deriving DecidableEq

def ChangeError.toError (id : ExchangeId) : ChangeError → RouterError
  | .notAllowed slot p =>
    .unsupportedOperation (slot.name ++ " message is not allowed on a " ++ p.name ++ " exchange")
  | .ended s =>
    .invalidExchangeState
      ("exchange " ++ id.text ++ " is " ++ s.name ++ " and can no longer change")
  | .targetFixed =>
    .invalidExchangeState
      ("exchange " ++ id.text ++ " has already been sent; its target is fixed")

/-- A change that whoever holds the exchange may ask for. -/
inductive Change where
  | message (slot : MessageSlot) (m : Message)
  | status (s : Status)
  | error (f : Failure)
  | target (r : Reference)
  | operation (q : QualifiedName)
  | property (name : String) (value : Json)
  | withoutProperty (name : String)

/-- Nothing changes once the exchange has ended. -/
def changeable (x : Exchange) : Except ChangeError Unit :=
  if x.status.isTerminal then .error (.ended x.status) else .ok ()

/-- The exchange after a change. -/
def change (x : Exchange) : Change → Except ChangeError Exchange
  | .message slot m =>
    if x.pattern.allows slot then x.changeable.map fun _ => x.putMessage slot m
    else .error (.notAllowed slot x.pattern)
  | .status s => x.changeable.map fun _ => { x with status := s }
  | .error f => x.changeable.map fun _ => x.fail f
  | .target r => do
    x.changeable
    if x.source.isSome then .error .targetFixed else .ok { x with target := some r }
  | .operation q => x.changeable.map fun _ => { x with operation := some q }
  | .property name value =>
    x.changeable.map fun _ => { x with properties := x.properties.insert name value }
  | .withoutProperty name =>
    x.changeable.map fun _ => { x with properties := x.properties.erase name }

/-! ## Streams -/

/-- Makes all messages readable more than once, up to the first stream that cannot be read. -/
def ensureReadable (x : Exchange) (streams : Streams) : Except StreamError Unit × Streams :=
  Message.ensureAll (x.messages.flatMap Message.contents) streams

/-! ## Display -/

/-- A message of the exchange with its label in front. -/
def displayMessage (label : String) (m : Option Message) (full : Bool) (streams : Streams) :
    String × Streams :=
  match m with
  | none => ("", streams)
  | some m =>
    let (s, streams) := m.display full streams
    (", " ++ label ++ ": " ++ s, streams)

/-- The exchange in one line, with the bodies of its messages or only their kinds. -/
def display (x : Exchange) (id : ExchangeId) (full : Bool) (streams : Streams) :
    String × Streams :=
  let (input, streams) := displayMessage "in" x.input full streams
  let (output, streams) := displayMessage "out" x.output full streams
  let (fault, streams) := displayMessage "fault" x.fault full streams
  let optional (label : String) (s : Option String) : String :=
    match s with
    | some s => ", " ++ label ++ ": " ++ s
    | none => ""
  let text := "Exchange[id: " ++ id.text ++ ", status: " ++ x.status.name ++
    ", role: " ++ x.role.name ++ ", pattern: " ++ x.pattern.name ++
    optional "target" (x.target.map Reference.text) ++
    optional "operation" (x.operation.map QualifiedName.text) ++
    (if x.properties.isEmpty then ""
      else ", properties: " ++ (Json.obj x.properties.entries).write) ++
    input ++ output ++ fault ++ optional "error" (x.error.map Failure.message) ++ "]"
  (text, streams)

/-- The exchange for diagnostic output. -/
def quotedText (x : Exchange) (id : ExchangeId) : String :=
  "Exchange \x7b id: ExchangeId(" ++ id.text ++ "), pattern: " ++ x.pattern.name ++
  ", status: " ++ x.status.name ++ ", role: " ++ x.role.name ++ ", .. \x7d"

end Exchange

end MessageRouter
