import MessageRouter.Exchange.Basic

/-!
# Rules for sending

Which sends of an exchange are accepted: the consumer opens it with an In message, the provider
answers as the pattern allows, and the consumer closes what the provider has left open.
-/

namespace MessageRouter

/-- Why a send is refused. -/
inductive Refusal where
  | completed
  | inTransit
  | twoReplies
  | notAllowed (slot : MessageSlot) (p : Pattern)
  | notActive (s : Status)
  | noTarget
  | noInput
  | replyOnFirstHop
  | notConsumer
  | notClosing (p : Pattern)
  | closedByProvider
  | notProvider
  | noReply (p : Pattern)
  | doneNotAllowed (p : Pattern)
  | doneWithReply
  deriving DecidableEq

def Refusal.toError : Refusal → RouterError
  | .completed =>
    .invalidExchangeState "exchange has already completed and cannot be sent again"
  | .inTransit => .invalidExchangeState "exchange is in transit and owned by the counterpart"
  | .twoReplies => .invalidExchangeState "exchange carries both an Out and a Fault message"
  | .notAllowed slot p =>
    .unsupportedOperation (slot.name ++ " message is not allowed on a " ++ p.name ++ " exchange")
  | .notActive s => .invalidExchangeState ("a new exchange must be sent Active, not " ++ s.name)
  | .noTarget => .invalidExchangeState "exchange has no target"
  | .noInput => .invalidExchangeState "exchange has no In message"
  | .replyOnFirstHop =>
    .invalidExchangeState "a consumer cannot send Out or Fault on the first hop"
  | .notConsumer =>
    .invalidExchangeState "only the consumer channel may send on the consumer's turn"
  | .notClosing p =>
    .invalidExchangeState ("a consumer answers a " ++ p.name ++ " reply with Done or Error only")
  | .closedByProvider => .invalidExchangeState "the provider terminates InOnly exchanges"
  | .notProvider =>
    .invalidExchangeState "only the provider channel may send on the provider's turn"
  | .noReply p =>
    .invalidExchangeState ("an Active " ++ p.name ++ " reply needs an Out or Fault message")
  | .doneNotAllowed p =>
    .invalidExchangeState ("a provider cannot complete a " ++ p.name ++ " exchange with Done")
  | .doneWithReply => .invalidExchangeState "a Done reply cannot carry Out or Fault"

namespace Exchange

/-! ## One rule for each turn -/

/-- Goes on if a condition holds. -/
def require (b : Bool) (r : Refusal) : Except Refusal Unit := if b then .ok () else .error r

/-- The consumer opens an exchange. -/
def checkFirstSend (x : Exchange) : Except Refusal Unit := do
  require (x.status == .active) (.notActive x.status)
  require x.target.isSome .noTarget
  require x.input.isSome .noInput
  require (!x.hasReply) .replyOnFirstHop

/-- The consumer closes an exchange. -/
def checkClose (x : Exchange) : Except Refusal Unit := do
  require x.status.isTerminal (.notClosing x.pattern)
  require (x.pattern != .inOnly) .closedByProvider

/-- The provider answers, or ends the exchange. -/
def checkReply (x : Exchange) : Except Refusal Unit :=
  match x.status with
  | .active => require x.hasReply (.noReply x.pattern)
  | .done => do
    require x.pattern.allowsProviderDone (.doneNotAllowed x.pattern)
    require (!x.hasReply) .doneWithReply
  | .error => .ok ()

/-- What holds for every send: the exchange is at rest and carries what its pattern allows. -/
def checkState (x : Exchange) : Except Refusal Unit := do
  require (!x.completed) .completed
  require (!x.inTransit) .inTransit
  require (!(x.output.isSome && x.fault.isSome)) .twoReplies
  require (x.output.isNone || x.pattern.allowsOut) (.notAllowed .output x.pattern)
  require (x.fault.isNone || x.pattern.allowsFault) (.notAllowed .fault x.pattern)

/-- The sender has the turn and keeps its rule. -/
def checkTurn (x : Exchange) (sender : SlotId) : Except Refusal Unit :=
  match x.role with
  | .consumer =>
    match x.source with
    | none => x.checkFirstSend
    | some source => do
      require (source == sender) .notConsumer
      x.checkClose
  | .provider => do
    require (x.destination == some sender) .notProvider
    x.checkReply

/-- The send is accepted. -/
def checkSend (x : Exchange) (sender : SlotId) : Except Refusal Unit := do
  x.checkState
  x.checkTurn sender

end Exchange

end MessageRouter
