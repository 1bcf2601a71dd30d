/-!
# Errors

What the router answers instead of a result.  Errors come from the caller's misuse of an exchange
or a channel, from a failed search for an endpoint, and from texts that cannot be read.
-/

namespace MessageRouter

/-- The errors of the router. -/
inductive RouterError where
  | invalidExchangeState (reason : String)
  | noEndpointAvailable (target : String)
  | unsupportedOperation (reason : String)
  | notAuthorized (endpoint : String)
  | channelClosed (channel : String)
  | routerShutdown
  | invalidFilter (position : Nat) (reason : String)
  | invalidPattern (pattern reason : String)
  | invalidReference (reason : String)
  | executor (reason : String)
  | invalidConfig (reason : String)
  deriving DecidableEq, Inhabited

namespace RouterError

/-- The name of the kind of an error. -/
def kind : RouterError → String
  | .invalidExchangeState _ => "InvalidExchangeState"
  | .noEndpointAvailable _ => "NoEndpointAvailable"
  | .unsupportedOperation _ => "UnsupportedOperation"
  | .notAuthorized _ => "NotAuthorized"
  | .channelClosed _ => "ChannelClosed"
  | .routerShutdown => "BusShutdown"
  | .invalidFilter .. => "InvalidFilter"
  | .invalidPattern .. => "InvalidPattern"
  | .invalidReference _ => "InvalidReference"
  | .executor _ => "Executor"
  | .invalidConfig _ => "InvalidConfig"

def message : RouterError → String
  | .invalidExchangeState reason => "Invalid exchange state: " ++ reason
  | .noEndpointAvailable target => "No endpoint available for target " ++ target
  | .unsupportedOperation reason => "Unsupported operation: " ++ reason
  | .notAuthorized endpoint => "Endpoint " ++ endpoint ++ " is not authorized for this subject"
  | .channelClosed channel => "Channel " ++ channel ++ " is closed"
  | .routerShutdown => "Message router has been shut down"
  | .invalidFilter position reason =>
    "Invalid filter at position " ++ toString position ++ ": " ++ reason
  | .invalidPattern pattern reason => "Invalid pattern " ++ pattern ++ ": " ++ reason
  | .invalidReference reason => "Invalid reference document: " ++ reason
  | .executor reason => "Executor error: " ++ reason
  | .invalidConfig reason => "Invalid configuration: " ++ reason

instance : ToString RouterError := ⟨message⟩

/-- The router found no endpoint to carry an exchange to. -/
def isRoutingFailure : RouterError → Bool
  | .noEndpointAvailable _ | .notAuthorized _ => true
  | _ => false

end RouterError

end MessageRouter
