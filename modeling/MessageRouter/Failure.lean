import MessageRouter.Error
import MessageRouter.Stream

/-!
# Failures

Why an exchange failed: an error of the router, a stream that cannot be read, or whatever an
endpoint has to say.
-/

namespace MessageRouter

/-- The cause of a failed exchange. -/
inductive Failure where
  | router (e : RouterError)
  | stream (e : StreamError)
  | other (text : String)
  deriving DecidableEq, Inhabited

namespace Failure

def message : Failure → String
  | .router e => e.message
  | .stream e => e.message
  | .other text => text

instance : ToString Failure := ⟨message⟩

/-- The error of the router that is the cause, if one is. -/
def routerError? : Failure → Option RouterError
  | .router e => some e
  | _ => none

end Failure

end MessageRouter
