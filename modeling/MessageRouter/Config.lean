import MessageRouter.Dict
import MessageRouter.Error
import MessageRouter.Text.Blank
import MessageRouter.Text.LowerCase
import MessageRouter.Text.Quoted

/-!
# Configuration

How a router delivers and whom it lets through.  A configuration is given by its fields or read
from environment variables; a variable that cannot be read leaves the default.
-/

namespace MessageRouter

/-- Environment variables. -/
abbrev Environment := Dict String

namespace Environment

/-- On if the variable says `true` in any case, or `1`. -/
def enabled? (env : Environment) (key : String) : Option Bool :=
  (env.get? key).map fun v => v = "1" || Text.lowered v = "true"

/-- On unless the variable says `false` in any case, or `0`. -/
def notDisabled? (env : Environment) (key : String) : Option Bool :=
  (env.get? key).map fun v => !(v = "0" || Text.lowered v = "false")

/-- The count that decimal digits stand for, with at most a plus before them; it fits 64 bits. -/
def readCount? (s : String) : Option Nat :=
  let ds := match s.toList with
    | '+' :: ds => ds
    | ds => ds
  if ds ≠ [] ∧ ds.all Char.isDigit then
    let n := ds.foldl (fun n d => 10 * n + (d.toNat - '0'.toNat)) 0
    if n < 0x10000000000000000 then some n else none
  else none

end Environment

/-- The configuration of a router. -/
structure Config where
  executorThreads : Nat := 8
  syncDelivery : Bool := false
  enforceAuthorization : Bool := false
  defaultFlow : Bool := true
  threadName : String := "nmr-delivery"
  deriving DecidableEq, Inhabited

namespace Config

/-- The configuration of a router about which nothing is said. -/
def initial : Config := {}

/-- The configuration that the environment describes. -/
def ofEnvironment (env : Environment) : Config where
  executorThreads :=
    ((env.get? "NMR_EXECUTOR_THREADS").bind Environment.readCount?).getD initial.executorThreads
  syncDelivery := (env.enabled? "NMR_SYNC_DELIVERY").getD initial.syncDelivery
  enforceAuthorization :=
    (env.enabled? "NMR_ENFORCE_AUTHORIZATION").getD initial.enforceAuthorization
  defaultFlow := (env.notDisabled? "NMR_DEFAULT_FLOW").getD initial.defaultFlow
  threadName := (env.get? "NMR_THREAD_NAME").getD initial.threadName

/-- A router needs a thread, and its threads need a name. -/
def validate (c : Config) : Except RouterError Unit :=
  if c.executorThreads = 0 then .error (.invalidConfig "executor_threads must be at least 1")
  else if Text.trimmed c.threadName = "" then
    .error (.invalidConfig "thread_name must not be empty")
  else .ok ()

/-- The configuration for diagnostic output. -/
def quotedText (c : Config) : String :=
  "NmrConfig \x7b executor_threads: " ++ toString c.executorThreads ++
  ", sync_delivery: " ++ toString c.syncDelivery ++
  ", enforce_authorization: " ++ toString c.enforceAuthorization ++
  ", default_flow: " ++ toString c.defaultFlow ++
  ", thread_name: " ++ Text.quoted c.threadName ++ " \x7d"

end Config

end MessageRouter
