import MessageRouter.Config

/-!
# Telemetry

What a service tells about itself.  Inside a container the log is written for machines unless
the environment says otherwise.
-/

namespace MessageRouter

/-- The settings of a service's log. -/
structure TelemetryConfig where
  serviceName : String := "nmr"
  logLevel : String := "info"
  consoleOutput : Bool := true
  jsonLogs : Bool := false
  threadNames : Bool := false
  deriving DecidableEq, Inhabited

namespace TelemetryConfig

/-- The settings of a service about which nothing is said. -/
def initial : TelemetryConfig := {}

/-- The settings under which tests run. -/
def forTests : TelemetryConfig where
  serviceName := "nmr-tests"
  logLevel := "debug"
  threadNames := true

/-- The service runs inside a container. -/
def inContainer (env : Environment) : Bool :=
  env.contains "KUBERNETES_SERVICE_HOST" || env.contains "DOCKER_CONTAINER"

/-- The settings that the environment describes. -/
def ofEnvironment (env : Environment) : TelemetryConfig where
  serviceName := (env.get? "NMR_SERVICE_NAME").getD initial.serviceName
  logLevel := (env.get? "NMR_LOG_LEVEL" <|> env.get? "RUST_LOG").getD initial.logLevel
  consoleOutput := (env.notDisabled? "NMR_CONSOLE_OUTPUT").getD initial.consoleOutput
  jsonLogs := (env.enabled? "NMR_JSON_LOGS").getD (inContainer env)
  threadNames := (env.enabled? "NMR_THREAD_NAMES").getD initial.threadNames

end TelemetryConfig

end MessageRouter
