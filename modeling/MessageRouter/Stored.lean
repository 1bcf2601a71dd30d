import MessageRouter.Authorization.Rule
import MessageRouter.Json.Decode
import MessageRouter.Pattern
import MessageRouter.Reference
import MessageRouter.Telemetry
import MessageRouter.Wire

/-!
# Stored forms

The JSON form in which values of the router are kept: enumerations by the names of their values,
filters by their written form, identifiers by their digits, and everything else as records.
-/

namespace MessageRouter

open Json (Raw)

/-! ## Texts and enumerations -/

namespace Properties

def toJson (p : Properties) : Json := .obj (p.entries.map fun (k, v) => (k, .str v))

def ofStored? (r : Raw) : Option Properties := r.dict? Raw.string?

end Properties

namespace Identifier

def toJson (i : Identifier) : Json := .str i.text

def ofStored? (r : Raw) : Option Identifier := r.string?.bind read?

end Identifier

namespace Filter

def toJson (f : Filter) : Json := .str f.text

def ofStored? (r : Raw) : Option Filter := r.string?.bind fun s => (parse s).toOption

end Filter

namespace PrincipalSet

def toJson (s : PrincipalSet) : Json := .arr (s.toList.map .str)

def ofStored? (r : Raw) : Option PrincipalSet := (r.list? Raw.string?).map ofList

/-- A subject is a record with its principals. -/
def subjectToJson (s : PrincipalSet) : Json := Json.mkObj [("principals", s.toJson)]

def subjectOfStored? (r : Raw) : Option PrincipalSet := do
  match ← r.fields? ["principals"] false with
  | [principals] => Raw.required? ofStored? principals
  | _ => none

end PrincipalSet

/-! ## Records -/

namespace QualifiedName

def toJson (q : QualifiedName) : Json :=
  Json.mkObj [("namespace", .str q.space), ("local", .str q.name)]

def ofStored? (r : Raw) : Option QualifiedName := do
  match ← r.fields? ["namespace", "local"] false with
  | [space, name] =>
    return ⟨← Raw.required? Raw.string? space, ← Raw.required? Raw.string? name⟩
  | _ => none

end QualifiedName

namespace Wire

def toJson (w : Wire) : Json := Json.mkObj [("from", w.start.toJson), ("to", w.target.toJson)]

def ofStored? (r : Raw) : Option Wire := do
  match ← r.fields? ["from", "to"] false with
  | [start, target] =>
    return ⟨← Raw.required? Properties.ofStored? start,
      ← Raw.required? Properties.ofStored? target⟩
  | _ => none

end Wire

namespace Reference

def toJson (r : Reference) : Json :=
  let query := match r with
    | .properties query => ("properties", query.toJson)
    | .filter f => ("filter", f.toJson)
    | .endpoint id => ("endpoint", id.toJson)
  Json.mkObj [("query", Json.mkObj [query])]

/-- The query of a reference under the name of its kind. -/
def ofStoredQuery? (r : Raw) : Option Reference := do
  match ← r.tagged? with
  | ("properties", r) => (Properties.ofStored? r).map .properties
  | ("filter", r) => (Filter.ofStored? r).map .filter
  | ("endpoint", r) => (Identifier.ofStored? r).map .endpoint
  | _ => none

def ofStored? (r : Raw) : Option Reference := do
  match ← r.fields? ["query"] false with
  | [query] => Raw.required? ofStoredQuery? query
  | _ => none

end Reference

namespace Config

def toJson (c : Config) : Json := Json.mkObj [
  ("executor_threads", Json.ofNat c.executorThreads),
  ("sync_delivery", .bool c.syncDelivery),
  ("enforce_authorization", .bool c.enforceAuthorization),
  ("default_flow", .bool c.defaultFlow),
  ("thread_name", .str c.threadName)]

def ofStored? (r : Raw) : Option Config := do
  match ← r.fields? ["executor_threads", "sync_delivery", "enforce_authorization",
      "default_flow", "thread_name"] false with
  | [threads, sync, enforce, flow, name] =>
    return ⟨← Raw.required? Raw.word? threads, ← Raw.required? Raw.bool? sync,
      ← Raw.required? Raw.bool? enforce, ← Raw.required? Raw.bool? flow,
      ← Raw.required? Raw.string? name⟩
  | _ => none

end Config

namespace TelemetryConfig

def toJson (c : TelemetryConfig) : Json := Json.mkObj [
  ("service_name", .str c.serviceName),
  ("log_level", .str c.logLevel),
  ("console_output", .bool c.consoleOutput),
  ("json_logs", .bool c.jsonLogs),
  ("thread_names", .bool c.threadNames)]

def ofStored? (r : Raw) : Option TelemetryConfig := do
  match ← r.fields? ["service_name", "log_level", "console_output", "json_logs",
      "thread_names"] false with
  | [service, level, console, json, threads] =>
    return ⟨← Raw.required? Raw.string? service, ← Raw.required? Raw.string? level,
      ← Raw.required? Raw.bool? console, ← Raw.required? Raw.bool? json,
      ← Raw.required? Raw.bool? threads⟩
  | _ => none

end TelemetryConfig

namespace AccessRule

def toJson (a : AccessRule) : Json := Json.mkObj [
  ("entry_type", .str a.kind.name),
  ("rank", Json.ofInt a.rank),
  ("endpoint", .str a.endpoint),
  ("operation", (a.operation.map QualifiedName.toJson).getD .null),
  ("acls", a.principals.toJson)]

def ofStored? (r : Raw) : Option AccessRule := do
  match ← r.fields? ["entry_type", "rank", "endpoint", "operation", "acls"] false with
  | [kind, rank, endpoint, operation, acls] =>
    return ⟨← Raw.required? (fun r => r.variant?.bind RuleKind.ofName?) kind,
      ← Raw.required? Raw.int32? rank, ← Raw.required? Raw.string? endpoint,
      ← Raw.optional? QualifiedName.ofStored? operation,
      ← Raw.required? PrincipalSet.ofStored? acls⟩
  | _ => none

end AccessRule

end MessageRouter
