import MessageRouter.Filter.Parser
import MessageRouter.Identifier
import MessageRouter.Json.Decode
import MessageRouter.Properties

/-!
# References

A reference tells how to find an endpoint: by properties, by a filter or by its identifier.  It
is resolved anew whenever it is used.
-/

namespace MessageRouter

/-- A way to find endpoints. -/
inductive Reference where
  | properties (query : Properties)
  | filter (f : Filter)
  | endpoint (id : Identifier)
  deriving Inhabited

namespace Reference

def text : Reference → String
  | .properties query => query.text
  | .filter f => f.text
  | .endpoint id => "endpoint:" ++ id.text

instance : ToString Reference := ⟨text⟩

/-- What a JSON document says that is not a reference. -/
inductive Fault where
  | malformed
  | ambiguous
  deriving DecidableEq

def Fault.reason : Fault → String
  | .malformed => "malformed document"
  | .ambiguous => "exactly one of properties, filter or endpoint must be set"

/-- The three members that a document may have. -/
structure Document where
  properties : Option Properties
  filter : Option String
  endpoint : Option Identifier

/-- A closed record, so that a misspelt member is refused. -/
def Document.read? (s : String) : Option Document := do
  let raw ← Json.Raw.read? s
  match ← raw.fields? ["properties", "filter", "endpoint"] true with
  | [properties, filter, endpoint] =>
    return ⟨← Json.Raw.optional? (·.dict? Json.Raw.string?) properties,
      ← Json.Raw.optional? Json.Raw.string? filter,
      ← Json.Raw.optional? (fun r => r.string?.bind Identifier.read?) endpoint⟩
  | _ => none

/-- The reference that a JSON document describes by exactly one member. -/
def ofDocument (s : String) : Except RouterError Reference :=
  match Document.read? s with
  | none => .error (.invalidReference Fault.malformed.reason)
  | some ⟨some query, none, none⟩ => .ok (.properties query)
  | some ⟨none, some expr, none⟩ => (Filter.parse expr).map .filter
  | some ⟨none, none, some id⟩ => .ok (.endpoint id)
  | some _ => .error (.invalidReference Fault.ambiguous.reason)

end Reference

end MessageRouter
