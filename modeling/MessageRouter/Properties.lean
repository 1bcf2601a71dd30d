import MessageRouter.Dict
import MessageRouter.Text.Quoted

/-!
# Properties

Endpoints, listeners and flows are described by properties.  A query is a set of properties too:
it finds everything that has all of them.
-/

namespace MessageRouter

/-- Named texts. -/
abbrev Properties := Dict String

namespace Properties

/-- The property that names an endpoint. -/
def nameKey : String := "NAME"

/-- The property that hides an endpoint from every search for a destination. -/
def untargetableKey : String := "UNTARGETABLE"

/-- The property that asks for delivery on the sender's own task. -/
def syncDeliveryKey : String := "channel.syncDelivery"

/-- A property is set as a flag if it says `true` in any ASCII case. -/
def flag (p : Properties) (key : String) : Bool :=
  match p.get? key with
  | some value => String.ofList (value.toList.map Char.toLower) = "true"
  | none => false

/-- Every property of the query is there with the same value. -/
def satisfies (p query : Properties) : Bool :=
  query.entries.all fun (key, value) => p.get? key = some value

/-- The properties between braces. -/
def text (p : Properties) : String :=
  "\x7b" ++ ", ".intercalate (p.entries.map fun (key, value) => key ++ "=" ++ value) ++ "\x7d"

/-- The properties with all their texts quoted. -/
def quotedText (p : Properties) : String :=
  let entries := p.entries.map fun (key, value) => Text.quoted key ++ ": " ++ Text.quoted value
  "Properties(\x7b" ++ ", ".intercalate entries ++ "\x7d)"

end Properties

end MessageRouter
