import MessageRouter.Decimal.Reading
import MessageRouter.Filter.Basic
import MessageRouter.Properties
import MessageRouter.Text.Blank
import MessageRouter.Text.LowerCase

/-!
# Matching filters

Whether properties satisfy a filter.  A comparison holds only of a property that is there; two
values that both read as numbers compare as numbers, and all others by code point.
-/

namespace MessageRouter.Filter

/-- A value without white space and in lower case. -/
def normalized (value : String) : String :=
  String.ofList ((value.toList.filter (!Text.isBlank ·)).flatMap Unicode.lowerCase)

/-- The order of two values; a number that is undefined equals every number. -/
def compareValues (actual expected : String) : Ordering :=
  match Decimal.read? (Text.trimmed actual), Decimal.read? (Text.trimmed expected) with
  | some a, some b => if a < b then .lt else if b < a then .gt else .eq
  | _, _ => compare actual expected

/-! ## Wildcards -/

/-- What follows the leftmost occurrence of `part`. -/
def afterFirst? (part : List Char) : List Char → Option (List Char)
  | [] => if part = [] then some [] else none
  | c :: cs =>
    if part.isPrefixOf (c :: cs) then some ((c :: cs).drop part.length) else afterFirst? part cs

/-- The parts occur in this order without overlap, and the last one ends the text. -/
def endsWithParts : List (List Char) → List Char → Bool
  | [], cs => cs.isEmpty
  | [last], cs => last.isSuffixOf cs
  | part :: rest, cs =>
    match afterFirst? part cs with
    | some after => endsWithParts rest after
    | none => false

/-- A text consists of the parts with any texts between them. -/
def matchesParts : List (List Char) → List Char → Bool
  | [], _ => false
  | first :: rest, cs => first.isPrefixOf cs && endsWithParts rest (cs.drop first.length)

/-! ## Filters -/

mutual

/-- The properties satisfy the filter. -/
def holds : Filter → Properties → Bool
  | .all fs, p => holdsAll fs p
  | .any fs, p => holdsAny fs p
  | .not f, p => !holds f p
  | .equal k v, p => p.get? k == some v
  | .approx k v, p => (p.get? k).any fun actual => normalized actual == normalized v
  | .atLeast k v, p => (p.get? k).any fun actual => compareValues actual v != .lt
  | .atMost k v, p => (p.get? k).any fun actual => compareValues actual v != .gt
  | .present k, p => (p.get? k).isSome
  | .substring k ps, p =>
    (p.get? k).any fun actual => matchesParts (ps.map String.toList) actual.toList

def holdsAll : List Filter → Properties → Bool
  | [], _ => true
  | f :: fs, p => holds f p && holdsAll fs p

def holdsAny : List Filter → Properties → Bool
  | [], _ => false
  | f :: fs, p => holds f p || holdsAny fs p

end

end MessageRouter.Filter
