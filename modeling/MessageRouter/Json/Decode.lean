import MessageRouter.Dict
import MessageRouter.Json.Basic
import MessageRouter.Json.Raw

/-!
# Decoding JSON

Values and records from raw trees.  A record is an object, whose unknown members are passed over
and whose known members occur once, or an array of all its fields in order; an enumeration is the
name of a variant, or an object that maps the name to `null`.
-/

namespace MessageRouter.Json

/-! ## Numbers -/

/-- The largest 64-bit word. -/
def maxWord : Nat := 0xFFFFFFFFFFFFFFFF

/-- Appends digits to a significand as long as it stays a 64-bit word; the rest is left over. -/
def appendDigits : Nat → List Char → Nat × List Char
  | n, [] => (n, [])
  | n, d :: ds =>
    let n' := 10 * n + (d.toNat - '0'.toNat)
    if maxWord < n' then (n, d :: ds) else appendDigits n' ds

/-- `f * 10 ^ e` by one multiplication or division with a power of ten; `none` if infinite. -/
def scale? : Nat → Float → Int → Option Float
  | 0, f, _ => some f
  | fuel + 1, f, e =>
    if e.natAbs ≤ 308 then
      let power := Float.ofScientific 1 false e.natAbs
      if 0 ≤ e then
        let g := f * power
        if g.isInf then none else some g
      else some (f / power)
    else if f == 0.0 then some f
    else if 0 ≤ e then none
    else scale? fuel (f / 1e308) (e + 308)

namespace Numeral

/-- The whole number that is written, if it is written as one. -/
def toInt? (n : Numeral) : Option Int :=
  match n.fraction, n.exponent with
  | none, none =>
    let (m, rest) := appendDigits 0 n.whole
    if rest ≠ [] then none
    else if !n.minus then some m
    else if m = 0 ∨ 0x8000000000000000 < m then none
    else some (-m)
  | _, _ => none

/-- The digits as a 64-bit significand, and the power of ten that belongs to it. -/
def significand (n : Numeral) : Nat × Int :=
  let (m, rest) := appendDigits 0 n.whole
  let (m', rest') := appendDigits m (n.fraction.getD [])
  (m', rest.length - ((n.fraction.getD []).length - rest'.length))

/-- The double that is written; `none` if it is out of range. -/
def toFloat? (n : Numeral) : Option Float :=
  let (m, e) := n.significand
  let sign (f : Float) : Float := if n.minus then -f else f
  match n.exponent with
  | none => (scale? 4 (UInt64.ofNat m).toFloat e).map sign
  | some (minus, ds) =>
    let x := ds.foldl (fun x d => 10 * x + (d.toNat - '0'.toNat)) 0
    if 0x80000000 ≤ x then
      if m ≠ 0 ∧ !minus then none else some (sign 0.0)
    else (scale? 4 (UInt64.ofNat m).toFloat (if minus then e - x else e + x)).map sign

/-- A number is whole if it is written so and fits 64 bits, and otherwise a double. -/
def toNumber? (n : Numeral) : Option Number :=
  match n.toInt? with
  | some i => some (.int i)
  | none => n.toFloat?.map .float

end Numeral

/-! ## Values -/

mutual

/-- The value of a raw tree; every string and number in it must have one. -/
def ofRaw? : Raw → Option Json
  | .null => some .null
  | .bool b => some (.bool b)
  | .number n => n.toNumber?.map .num
  | .string s => s.map .str
  | .array items => (ofRawItems? items).map .arr
  | .object members => (ofRawMembers? members).map mkObj

def ofRawItems? : List Raw → Option (List Json)
  | [] => some []
  | item :: rest => do
    let j ← ofRaw? item
    let js ← ofRawItems? rest
    return j :: js

def ofRawMembers? : List (Option String × Raw) → Option (List (String × Json))
  | [] => some []
  | (key, value) :: rest => do
    let k ← key
    let j ← ofRaw? value
    let js ← ofRawMembers? rest
    return (k, j) :: js

end

/-- The value of a JSON text. -/
def read? (s : String) : Option Json := (Raw.read? s).bind ofRaw?

namespace Raw

/-! ## Scalars -/

def string? : Raw → Option String
  | .string s => s
  | _ => none

def bool? : Raw → Option Bool
  | .bool b => some b
  | _ => none

/-- A whole number between two bounds. -/
def intBetween? (low high : Int) : Raw → Option Int
  | .number n =>
    match n.toInt? with
    | some i => if low ≤ i ∧ i ≤ high then some i else none
    | none => none
  | _ => none

/-- A whole number that fits a 64-bit word. -/
def word? (r : Raw) : Option Nat := (r.intBetween? 0 maxWord).map Int.toNat

/-- A whole number that fits 32 bits with its sign. -/
def int32? (r : Raw) : Option Int := r.intBetween? (-0x80000000) 0x7FFFFFFF

/-! ## Collections -/

/-- All items of an array. -/
def list? {α : Type} (item? : Raw → Option α) : Raw → Option (List α)
  | .array items => items.mapM item?
  | _ => none

/-- An object as a dictionary; of two members with one name the later counts. -/
def dict? {α : Type} (value? : Raw → Option α) : Raw → Option (Dict α)
  | .object members => do
    let entries ← members.mapM fun (k, v) => do return (← k, ← value? v)
    return .ofList entries
  | _ => none

/-- `null` stands for no value. -/
def option? {α : Type} (value? : Raw → Option α) : Raw → Option (Option α)
  | .null => some none
  | r => (value? r).map some

/-! ## Records and enumerations -/

/-- The one member named `name`; `none` if it is missing and `none` inside if there are two. -/
def member? (name : String) (members : List (Option String × Raw)) : Option (Option Raw) :=
  match members.filter (·.1 == some name) with
  | [] => some none
  | [m] => some (some m.2)
  | _ => none

/-- The fields of a record, in the order of `names`; a missing field is `none` inside.  With
`closed` an unknown member is refused. -/
def fields? (names : List String) (closed : Bool) : Raw → Option (List (Option Raw))
  | .array items => if items.length = names.length then some (items.map some) else none
  | .object members => do
    let keys ← members.mapM (·.1)
    if closed ∧ !keys.all names.contains then none
    names.mapM (member? · members)
  | _ => none

/-- A field that has to be there. -/
def required? {α : Type} (value? : Raw → Option α) (field : Option Raw) : Option α :=
  field.bind value?

/-- A field that may be missing or `null`. -/
def optional? {α : Type} (value? : Raw → Option α) : Option Raw → Option (Option α)
  | none => some none
  | some r => r.option? value?

/-- The name of a variant without contents. -/
def variant? : Raw → Option String
  | .string s => s
  | .object [(some name, .null)] => some name
  | _ => none

/-- A variant with its contents, written as an object with one member. -/
def tagged? : Raw → Option (String × Raw)
  | .object [(some name, value)] => some (name, value)
  | _ => none

end Raw

end MessageRouter.Json
