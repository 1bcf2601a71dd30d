import MessageRouter.Decimal.Shortest
import MessageRouter.Json.Basic
import MessageRouter.Text.Quoted

/-!
# Writing JSON

The compact text of a JSON value, without any white space.  A floating-point number has the
fewest digits that read back; it has a point or an exponent, the latter with its sign, from `1e+16`
up and below `1e-5`.
-/

namespace MessageRouter.Json

/-! ## Strings -/

/-- Four hexadecimal digits. -/
def hex4 (n : Nat) : List Char :=
  let ds := Nat.toDigits 16 n
  List.replicate (4 - ds.length) '0' ++ ds

/-- A character as it stands inside a JSON string. -/
def escapeChar (c : Char) : List Char :=
  match c with
  | '"' => ['\\', '"']
  | '\\' => ['\\', '\\']
  | '\n' => ['\\', 'n']
  | '\r' => ['\\', 'r']
  | '\t' => ['\\', 't']
  | '\x08' => ['\\', 'b']
  | '\x0c' => ['\\', 'f']
  | c => if c.val < 0x20 then '\\' :: 'u' :: hex4 c.toNat else [c]

/-- A JSON string with its quotes. -/
def writeString (s : String) : String :=
  "\"" ++ String.ofList (s.toList.flatMap escapeChar) ++ "\""

/-! ## Numbers -/

/-- Writes `digits * 10 ^ e`, a number without sign. -/
def writeScientific (digits : Nat) (e : Int) : String :=
  let ds := Nat.toDigits 10 digits
  let point : Int := ds.length + e
  if 0 ≤ e ∧ point ≤ 16 then String.ofList (ds ++ List.replicate e.toNat '0') ++ ".0"
  else if 0 < point ∧ point ≤ 16 then
    String.ofList (ds.take point.toNat) ++ "." ++ String.ofList (ds.drop point.toNat)
  else if -5 < point ∧ point ≤ 0 then
    "0." ++ String.ofList (List.replicate (-point).toNat '0' ++ ds)
  else
    let mantissa := match ds with
      | d :: rest@(_ :: _) => String.ofList (d :: '.' :: rest)
      | ds => String.ofList ds
    let sign := if 0 < point then "+" else ""
    mantissa ++ "e" ++ sign ++ toString (point - 1)

/-- The text of a double. -/
def writeFloat (f : Float) : String :=
  let minus := f.toBits >>> 63 == 1
  let magnitude := Float.ofBits (f.toBits &&& 0x7FFFFFFFFFFFFFFF)
  let text :=
    if magnitude == 0.0 then "0.0"
    else
      let (d, e) := Decimal.shortest magnitude
      writeScientific d e
  if minus then "-" ++ text else text

def Number.write : Number → String
  | .int n => toString n
  | .float f => writeFloat f

/-! ## Values -/

mutual

/-- The compact text of a value. -/
def write : Json → String
  | .null => "null"
  | .bool true => "true"
  | .bool false => "false"
  | .num n => n.write
  | .str s => writeString s
  | .arr items => "[" ++ writeItems items ++ "]"
  | .obj members => "\x7b" ++ writeMembers members ++ "\x7d"

/-- The items of an array, with commas between them. -/
def writeItems : List Json → String
  | [] => ""
  | [item] => write item
  | item :: rest => write item ++ "," ++ writeItems rest

/-- The members of an object, with commas between them. -/
def writeMembers : List (String × Json) → String
  | [] => ""
  | [(k, v)] => writeString k ++ ":" ++ write v
  | (k, v) :: rest => writeString k ++ ":" ++ write v ++ "," ++ writeMembers rest

end

end MessageRouter.Json
