/-!
# Reading decimal numbers

A decimal number is an optional sign before either `inf`, `infinity` or `nan` in any case, or
digits with at most one point among or around them and an optional exponent.  It is read to
the nearest double.
-/

namespace MessageRouter.Decimal

/-- The number that decimal digits stand for. -/
def digitsValue (ds : List Char) : Nat := ds.foldl (fun n d => 10 * n + (d.toNat - '0'.toNat)) 0

/-- The double nearest to `m * 10 ^ e`; beyond the range it is infinite or zero. -/
def nearest (m : Nat) (e : Int) : Float :=
  if m = 0 then 0.0
  else if 400 < e then Float.ofScientific 1 false 400
  else if e < -400 - (Nat.toDigits 10 m).length then 0.0
  else if e < 0 then Float.ofScientific m true e.natAbs
  else Float.ofScientific m false e.natAbs

/-- Digits up to the first other character. -/
def spanDigits (cs : List Char) : List Char × List Char := cs.span Char.isDigit

/-- A sign, if there is one: whether it is a minus, and what follows it. -/
def takeSign : List Char → Bool × List Char
  | '-' :: rest => (true, rest)
  | '+' :: rest => (false, rest)
  | cs => (false, cs)

/-- What may follow the mantissa: nothing, or `e` and a number with an optional sign. -/
def readExponent? : List Char → Option Int
  | [] => some 0
  | c :: rest =>
    if c = 'e' ∨ c = 'E' then
      let (minus, ds) := takeSign rest
      if ds ≠ [] ∧ ds.all Char.isDigit then
        some (if minus then -(digitsValue ds : Int) else digitsValue ds)
      else none
    else none

/-- A number without sign that is neither infinite nor undefined. -/
def readFinite? (cs : List Char) : Option Float :=
  let (whole, rest) := spanDigits cs
  let (part, rest) := match rest with
    | '.' :: rest => spanDigits rest
    | rest => ([], rest)
  if whole = [] ∧ part = [] then none
  else (readExponent? rest).map fun e => nearest (digitsValue (whole ++ part)) (e - part.length)

/-- The double that a decimal text stands for. -/
def read? (s : String) : Option Float :=
  let (minus, cs) := takeSign s.toList
  let value? :=
    match String.ofList (cs.map Char.toLower) with
    | "inf" => some (1.0 / 0.0)
    | "infinity" => some (1.0 / 0.0)
    | "nan" => some (0.0 / 0.0)
    | _ => readFinite? cs
  value?.map fun f => if minus then -f else f

end MessageRouter.Decimal
