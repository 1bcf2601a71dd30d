/-!
# Shortest decimal digits

A finite double is written with the fewest digits that read back as the same double, and among
those with the ones nearest to it.  All arithmetic is exact: a double is `m * 2 ^ q`, and a
decimal reads back as it when it lies between the midpoints to its neighbours.
-/

namespace MessageRouter.Decimal

/-- A positive rational number, as numerator and denominator. -/
structure Ratio where
  num : Nat
  den : Nat

namespace Ratio

/-- `m * 2 ^ q` -/
def ofBinary (m : Nat) (q : Int) : Ratio :=
  if q < 0 then ⟨m, 1 <<< q.natAbs⟩ else ⟨m <<< q.natAbs, 1⟩

/-- `m * 10 ^ e` -/
def ofDecimal (m : Nat) (e : Int) : Ratio :=
  if e < 0 then ⟨m, Nat.pow 10 e.natAbs⟩ else ⟨m * Nat.pow 10 e.natAbs, 1⟩

def lt (a b : Ratio) : Bool := a.num * b.den < b.num * a.den

def le (a b : Ratio) : Bool := a.num * b.den ≤ b.num * a.den

/-- The distance between two numbers. -/
def dist (a b : Ratio) : Ratio :=
  ⟨(a.num * b.den - b.num * a.den) + (b.num * a.den - a.num * b.den), a.den * b.den⟩

/-- The whole part of `a / 10 ^ e`. -/
def floorAt (a : Ratio) (e : Int) : Nat :=
  if e < 0 then a.num * Nat.pow 10 e.natAbs / a.den else a.num / (a.den * Nat.pow 10 e.natAbs)

end Ratio

/-- A positive double as `m * 2 ^ q`, with the interval of the numbers that read back as it. -/
structure Interval where
  value : Ratio
  low : Ratio
  high : Ratio
  closed : Bool

/-- The interval of a positive finite double with the given bits. -/
def Interval.ofBits (bits : UInt64) : Interval :=
  let exponent := ((bits >>> 52) &&& 0x7FF).toNat
  let fraction := (bits &&& 0xFFFFFFFFFFFFF).toNat
  let m := if exponent = 0 then fraction else fraction + 0x10000000000000
  let q : Int := (if exponent = 0 then 1 else exponent : Int) - 1075
  let low := if fraction = 0 ∧ 1 < exponent then Ratio.ofBinary (4 * m - 1) (q - 2)
    else Ratio.ofBinary (2 * m - 1) (q - 1)
  ⟨Ratio.ofBinary m q, low, Ratio.ofBinary (2 * m + 1) (q - 1), m % 2 = 0⟩

/-- Whether a number reads back as the double. -/
def Interval.contains (i : Interval) (r : Ratio) : Bool :=
  if i.closed then i.low.le r && r.le i.high else i.low.lt r && r.lt i.high

/-- The least `k` with `r < 10 ^ k`, searched upwards. -/
def magnitude (r : Ratio) : Int → Nat → Int
  | k, 0 => k
  | k, n + 1 => if r.lt (Ratio.ofDecimal 1 k) then k else magnitude r (k + 1) n

/-- The two multiples of `10 ^ e` around the value that read back, the nearer first. -/
def onGrid? (i : Interval) (e : Int) : Option Nat :=
  let below := i.value.floorAt e
  let candidates := [below, below + 1].filter fun d => d ≠ 0 && i.contains (Ratio.ofDecimal d e)
  match candidates with
  | [a, b] =>
    let da := (Ratio.ofDecimal a e).dist i.value
    let db := (Ratio.ofDecimal b e).dist i.value
    some (if da.lt db then a else if db.lt da then b else if a % 2 = 0 then a else b)
  | [a] => some a
  | _ => none

/-- The first grid with a point that reads back, from the coarsest: digits and exponent. -/
def firstGrid (i : Interval) (k : Int) : Nat → List Nat → Nat × Int
  | fallback, [] => (fallback, 0)
  | fallback, n :: rest =>
    match onGrid? i (k - n) with
    | some d => (d, k - n)
    | none => firstGrid i k fallback rest

/-- Moves the zeros at the end of the digits into the exponent. -/
def dropZeros (d : Nat) (e : Int) : Nat → Nat × Int
  | 0 => (d, e)
  | n + 1 => if d ≠ 0 ∧ d % 10 = 0 then dropZeros (d / 10) (e + 1) n else (d, e)

/-- Digits `d` and exponent `e` of the shortest decimal `d * 10 ^ e` that reads back as a positive
finite double. -/
def shortest (f : Float) : Nat × Int :=
  let i := Interval.ofBits f.toBits
  let k := magnitude i.value (-330) 700
  let (d, e) := firstGrid i k 0 (List.range' 1 17)
  dropZeros d e 20

end MessageRouter.Decimal
