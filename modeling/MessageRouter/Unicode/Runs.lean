import MessageRouter.CharSet

/-!
# Tables of characters

The Unicode standard gives properties to runs of neighbouring code points.  A table for a set
tells in turn how many code points are left out and how many belong to it; a table of values lists
runs in ascending order, each as its length and the letters of its value.  All numbers are in
lower-case hexadecimal.
-/

namespace MessageRouter.Unicode

/-- The value of a lower-case hexadecimal digit. -/
def hexDigit? (c : Char) : Option Nat :=
  if '0' ≤ c ∧ c ≤ '9' then some (c.toNat - '0'.toNat)
  else if 'a' ≤ c ∧ c ≤ 'f' then some (c.toNat - 'a'.toNat + 10)
  else none

/-! ## Sets -/

/-- The numbers in a text with single blanks between them, given the value of the digits so far. -/
def readNumbers (value : Nat) : List Char → List Nat
  | [] => [value]
  | c :: rest =>
    match hexDigit? c with
    | some d => readNumbers (16 * value + d) rest
    | none => value :: readNumbers 0 rest

/-- The places that lie at the given distances from one another. -/
def placesAt (start : Nat) : List Nat → List Nat
  | [] => []
  | d :: ds => (start + d) :: placesAt (start + d) ds

/-- The set that a table describes. -/
def charsOfRuns (lines : List String) : CharSet :=
  .inter .all (.ofBounds (placesAt 0 (lines.flatMap fun line => readNumbers 0 line.toList)))

/-! ## Values -/

/-- A run of code points with one value; the next run tells where it ends. -/
structure Run (α : Type) where
  start : Nat
  value : α

/-- Reads a table in which every value has `width` letters; `length` is what has been read of the
length of the run at `start`. -/
def readRuns (width start length : Nat) : Nat → List Char → List (Run String)
  | fuel + 1, c :: rest =>
    match hexDigit? c with
    | some d => readRuns width start (16 * length + d) fuel rest
    | none =>
      ⟨start, String.ofList ((c :: rest).take width)⟩ ::
        readRuns width (start + length) 0 fuel (rest.drop (width - 1))
  | _, _ => []

/-- The runs that a table lists. -/
def runsOf (width : Nat) (lines : List String) : List (Run String) :=
  let cs := lines.flatMap String.toList
  readRuns width 0 0 cs.length cs

/-- The bounds of the code points with a value that satisfies `p`. -/
def boundsWhere {α : Type} (p : α → Bool) : Bool → List (Run α) → List Nat
  | _, [] => []
  | inside, r :: rest =>
    if p r.value = inside then boundsWhere p inside rest
    else r.start :: boundsWhere p (!inside) rest

/-- The characters with a value that satisfies `p`. -/
def charsWhere {α : Type} (p : α → Bool) (runs : List (Run α)) : CharSet :=
  .inter .all (.ofBounds (boundsWhere p false runs))

end MessageRouter.Unicode
