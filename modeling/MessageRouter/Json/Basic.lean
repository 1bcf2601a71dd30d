import MessageRouter.Dict

/-!
# JSON values

Whole numbers and floating-point numbers are different values (`1` is not `1.0`), and an object
lists its members by ascending name.
-/

namespace MessageRouter

/-- A JSON number: a whole number in the range of 64-bit words, or a finite double. -/
inductive Json.Number where
  | int (value : Int)
  | float (value : Float)
  deriving Inhabited

/-- A JSON value. -/
inductive Json where
  | null
  | bool (value : Bool)
  | num (value : Json.Number)
  | str (value : String)
  | arr (items : List Json)
  | obj (members : List (String × Json))
  deriving Inhabited

namespace Json

/-- An object; of two members with one name the later counts. -/
def mkObj (members : List (String × Json)) : Json := .obj (Dict.ofList members).entries

def ofInt (n : Int) : Json := .num (.int n)

def ofNat (n : Nat) : Json := .num (.int n)

/-- The member of an object with the given name. -/
def get? (key : String) : Json → Option Json
  | .obj members => members.lookup key
  | _ => none

/-! ## Equality -/

/-- Equal numbers of one kind; the two zeros of floating point are equal. -/
def Number.beq : Number → Number → Bool
  | .int a, .int b => a == b
  | .float a, .float b => a == b
  | _, _ => false

mutual

/-- Equal values of one kind. -/
def beq : Json → Json → Bool
  | .null, .null => true
  | .bool a, .bool b => a == b
  | .num a, .num b => a.beq b
  | .str a, .str b => a == b
  | .arr a, .arr b => beqItems a b
  | .obj a, .obj b => beqMembers a b
  | _, _ => false

def beqItems : List Json → List Json → Bool
  | [], [] => true
  | a :: as, b :: bs => beq a b && beqItems as bs
  | _, _ => false

def beqMembers : List (String × Json) → List (String × Json) → Bool
  | [], [] => true
  | (k, a) :: as, (l, b) :: bs => k == l && beq a b && beqMembers as bs
  | _, _ => false

end

instance : BEq Json := ⟨beq⟩

end Json

end MessageRouter
