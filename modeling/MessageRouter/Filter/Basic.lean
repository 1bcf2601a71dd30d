/-!
# Filters

A filter is a condition on properties: a comparison of one property with a text, or a
combination of other filters.  Its written form puts every filter between parentheses, with the
combining sign in front of the filters that it combines.
-/

namespace MessageRouter

/-- A condition on properties. -/
inductive Filter where
  | all (filters : List Filter)
  | any (filters : List Filter)
  | not (filter : Filter)
  | equal (key value : String)
  | approx (key value : String)
  | atLeast (key value : String)
  | atMost (key value : String)
  | present (key : String)
  | substring (key : String) (parts : List String)
  deriving Inhabited

namespace Filter

/-! ## Equality -/

mutual

def beq : Filter → Filter → Bool
  | .all fs, .all gs => beqList fs gs
  | .any fs, .any gs => beqList fs gs
  | .not f, .not g => beq f g
  | .equal k v, .equal l w => k == l && v == w
  | .approx k v, .approx l w => k == l && v == w
  | .atLeast k v, .atLeast l w => k == l && v == w
  | .atMost k v, .atMost l w => k == l && v == w
  | .present k, .present l => k == l
  | .substring k ps, .substring l qs => k == l && ps == qs
  | _, _ => false

def beqList : List Filter → List Filter → Bool
  | [], [] => true
  | f :: fs, g :: gs => beq f g && beqList fs gs
  | _, _ => false

end

mutual

theorem beq_iff (f g : Filter) : beq f g = true ↔ f = g := by
  cases f <;> cases g <;> simp [beq, beq_iff, beqList_iff]

theorem beqList_iff (fs gs : List Filter) : beqList fs gs = true ↔ fs = gs := by
  cases fs <;> cases gs <;> simp [beqList, beq_iff, beqList_iff]

end

instance : DecidableEq Filter := fun f g => decidable_of_iff _ (beq_iff f g)

/-! ## Written form -/

/-- The characters that need a backslash before them in a value. -/
def isSpecial (c : Char) : Bool := c == '(' || c == ')' || c == '*' || c == '\\'

def escapeChars : List Char → List Char
  | [] => []
  | c :: rest => if isSpecial c then '\\' :: c :: escapeChars rest else c :: escapeChars rest

/-- A value as it is written in a filter. -/
def escape (value : String) : String := String.ofList (escapeChars value.toList)

/-- A comparison between its parentheses. -/
def writeItem (key operator value : String) : String := "(" ++ key ++ operator ++ value ++ ")"

mutual

/-- The written form of a filter. -/
def text : Filter → String
  | .all fs => "(&" ++ textList fs ++ ")"
  | .any fs => "(|" ++ textList fs ++ ")"
  | .not f => "(!" ++ text f ++ ")"
  | .equal k v => writeItem k "=" (escape v)
  | .approx k v => writeItem k "~=" (escape v)
  | .atLeast k v => writeItem k ">=" (escape v)
  | .atMost k v => writeItem k "<=" (escape v)
  | .present k => writeItem k "=" "*"
  | .substring k ps => writeItem k "=" ("*".intercalate (ps.map escape))

def textList : List Filter → String
  | [] => ""
  | f :: fs => text f ++ textList fs

end

instance : ToString Filter := ⟨text⟩

end Filter

end MessageRouter
