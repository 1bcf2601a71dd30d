import MessageRouter.Regex.Basic

/-!
# Compact expressions

What is left of an expression when everything is taken out that makes no difference to its matches:
neighbouring characters are one literal, a choice between characters is a set, the beginning that
all branches of a choice share stands before it.  How large an expression is, is told by this form.
-/

namespace MessageRouter

/-- An expression without superfluous parts; a literal is a list of code points. -/
inductive Compact where
  | empty
  | literal (codes : List Nat)
  | set (s : CharSet)
  | anchor (a : Anchor)
  | capture (r : Compact)
  | repeated (greedy : Bool) (low : Nat) (high : Option Nat) (r : Compact)
  | sequence (rs : List Compact)
  | choice (rs : List Compact)

namespace Compact

/-! ## Lengths -/

/-- How many bytes a character has in UTF-8. -/
def byteCount (n : Nat) : Nat :=
  if n < 0x80 then 1 else if n < 0x800 then 2 else if n < 0x10000 then 3 else 4

/-- The sum of two lengths that may be unknown. -/
def addLengths? (a b : Option Nat) : Option Nat := a.bind fun a => b.map (a + ·)

/-- The better one of two lengths; an unknown one makes the result unknown. -/
def chooseLength? (better : Nat → Nat → Nat) (a b : Option Nat) : Option Nat :=
  a.bind fun a => b.map (better a)

mutual

/-- The least number of bytes of a match; unknown where nothing matches. -/
def minLength? : Compact → Option Nat
  | .empty | .anchor _ => some 0
  | .literal codes => some (codes.map byteCount).sum
  | .set s => s.ranges.head?.map fun (low, _) => byteCount low
  | .capture r => minLength? r
  | .repeated _ low _ r => (minLength? r).map (low * ·)
  | .sequence rs => minLengthAll? rs
  | .choice rs => minLengthAny? rs

def minLengthAll? : List Compact → Option Nat
  | [] => some 0
  | r :: rest => addLengths? (minLength? r) (minLengthAll? rest)

def minLengthAny? : List Compact → Option Nat
  | [] => none
  | [r] => minLength? r
  | r :: rest => chooseLength? min (minLength? r) (minLengthAny? rest)

end

mutual

/-- The greatest number of bytes of a match, if there is one. -/
def maxLength? : Compact → Option Nat
  | .empty | .anchor _ => some 0
  | .literal codes => some (codes.map byteCount).sum
  | .set s => s.ranges.getLast?.map fun (_, high) => byteCount high
  | .capture r => maxLength? r
  | .repeated _ _ high r => high.bind fun high => (maxLength? r).map (high * ·)
  | .sequence rs => maxLengthAll? rs
  | .choice rs => maxLengthAny? rs

def maxLengthAll? : List Compact → Option Nat
  | [] => some 0
  | r :: rest => addLengths? (maxLength? r) (maxLengthAll? rest)

def maxLengthAny? : List Compact → Option Nat
  | [] => none
  | [r] => maxLength? r
  | r :: rest => chooseLength? max (maxLength? r) (maxLengthAny? rest)

end

/-! ## Equality -/

mutual

/-- The two expressions are interchangeable; groups that capture never are. -/
def isSame : Compact → Compact → Bool
  | .empty, .empty => true
  | .literal cs, .literal ds => cs == ds
  | .set s, .set t => s == t
  | .anchor a, .anchor b => a == b
  | .repeated g low high r, .repeated g' low' high' r' =>
    g == g' && low == low' && high == high' && isSame r r'
  | .sequence rs, .sequence ts => areSame rs ts
  | .choice rs, .choice ts => areSame rs ts
  | _, _ => false

def areSame : List Compact → List Compact → Bool
  | [], [] => true
  | r :: rs, t :: ts => isSame r t && areSame rs ts
  | _, _ => false

end

/-- How many expressions both lists have in common at their beginning. -/
def commonCount : List Compact → List Compact → Nat
  | r :: rs, t :: ts => if isSame r t then commonCount rs ts + 1 else 0
  | _, _ => 0

/-! ## Putting expressions together -/

/-- A set of characters; one character alone is a literal. -/
def ofSet (s : CharSet) : Compact :=
  match s.single? with
  | some n => .literal [n]
  | none => .set s

/-- Repetition; what can only match the empty text need not be repeated. -/
def repeatOf (greedy : Bool) (low : Nat) (high : Option Nat) (r : Compact) : Compact :=
  let isEmpty := maxLength? r == some 0
  let low := if isEmpty then min low 1 else low
  let high := if isEmpty then some (min (high.getD 1) 1) else high
  match low, high with
  | 0, some 0 => .empty
  | 1, some 1 => r
  | low, high => .repeated greedy low high r

/-- The parts of a sequence, or the expression as the only one. -/
def parts : Compact → List Compact
  | .sequence rs => rs
  | .empty => []
  | r => [r]

/-- Puts an expression before a list, as part of the literal there if both are literals. -/
def consLiteral : Compact → List Compact → List Compact
  | .literal cs, .literal ds :: rest => .literal (cs ++ ds) :: rest
  | r, rest => r :: rest

/-- Expressions one after another. -/
def sequenceOf (rs : List Compact) : Compact :=
  match (rs.flatMap parts).foldr consLiteral [] with
  | [] => .empty
  | [r] => r
  | rs => .sequence rs

/-- The branches of a choice, or the expression as the only one. -/
def branches : Compact → List Compact
  | .choice rs => rs
  | r => [r]

/-- The character that the expression stands for, if it is just one. -/
def char? : Compact → Option Nat
  | .literal [n] => some n
  | _ => none

/-- The set that the expression is, if it is one. -/
def set? : Compact → Option CharSet
  | .set s => some s
  | _ => none

/-- The parts of the sequence that the expression is, if it is one. -/
def sequence? : Compact → Option (List Compact)
  | .sequence rs => some rs
  | _ => none

/-- How many expressions all sequences have in common at their beginning. -/
def sharedCount : List (List Compact) → Nat
  | [] => 0
  | first :: rest => rest.foldl (fun count rs => min count (commonCount first rs)) first.length

/-- A choice between expressions; what all begin with is put before the choice between the rest,
at most `fuel` times over.  Each time goes at least one level deeper into the branches. -/
def choiceOf : Nat → List Compact → Compact
  | fuel, rs =>
    match rs.flatMap branches with
    | [] => .set .empty
    | [r] => r
    | rs =>
      match rs.mapM char?, rs.mapM set?, rs.mapM sequence?, fuel with
      | some codes, _, _, _ => ofSet (.ofCodes codes)
      | none, some sets, _, _ => ofSet (.unionAll sets)
      | none, none, some (first :: rest), fuel + 1 =>
        match sharedCount (first :: rest) with
        | 0 => .choice rs
        | count =>
          sequenceOf (first.take count ++
            [choiceOf fuel ((first :: rest).map fun rs => sequenceOf (rs.drop count))])
      | _, _, _, _ => .choice rs

mutual

/-- The compact form of an expression. -/
def ofRegex : Regex → Compact
  | .empty => .empty
  | .anchor a => .anchor a
  | .set _ s => ofSet s
  | .group true r => .capture (ofRegex r)
  | .group false r => ofRegex r
  | .repeated greedy low high r => repeatOf greedy low high (ofRegex r)
  | .sequence rs => sequenceOf (ofRegexes rs)
  | .choice rs => choiceOf (Regex.depthAll rs + 1) (ofRegexes rs)

def ofRegexes : List Regex → List Compact
  | [] => []
  | r :: rest => ofRegex r :: ofRegexes rest

end

end Compact

end MessageRouter
