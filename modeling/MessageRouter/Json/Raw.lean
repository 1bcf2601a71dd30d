import MessageRouter.Text.Bytes

/-!
# JSON as written

A raw tree keeps what a JSON text says before any of it is judged: numbers keep their digits,
members keep their order and repetitions, and a string whose escapes are no characters keeps its
place without a text.  Reading a value out of the tree (`Json.ofRaw?`) or a record
(`MessageRouter.Json.Decode`) then accepts or refuses each part.
-/

namespace MessageRouter.Json

/-- A number as written: sign, digits, digits after the point, and a signed exponent. -/
structure Numeral where
  minus : Bool
  whole : List Char
  fraction : Option (List Char)
  exponent : Option (Bool × List Char)

/-- A JSON text as a tree; a string is `none` if an escape in it stands for no character. -/
inductive Raw where
  | null
  | bool (value : Bool)
  | number (value : Numeral)
  | string (value : Option String)
  | array (items : List Raw)
  | object (members : List (Option String × Raw))

/-! ## Tokens -/

def isSpace (c : Char) : Bool := c == ' ' || c == '\n' || c == '\t' || c == '\r'

def skipSpace (cs : List Char) : List Char := cs.dropWhile isSpace

def hexQuad? (a b c d : Char) : Option Nat := do
  let a ← Text.hexValue? a
  let b ← Text.hexValue? b
  let c ← Text.hexValue? c
  let d ← Text.hexValue? d
  return ((a * 16 + b) * 16 + c) * 16 + d

/-- The character that a short escape stands for. -/
def shortEscape? : Char → Option Char
  | '"' => some '"'
  | '\\' => some '\\'
  | '/' => some '/'
  | 'b' => some '\x08'
  | 'f' => some '\x0c'
  | 'n' => some '\n'
  | 'r' => some '\r'
  | 't' => some '\t'
  | _ => none

/-- The code units of a string after its opening quote, and what follows the closing one. -/
def readUnits? : List Char → Option (List Nat × List Char)
  | '"' :: rest => some ([], rest)
  | '\\' :: 'u' :: a :: b :: c :: d :: rest => do
    let unit ← hexQuad? a b c d
    let (units, rest) ← readUnits? rest
    return (unit :: units, rest)
  | '\\' :: e :: rest => do
    let c ← shortEscape? e
    let (units, rest) ← readUnits? rest
    return (c.toNat :: units, rest)
  | c :: rest =>
    if c.val < 0x20 ∨ c = '\\' then none
    else do
      let (units, rest) ← readUnits? rest
      return (c.toNat :: units, rest)
  | [] => none

/-- Joins surrogate pairs; a surrogate without its partner is no character. -/
def joinUnits? : List Nat → Option (List Char)
  | h :: l :: rest =>
    if 0xD800 ≤ h ∧ h < 0xDC00 then
      if 0xDC00 ≤ l ∧ l < 0xE000 then
        (joinUnits? rest).map (Char.ofNat (0x10000 + (h - 0xD800) * 0x400 + (l - 0xDC00)) :: ·)
      else none
    else if 0xDC00 ≤ h ∧ h < 0xE000 then none
    else (joinUnits? (l :: rest)).map (Char.ofNat h :: ·)
  | [h] => if 0xD800 ≤ h ∧ h < 0xE000 then none else some [Char.ofNat h]
  | [] => some []

/-- A string after its opening quote. -/
def readString? (cs : List Char) : Option (Option String × List Char) := do
  let (units, rest) ← readUnits? cs
  return ((joinUnits? units).map String.ofList, rest)

/-- The digits after a point, if one follows. -/
def readFraction? : List Char → Option (Option (List Char) × List Char)
  | '.' :: rest =>
    let (ds, rest) := rest.span Char.isDigit
    if ds = [] then none else some (some ds, rest)
  | cs => some (none, cs)

/-- The signed digits after `e`, if one follows. -/
def readExponent? : List Char → Option (Option (Bool × List Char) × List Char)
  | c :: rest =>
    if c = 'e' ∨ c = 'E' then
      let (minus, rest) := match rest with
        | '-' :: rest => (true, rest)
        | '+' :: rest => (false, rest)
        | rest => (false, rest)
      let (ds, rest) := rest.span Char.isDigit
      if ds = [] then none else some (some (minus, ds), rest)
    else some (none, c :: rest)
  | [] => some (none, [])

/-- A number: no zero before further digits, and digits around every point and exponent. -/
def readNumeral? (cs : List Char) : Option (Numeral × List Char) := do
  let (minus, cs) := match cs with
    | '-' :: rest => (true, rest)
    | cs => (false, cs)
  let (whole, rest) := cs.span Char.isDigit
  if whole = [] ∨ (whole.head? = some '0' ∧ 1 < whole.length) then none
  let (fraction, rest) ← readFraction? rest
  let (exponent, rest) ← readExponent? rest
  return (⟨minus, whole, fraction, exponent⟩, rest)

/-- What follows `word`, if the text starts with it. -/
def dropWord? (word : String) (cs : List Char) : Option (List Char) :=
  if word.toList.isPrefixOf cs then some (cs.drop word.length) else none

/-! ## The tree -/

mutual

/-- A value and what follows it; each nested value takes one from `fuel`. -/
def readValue? : Nat → List Char → Option (Raw × List Char)
  | 0, _ => none
  | fuel + 1, cs =>
    match skipSpace cs with
    | 'n' :: rest => (dropWord? "ull" rest).map (Raw.null, ·)
    | 't' :: rest => (dropWord? "rue" rest).map (Raw.bool true, ·)
    | 'f' :: rest => (dropWord? "alse" rest).map (Raw.bool false, ·)
    | '"' :: rest => (readString? rest).map fun (s, rest) => (.string s, rest)
    | '[' :: rest =>
      match skipSpace rest with
      | ']' :: rest => some (.array [], rest)
      | rest => (readItems? fuel rest).map fun (items, rest) => (.array items, rest)
    | '\x7b' :: rest =>
      match skipSpace rest with
      | '\x7d' :: rest => some (.object [], rest)
      | rest => (readMembers? fuel rest).map fun (members, rest) => (.object members, rest)
    | rest => (readNumeral? rest).map fun (n, rest) => (.number n, rest)

/-- The items of an array up to its closing bracket. -/
def readItems? : Nat → List Char → Option (List Raw × List Char)
  | 0, _ => none
  | fuel + 1, cs => do
    let (item, rest) ← readValue? fuel cs
    match skipSpace rest with
    | ',' :: rest =>
      let (items, rest) ← readItems? fuel rest
      return (item :: items, rest)
    | ']' :: rest => return ([item], rest)
    | _ => none

/-- The members of an object up to its closing brace. -/
def readMembers? : Nat → List Char → Option (List (Option String × Raw) × List Char)
  | 0, _ => none
  | fuel + 1, cs =>
    match skipSpace cs with
    | '"' :: rest => do
      let (key, rest) ← readString? rest
      match skipSpace rest with
      | ':' :: rest =>
        let (value, rest) ← readValue? fuel rest
        match skipSpace rest with
        | ',' :: rest =>
          let (members, rest) ← readMembers? fuel rest
          return ((key, value) :: members, rest)
        | '\x7d' :: rest => return ([(key, value)], rest)
        | _ => none
      | _ => none
    | _ => none

end

/-- The tree of a text that holds one value and white space. -/
def Raw.read? (s : String) : Option Raw :=
  match readValue? (s.length + 1) s.toList with
  | some (raw, rest) => if skipSpace rest = [] then some raw else none
  | none => none

end MessageRouter.Json
