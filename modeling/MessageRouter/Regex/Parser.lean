import MessageRouter.Regex.Property
import MessageRouter.Regex.Size
import MessageRouter.Text.Blank
import MessageRouter.Text.Bytes

/-!
# Reading regular expressions

The written form knows groups, choices, repetition counts, sets between brackets, escapes, and
flags that hold up to the end of the group in which they are set.  Look-around and references to
groups do not exist, so that every expression describes a regular language.
-/

namespace MessageRouter.Regex

/-- The flags under which a part of an expression is read. -/
structure Flags where
  ignoreCase : Bool := false
  multiLine : Bool := false
  dotNewline : Bool := false
  swapGreed : Bool := false
  unicode : Bool := true
  returns : Bool := false
  ignoreSpace : Bool := false

/-- What has not been read yet, with the flags and the names of groups that hold there. -/
structure Cursor where
  rest : List Char
  flags : Flags := {}
  names : List (List Char) := []

namespace Cursor

/-- Drops white space and comments. -/
def dropSpace : Nat → List Char → List Char
  | 0, cs => cs
  | fuel + 1, cs =>
    match cs.dropWhile Text.isBlank with
    | '#' :: rest => dropSpace fuel (rest.dropWhile (· != '\n'))
    | rest => rest

/-- Goes past white space and comments where they do not count. -/
def skipSpace (k : Cursor) : Cursor :=
  if k.flags.ignoreSpace then { k with rest := dropSpace (k.rest.length + 1) k.rest } else k

/-- Goes to another place of the text. -/
def jump (k : Cursor) (rest : List Char) : Cursor := { k with rest }

/-- Goes to another place of the text, or past the white space there. -/
def past (k : Cursor) (rest : List Char) : Cursor := (k.jump rest).skipSpace

/-- The character that comes next, found without reading any comment: where white space does not
count, it is the next one that is no white space, or the next such one after a first `#`. -/
def peek? (k : Cursor) (cs : List Char) : Option Char :=
  if k.flags.ignoreSpace then
    let seen := match cs.dropWhile Text.isBlank with
      | '#' :: rest => rest.dropWhile Text.isBlank
      | rest => rest
    seen.head? <|> cs.head?
  else cs.head?

end Cursor

/-! ## Sets and characters -/

/-- The set without regard to case, if the flags say so. -/
def fold (flags : Flags) (s : CharSet) : CharSet :=
  if flags.ignoreCase then if flags.unicode then Unicode.upToCase s else Unicode.upToAsciiCase s
  else s

/-- The set or its complement; without the Unicode flag there are no complements, since they would
reach beyond ASCII. -/
def negate? (flags : Flags) (negated : Bool) (s : CharSet) : Option CharSet :=
  if !negated then some s else if flags.unicode then some s.complement else none

/-- The characters that `.` stands for; without the Unicode flag it would stand for bytes. -/
def dotSet? (flags : Flags) : Option CharSet :=
  if !flags.unicode then none
  else if flags.dotNewline then some .all
  else if flags.returns then some (.complement (.ofCodes [0x0A, 0x0D]))
  else some (.complement (.single '\n'))

/-! ## Escapes -/

/-- What an escape stands for; a number of just two digits may be meant as a byte. -/
inductive Escaped where
  | char (c : Char) (isByte : Bool)
  | set (s : CharSet)
  | anchor (a : Anchor)

/-- The character with a number, if there is one. -/
def charOf? (n : Nat) : Option Char := if h : n.isValidChar then some (Char.ofNatAux n h) else none

/-- Hexadecimal digits as a number. -/
def hexNumber? (ds : List Char) : Option Nat :=
  (ds.mapM Text.hexValue?).map fun vs => vs.foldl (16 * · + ·) 0

/-- The digits up to a closing brace. -/
def readBraced? (k : Cursor) : Nat → List Char → List Char → Option (List Char × List Char)
  | 0, _, _ => none
  | fuel + 1, taken, cs =>
    match (k.past cs).rest with
    | [] => none
    | '\x7d' :: rest => some (taken.reverse, rest)
    | c :: rest => readBraced? k fuel (c :: taken) rest

/-- A given number of digits, with white space between them where it does not count. -/
def readDigits? (k : Cursor) : Nat → List Char → Option (List Char × List Char)
  | 0, cs => some ([], cs)
  | count + 1, cs =>
    match (k.past cs).rest with
    | c :: rest => (readDigits? k count rest).map fun (ds, rest) => (c :: ds, rest)
    | [] => none

/-- A character by its number, with `count` digits or any number of them between braces. -/
def readHex? (k : Cursor) (count : Nat) (cs : List Char) : Option (Char × Cursor) :=
  match (k.past cs).rest with
  | '\x7b' :: rest => do
    let (ds, rest) ← readBraced? k (rest.length + 1) [] rest
    if ds = [] then none
    let c ← (hexNumber? ds).bind charOf?
    return (c, k.past rest)
  | rest => do
    let (ds, rest) ← readDigits? k count rest
    let c ← (hexNumber? ds).bind charOf?
    return (c, k.past rest)

/-- The set that `\p` or `\P` names, given the text after it. -/
def readProperty? (k : Cursor) (negated : Bool) (cs : List Char) : Option (CharSet × Cursor) := do
  if !k.flags.unicode then none
  let (name, rest) ← match (k.past cs).rest with
    | '\x7b' :: rest => readBraced? k (rest.length + 1) [] rest
    | c :: rest => some ([c], rest)
    | [] => none
  let (s, isOther) ← CharSet.ofProperty? name
  let s ← negate? k.flags (negated != isOther) (fold k.flags s)
  return (s, k.jump rest)

/-- The word conditions that have a name between braces. -/
def ofBoundaryName? (ascii : Bool) : String → Option Anchor
  | "start" => some (.wordStart ascii)
  | "end" => some (.wordEnd ascii)
  | "start-half" => some (.noWordBefore ascii)
  | "end-half" => some (.noWordAfter ascii)
  | _ => none

/-- The condition after `\b`; a brace starts its name or else a repetition count. -/
def readBoundary? (k : Cursor) (cs : List Char) : Option (Anchor × Cursor) :=
  let ascii := !k.flags.unicode
  let isNameChar (c : Char) : Bool := c.isAlpha || c == '-'
  match cs with
  | '\x7b' :: rest =>
    match (k.past rest).rest with
    | [] => none
    | c :: _ =>
      if isNameChar c then do
        let (name, rest) ← readBraced? k (rest.length + 1) [] rest
        if !name.all isNameChar then none
        let a ← ofBoundaryName? ascii (String.ofList name)
        return (a, k.jump rest)
      else some (.wordBoundary ascii, k.jump cs)
  | cs => some (.wordBoundary ascii, k.jump cs)

/-- Characters that stand for themselves after a backslash: all of ASCII that has no other use. -/
def isEscapable (c : Char) : Bool := c.val < 0x80 && !c.isAlphanum && c != '<' && c != '>'

/-- What follows a backslash. -/
def readEscape? (k : Cursor) : List Char → Option (Escaped × Cursor)
  | [] => none
  | c :: rest =>
    let plain (e : Escaped) : Option (Escaped × Cursor) := some (e, k.jump rest)
    match c with
    | 'x' =>
      let isByte := (k.past rest).rest.head? != some '\x7b'
      (readHex? k 2 rest).map fun (c, k) => (.char c isByte, k)
    | 'u' => (readHex? k 4 rest).map fun (c, k) => (.char c false, k)
    | 'U' => (readHex? k 8 rest).map fun (c, k) => (.char c false, k)
    | 'p' => (readProperty? k false rest).map fun (s, k) => (.set s, k)
    | 'P' => (readProperty? k true rest).map fun (s, k) => (.set s, k)
    | 'a' => plain (.char '\x07' false)
    | 'f' => plain (.char '\x0c' false)
    | 't' => plain (.char '\t' false)
    | 'n' => plain (.char '\n' false)
    | 'r' => plain (.char '\r' false)
    | 'v' => plain (.char '\x0b' false)
    | 'A' => plain (.anchor .textStart)
    | 'z' => plain (.anchor .textEnd)
    | 'b' => (readBoundary? k rest).map fun (a, k) => (.anchor a, k)
    | 'B' => plain (.anchor (.noWordBoundary (!k.flags.unicode)))
    | '<' => plain (.anchor (.wordStart (!k.flags.unicode)))
    | '>' => plain (.anchor (.wordEnd (!k.flags.unicode)))
    | c =>
      match CharSet.ofLetter? (!k.flags.unicode) c.toLower with
      | some s => (negate? k.flags c.isUpper s).bind fun s => plain (.set s)
      | none => if isEscapable c then plain (.char c false) else none

/-! ## Sets between brackets -/

/-- A set inside brackets, with the depth to which it is nested. -/
structure Member where
  chars : CharSet
  depth : Nat := 0

/-- The three signs that combine sets. -/
inductive SetSign where
  | inter
  | diff
  | symmDiff

def SetSign.combine : SetSign → CharSet → CharSet → CharSet
  | .inter => .inter
  | .diff => .diff
  | .symmDiff => .symmDiff

/-- Combines the set before a sign with the one after it. -/
def combine (flags : Flags) : Option (Member × SetSign) → Member → Member
  | none, b => b
  | some (a, sign), b =>
    ⟨sign.combine (fold flags a.chars) (fold flags b.chars), max a.depth b.depth + 1⟩

/-- Several sets as one. -/
def unionOf : List Member → Member
  | [] => ⟨.empty, 0⟩
  | [m] => m
  | ms => ⟨.unionAll (ms.map (·.chars)), (ms.map (·.depth)).foldl max 0 + 1⟩

/-- A single character or a class inside brackets. -/
def readMember? (k : Cursor) : Option (Escaped × Cursor) :=
  match k.rest with
  | '\\' :: rest => readEscape? k rest
  | c :: rest => some (.char c false, k.jump rest)
  | [] => none

/-- A character as a member; without the Unicode flag it must be one of ASCII. -/
def char? (flags : Flags) : Escaped → Option Char
  | .char c _ => if flags.unicode ∨ c.val < 0x80 then some c else none
  | _ => none

def memberOf? (flags : Flags) : Escaped → Option Member
  | .set s => some ⟨s, 0⟩
  | e => (char? flags e).map fun c => ⟨.single c, 0⟩

/-- A character, a class, or a range from one character to another. -/
def readRange? (k : Cursor) : Option (Member × Cursor) := do
  let (first, k) ← readMember? k
  let k := k.skipSpace
  match k.rest with
  | '-' :: rest =>
    match k.peek? rest with
    | some ']' | some '-' => return (← memberOf? k.flags first, k)
    | _ =>
      let (last, k) ← readMember? (k.past rest)
      let a ← char? k.flags first
      let b ← char? k.flags last
      if a ≤ b then some (⟨.range a.toNat b.toNat, 0⟩, k) else none
  | [] => none
  | _ => return (← memberOf? k.flags first, k)

/-- The class that a name between colons stands for, with what follows it. -/
structure NamedClass where
  chars : CharSet
  negated : Bool
  rest : List Char

/-- A class with a name between colons, given the text after its bracket. -/
def readNamedClass? (cs : List Char) : Option NamedClass :=
  match cs with
  | ':' :: rest =>
    let (negated, rest) := match rest with
      | '^' :: rest => (true, rest)
      | rest => (false, rest)
    let (name, rest) := rest.span (· != ':')
    match rest, CharSet.ofClassName? (String.ofList name) with
    | ':' :: ']' :: rest, some s => some ⟨s, negated, rest⟩
    | _, _ => none
  | _ => none

/-- The dashes at the start of a set, which stand for themselves. -/
def readDashes (k : Cursor) : Nat → Cursor → List Member → Cursor × List Member
  | 0, c, ms => (c, ms)
  | fuel + 1, c, ms =>
    match c.rest with
    | '-' :: rest => readDashes k fuel (c.past rest) (⟨.single '-', 0⟩ :: ms)
    | _ => (c, ms)

/-- The start of a set after its bracket: whether it is a complement, and its first members. -/
def readSetStart (k : Cursor) : Bool × Cursor × List Member :=
  let k := k.skipSpace
  let (negated, k) := match k.rest with
    | '^' :: rest => (true, k.past rest)
    | _ => (false, k)
  let (k, ms) := readDashes k k.rest.length k []
  match ms, k.rest with
  | [], ']' :: rest => (negated, k.past rest, [⟨.single ']', 0⟩])
  | ms, _ => (negated, k, ms)

/-- The sign at a place, if there is one. -/
def readSign? : List Char → Option (SetSign × List Char)
  | '&' :: '&' :: rest => some (.inter, rest)
  | '-' :: '-' :: rest => some (.diff, rest)
  | '~' :: '~' :: rest => some (.symmDiff, rest)
  | _ => none

/-- The rest of a set, given what stands before the last sign and the members since then. -/
def readSet? : Nat → Cursor → Bool → Option (Member × SetSign) → List Member →
    Option (Member × Cursor)
  | 0, _, _, _, _ => none
  | fuel + 1, k, negated, before, ms =>
    let k := k.skipSpace
    match k.rest with
    | [] => none
    | ']' :: rest => do
      let m := combine k.flags before (unionOf ms.reverse)
      let s ← negate? k.flags negated (fold k.flags m.chars)
      return (⟨s, m.depth + 1⟩, k.jump rest)
    | '[' :: rest =>
      match readNamedClass? rest with
      | some c => do
        let s ← negate? k.flags c.negated (fold k.flags c.chars)
        readSet? fuel (k.jump c.rest) negated before (⟨s, 0⟩ :: ms)
      | none => do
        let (inside, k', members) := readSetStart (k.jump rest)
        let (m, k') ← readSet? fuel k' inside none members
        readSet? fuel k' negated before (m :: ms)
    | rest =>
      match readSign? rest with
      | some (sign, rest) =>
        let a := combine k.flags before (unionOf ms.reverse)
        readSet? fuel (k.jump rest) negated (some (a, sign)) []
      | none => do
        let (m, k) ← readRange? k
        readSet? fuel k negated before (m :: ms)

/-! ## Repetition -/

/-- A count with any white space around it; `none` inside if there are no digits. -/
def readCount? (k : Cursor) (cs : List Char) : Option (Option Nat × List Char) :=
  let rec digits : Nat → List Char → List Char → List Char × List Char
    | 0, ds, cs => (ds.reverse, cs)
    | fuel + 1, ds, cs =>
      match cs with
      | c :: rest =>
        if c.isDigit then digits fuel (c :: ds) (k.past rest).rest else (ds.reverse, c :: rest)
      | [] => (ds.reverse, [])
  let (ds, rest) := digits cs.length [] (cs.dropWhile Text.isBlank)
  let rest := (k.past (rest.dropWhile Text.isBlank)).rest
  if ds = [] then some (none, rest)
  else
    let n := ds.foldl (fun n d => 10 * n + (d.toNat - '0'.toNat)) 0
    if n < 0x100000000 then some (some n, rest) else none

/-- The bounds between braces, given the text after the opening one. -/
def readBounds? (k : Cursor) (cs : List Char) : Option (Nat × Option Nat × List Char) := do
  let (low, rest) ← readCount? k (k.past cs).rest
  match rest with
  | '\x7d' :: rest =>
    let low ← low
    return (low, some low, rest)
  | ',' :: rest =>
    match (k.past rest).rest with
    | '\x7d' :: rest => return (← low, none, rest)
    | rest =>
      let (high, rest) ← readCount? k rest
      let low ← low
      let high ← high
      match rest with
      | '\x7d' :: rest => if low ≤ high then some (low, some high, rest) else none
      | _ => none
  | _ => none

/-- Whether the sign follows that makes a repetition prefer fewer rounds, and what follows it. -/
def readLazy : List Char → Bool × List Char
  | '?' :: rest => (true, rest)
  | rest => (false, rest)

/-! ## Groups -/

/-- A character of the name of a group. -/
def isNameChar (first : Bool) (c : Char) : Bool :=
  c == '_' || Unicode.currentAlphabetic.contains c ||
  (!first && (c == '.' || c == '[' || c == ']' || Unicode.currentNumbers.contains c))

/-- The name of a group up to the angle bracket that closes it. -/
def readName? (k : Cursor) (cs : List Char) : Option Cursor :=
  let (name, rest) := cs.span (· != '>')
  match name, rest with
  | c :: cs, '>' :: rest =>
    if isNameChar true c ∧ cs.all (isNameChar false) ∧ !k.names.contains name then
      some { k with rest, names := name :: k.names }
    else none
  | _, _ => none

/-- Sets one flag. -/
def Flags.set? (f : Flags) (value : Bool) : Char → Option Flags
  | 'i' => some { f with ignoreCase := value }
  | 'm' => some { f with multiLine := value }
  | 's' => some { f with dotNewline := value }
  | 'U' => some { f with swapGreed := value }
  | 'u' => some { f with unicode := value }
  | 'R' => some { f with returns := value }
  | 'x' => some { f with ignoreSpace := value }
  | _ => none

/-- Flags up to a colon or parenthesis; each is named once, and one stands after the minus. -/
def readFlags? : Flags → Bool → List Char → List Char → Option (Flags × List Char × List Char)
  | f, minus, seen, c :: rest =>
    if c = ':' ∨ c = ')' then
      if minus ∧ seen.head? = some '-' then none else some (f, seen, c :: rest)
    else if seen.contains c then none
    else if c = '-' then readFlags? f true (c :: seen) rest
    else
      match f.set? (!minus) c with
      | some f => readFlags? f minus (c :: seen) rest
      | none => none
  | _, _, _, [] => none

/-- What a parenthesis opens. -/
inductive Opening where
  | group (captures : Bool) (k : Cursor)
  | flags (k : Cursor)

/-- What follows an opening parenthesis. -/
def readOpening? (k : Cursor) (cs : List Char) : Option Opening :=
  let k := k.past cs
  match k.rest with
  | '?' :: 'P' :: '<' :: rest => (readName? k rest).map (.group true)
  | '?' :: '<' :: c :: rest =>
    if c = '=' ∨ c = '!' then none else (readName? k (c :: rest)).map (.group true)
  | '?' :: rest => do
    let (flags, seen, rest) ← readFlags? k.flags false [] rest
    match rest with
    | ')' :: rest => if seen = [] then none else some (.flags { k with rest, flags })
    | _ :: rest => some (.group false { k with rest, flags })
    | [] => none
  | _ => some (.group true k)

/-! ## Expressions -/

/-- Expressions one after another as one. -/
def sequenceOf : List Regex → Regex
  | [] => .empty
  | [r] => r
  | rs => .sequence rs

/-- An expression that a repetition sign can follow; flags are none. -/
inductive Item where
  | expr (r : Regex)
  | flags

def Item.regex : Item → Regex
  | .expr r => r
  | .flags => .empty

/-- Repeats the last item, which must not be missing or a flag. -/
def repeatLast? (greedy : Bool) (low : Nat) (high : Option Nat) : List Item → Option (List Item)
  | .expr r :: items => some (.expr (.repeated greedy low high r) :: items)
  | _ => none

/-- A character as an expression; without the Unicode flag a byte must be one of ASCII. -/
def ofChar? (flags : Flags) (c : Char) (isByte : Bool) : Option Regex :=
  if isByte ∧ !flags.unicode ∧ 0x80 ≤ c.val then none
  else some (.set 0 (fold flags (.single c)))

/-- A choice between the branches; one branch alone is no choice. -/
def choiceOf (branches : List Regex) (items : List Item) : Regex :=
  let last := sequenceOf (items.reverse.map Item.regex)
  if branches.isEmpty then last else .choice (branches.reverse ++ [last])

/-- An expression up to the end or an unmatched parenthesis, given its branches so far and the
items of the last one, both in reverse. -/
def readChoice? : Nat → Cursor → List Regex → List Item → Option (Regex × Cursor)
  | 0, _, _, _ => none
  | fuel + 1, k, branches, items =>
    let k := k.skipSpace
    let flags := k.flags
    let put (r : Regex) (rest : List Char) : Option (Regex × Cursor) :=
      readChoice? fuel (k.jump rest) branches (.expr r :: items)
    let again (low : Nat) (high : Option Nat) (rest : List Char) : Option (Regex × Cursor) := do
      let (isLazy, rest) := readLazy rest
      let greedy := isLazy == flags.swapGreed
      readChoice? fuel (k.jump rest) branches (← repeatLast? greedy low high items)
    match k.rest with
    | [] => some (choiceOf branches items, k)
    | ')' :: _ => some (choiceOf branches items, k)
    | '|' :: rest =>
      readChoice? fuel (k.jump rest) (sequenceOf (items.reverse.map Item.regex) :: branches) []
    | '(' :: rest => do
      match ← readOpening? k rest with
      | .flags k => readChoice? fuel k branches (.flags :: items)
      | .group captures inner =>
        let (r, k') ← readChoice? fuel inner [] []
        match k'.rest with
        | ')' :: rest =>
          readChoice? fuel { k' with rest, flags } branches (.expr (.group captures r) :: items)
        | _ => none
    | '[' :: rest => do
      let (negated, k', members) := readSetStart (k.jump rest)
      let (m, k') ← readSet? k'.rest.length k' negated none members
      readChoice? fuel k' branches (.expr (.set m.depth m.chars) :: items)
    | '?' :: rest => again 0 (some 1) rest
    | '*' :: rest => again 0 none rest
    | '+' :: rest => again 1 none rest
    | '\x7b' :: rest => do
      let (low, high, rest) ← readBounds? k rest
      again low high (k.past rest).rest
    | '.' :: rest => do
      put (.set 0 (← dotSet? flags)) rest
    | '^' :: rest =>
      put (.anchor (if !flags.multiLine then .textStart
        else if flags.returns then .lineStartWithReturn else .lineStart)) rest
    | '$' :: rest =>
      put (.anchor (if !flags.multiLine then .textEnd
        else if flags.returns then .lineEndWithReturn else .lineEnd)) rest
    | '\\' :: rest => do
      let (e, k') ← readEscape? k rest
      let r ← match e with
        | .char c isByte => ofChar? flags c isByte
        | .set s => some (.set 0 s)
        | .anchor a => some (.anchor a)
      readChoice? fuel k' branches (.expr r :: items)
    | c :: rest => do
      put (← ofChar? flags c false) rest

/-- The expression that a text stands for. -/
def parse? (s : String) : Option Regex := do
  let (r, k) ← readChoice? (s.length + 1) ⟨s.toList, {}, []⟩ [] []
  if k.rest ≠ [] ∨ maxDepth < r.depth ∨ !(Compact.ofRegex r).fits then none
  return r

end MessageRouter.Regex
