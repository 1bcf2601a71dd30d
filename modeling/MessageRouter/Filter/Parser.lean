import MessageRouter.Error
import MessageRouter.Filter.Basic
import MessageRouter.Text.Blank

/-!
# Reading filters

A reader takes a filter off the front of a text and leaves the rest.  Where it fails it keeps what
it had not read yet, so the position of a fault is the number of characters before that.  White
space may stand around filters and names, and belongs to a value everywhere else.
-/

namespace MessageRouter.Filter

/-- What is wrong with a text that is no filter. -/
inductive Fault where
  | expected (c : Char)
  | tooDeep
  | missingFilter
  | emptyList
  | missingName
  | missingOperator
  | unterminatedValue
  | openInValue
  | danglingEscape
  | trailingInput
  deriving DecidableEq

/-- How many filters may stand inside each other, the outermost included. -/
def maxDepth : Nat := 64

def Fault.reason : Fault → String
  | .expected c => "expected '" ++ String.singleton c ++ "'"
  | .tooDeep => "filter nested deeper than " ++ toString maxDepth ++ " levels"
  | .missingFilter => "unexpected end of filter"
  | .emptyList => "empty filter list"
  | .missingName => "missing attribute name"
  | .missingOperator => "expected an operator"
  | .unterminatedValue => "unterminated value"
  | .openInValue => "unescaped '(' in value"
  | .danglingEscape => "dangling escape"
  | .trailingInput => "unexpected trailing input"

/-- A fault with what had not been read. -/
abbrev Stop := Fault × List Char

/-- Takes a value off the front of a text and leaves the rest. -/
abbrev Reader (α : Type) := List Char → Except Stop (α × List Char)

/-- The rest of a text that has to start with `c`. -/
def dropChar (c : Char) : List Char → Except Stop (List Char)
  | d :: rest => if d = c then .ok rest else .error (.expected c, d :: rest)
  | [] => .error (.expected c, [])

/-! ## Items -/

/-- The characters that end the name of a property. -/
def endsName (c : Char) : Bool :=
  c == '=' || c == '~' || c == '>' || c == '<' || c == '(' || c == ')'

/-- The name in front of an operator, without the white space around it. -/
def readName : Reader String := fun cs =>
  let (name, rest) := cs.span (!endsName ·)
  let name := Text.trim name
  if name = [] then .error (.missingName, rest) else .ok (String.ofList name, rest)

/-- The four comparisons. -/
inductive Operator where
  | equal
  | approx
  | atLeast
  | atMost
  deriving DecidableEq

/-- The operator that starts with a character other than `=`. -/
def Operator.ofSign? : Char → Option Operator
  | '~' => some .approx
  | '>' => some .atLeast
  | '<' => some .atMost
  | _ => none

def readOperator : Reader Operator
  | '=' :: rest => .ok (.equal, rest)
  | c :: rest =>
    match Operator.ofSign? c with
    | some op => do
      let rest ← dropChar '=' rest
      return (op, rest)
    | none => .error (.missingOperator, c :: rest)
  | [] => .error (.missingOperator, [])

/-- Puts a character in front of the first part. -/
def consPart (c : Char) : List (List Char) → List (List Char)
  | [] => [[c]]
  | p :: ps => (c :: p) :: ps

/-- The parts of a value between its wildcards, up to the parenthesis that closes the item. -/
def readParts : Reader (List (List Char))
  | [] => .error (.unterminatedValue, [])
  | '\\' :: c :: rest => do
    let (parts, rest) ← readParts rest
    return (consPart c parts, rest)
  | c :: rest =>
    if c = ')' then .ok ([[]], c :: rest)
    else if c = '(' then .error (.openInValue, c :: rest)
    else if c = '\\' then .error (.danglingEscape, rest)
    else do
      let (parts, rest) ← readParts rest
      return (if c = '*' then [] :: parts else consPart c parts, rest)

/-- The item that an operator and the parts of a value make; only `=` knows wildcards. -/
def ofParts (key : String) (op : Operator) (parts : List String) : Filter :=
  match op with
  | .approx => .approx key ("*".intercalate parts)
  | .atLeast => .atLeast key ("*".intercalate parts)
  | .atMost => .atMost key ("*".intercalate parts)
  | .equal =>
    match parts with
    | [value] => .equal key value
    | ["", ""] => .present key
    | parts => .substring key parts

def readItem : Reader Filter := fun cs => do
  let (key, rest) ← readName cs
  let (op, rest) ← readOperator rest
  let (parts, rest) ← readParts rest
  return (ofParts key op (parts.map String.ofList), rest)

/-! ## Combinations -/

/-- Filters one after another, as long as a parenthesis opens; `count` bounds their number. -/
def readMany (nested : Reader Filter) : Nat → Reader (List Filter)
  | 0, cs => .ok ([], cs)
  | count + 1, cs =>
    match cs with
    | '(' :: _ => do
      let (f, rest) ← nested cs
      let (fs, rest) ← readMany nested count (Text.trimStart rest)
      return (f :: fs, rest)
    | cs => .ok ([], cs)

/-- At least one filter. -/
def readList (nested : Reader Filter) : Reader (List Filter) := fun cs => do
  let cs := Text.trimStart cs
  let (fs, rest) ← readMany nested cs.length cs
  if fs.isEmpty then .error (.emptyList, rest) else .ok (fs, rest)

/-- What stands between the parentheses of a filter. -/
def readBody (nested : Reader Filter) : Reader Filter
  | '&' :: rest => do
    let (fs, rest) ← readList nested rest
    return (.all fs, rest)
  | '|' :: rest => do
    let (fs, rest) ← readList nested rest
    return (.any fs, rest)
  | '!' :: rest => do
    let (f, rest) ← nested (Text.trimStart rest)
    return (.not f, rest)
  | [] => .error (.missingFilter, [])
  | cs => readItem cs

/-- A filter with at most `depth` filters inside each other. -/
def readFilter : Nat → Reader Filter
  | 0 => fun cs => do
    let rest ← dropChar '(' cs
    .error (.tooDeep, rest)
  | depth + 1 => fun cs => do
    let rest ← dropChar '(' cs
    let (f, rest) ← readBody (readFilter depth) (Text.trimStart rest)
    let rest ← dropChar ')' (Text.trimStart rest)
    return (f, rest)

/-! ## Texts -/

/-- The filter that characters stand for, or the fault and what follows the place of it. -/
def ofChars (cs : List Char) : Except Stop Filter := do
  let (f, rest) ← readFilter maxDepth (Text.trimStart cs)
  let rest := Text.trimStart rest
  if rest = [] then .ok f else .error (.trailingInput, rest)

/-- The filter that a text stands for. -/
def parse (s : String) : Except RouterError Filter :=
  (ofChars s.toList).mapError fun (fault, rest) =>
    .invalidFilter (s.length - rest.length) fault.reason

end MessageRouter.Filter
