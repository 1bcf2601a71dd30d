import MessageRouter.Text.Bytes

/-!
# Identifiers

Endpoints and exchanges have 128-bit identifiers.  They are written as 32 lower-case hexadecimal
digits in five groups, and read in that form, without the hyphens, between braces, or after
`urn:uuid:`.
-/

namespace MessageRouter

/-- A 128-bit identifier. -/
structure Identifier where
  bits : BitVec 128
  deriving DecidableEq, Inhabited

namespace Identifier

/-! ## Writing -/

/-- The lengths of the groups of digits between hyphens. -/
def groupLengths : List Nat := [8, 4, 4, 4, 12]

/-- The `count` lowest hexadecimal digits of a number, most significant first. -/
def lowDigits : Nat → Nat → List Char
  | 0, _ => []
  | count + 1, n => lowDigits count (n / 16) ++ [Text.hexDigitOf (n % 16)]

/-- Cuts digits into groups of the given lengths, with hyphens between them. -/
def hyphenate : List Nat → List Char → List Char
  | [], _ => []
  | [n], ds => ds.take n
  | n :: rest, ds => ds.take n ++ '-' :: hyphenate rest (ds.drop n)

/-- The five groups of lower-case digits with hyphens between them. -/
def text (i : Identifier) : String :=
  String.ofList (hyphenate groupLengths (lowDigits 32 i.bits.toNat))

instance : ToString Identifier := ⟨text⟩

/-! ## Reading -/

/-- Exactly 32 hexadecimal digits in either case. -/
def ofDigits? (ds : List Char) : Option Identifier :=
  if ds.length = 32 then
    (ds.mapM Text.hexValue?).map fun vs => ⟨BitVec.ofNat 128 (vs.foldl (16 * · + ·) 0)⟩
  else none

/-- Takes the hyphens out of groups of the given lengths. -/
def dehyphenate? : List Nat → List Char → Option (List Char)
  | [], _ => none
  | [n], cs => if cs.length = n then some cs else none
  | n :: rest, cs =>
    match cs.drop n with
    | '-' :: after => (dehyphenate? rest after).map (cs.take n ++ ·)
    | _ => none

/-- Five groups of digits with hyphens between them. -/
def ofHyphenated? (cs : List Char) : Option Identifier :=
  (dehyphenate? groupLengths cs).bind ofDigits?

/-- What stands between an opening and a closing brace. -/
def ofBraced? : List Char → Option Identifier
  | '\x7b' :: rest => if rest.getLast? = some '\x7d' then ofHyphenated? rest.dropLast else none
  | _ => none

/-- What follows the name of the scheme, of which the case does not matter. -/
def ofUrn? (cs : List Char) : Option Identifier :=
  let scheme := "urn:uuid:".toList
  if (cs.take scheme.length).map Char.toLower = scheme then ofHyphenated? (cs.drop scheme.length)
  else none

/-- The identifier that a text stands for, in any of the four forms. -/
def read? (s : String) : Option Identifier :=
  let cs := s.toList
  (ofDigits? cs) <|> (ofHyphenated? cs) <|> (ofBraced? cs) <|> (ofUrn? cs)

end Identifier

end MessageRouter
