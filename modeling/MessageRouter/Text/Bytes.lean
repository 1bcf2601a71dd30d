/-!
# Bytes

Byte strings, and how they are written as pairs of hexadecimal digits.
-/

namespace MessageRouter.Text

/-- A string of bytes. -/
abbrev Bytes := List UInt8

/-- The value of a hexadecimal digit in either case. -/
def hexValue? (c : Char) : Option Nat :=
  if '0' ≤ c ∧ c ≤ '9' then some (c.toNat - '0'.toNat)
  else if 'a' ≤ c ∧ c ≤ 'f' then some (c.toNat - 'a'.toNat + 10)
  else if 'A' ≤ c ∧ c ≤ 'F' then some (c.toNat - 'A'.toNat + 10)
  else none

/-- The lower-case hexadecimal digit of a value below 16. -/
def hexDigitOf (n : Nat) : Char := Nat.digitChar n

/-- The bytes as lower-case hexadecimal digits, two for each. -/
def hexOfBytes (bytes : Bytes) : String :=
  String.ofList (bytes.flatMap fun b => [hexDigitOf (b.toNat / 16), hexDigitOf (b.toNat % 16)])

/-- The bytes that pairs of hexadecimal digits stand for; a pair that is none ends the text. -/
def bytesOfHex : List Char → Bytes
  | x :: y :: rest =>
    match hexValue? x, hexValue? y with
    | some h, some l => UInt8.ofNat (16 * h + l) :: bytesOfHex rest
    | _, _ => []
  | _ => []

/-- The text that the bytes encode in UTF-8. -/
def utf8? (bytes : Bytes) : Option String := String.fromUTF8? (ByteArray.mk bytes.toArray)

end MessageRouter.Text
