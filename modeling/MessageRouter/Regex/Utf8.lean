import MessageRouter.CharSet

/-!
# Bytes of sets

A set of characters as sequences of ranges of bytes: what the UTF-8 forms of its characters are.
Each sequence stands for all strings with one byte of each range, and no two sequences have a
string in common.
-/

namespace MessageRouter.Utf8

/-- A range of bytes, by the first and the last. -/
abbrev ByteRange := Nat × Nat

/-- Ranges for the bytes of a character one after another. -/
abbrev ByteSequence := List ByteRange

/-- The last `count` bytes of the form of a code point, each with six bits of it. -/
def trailing : Nat → Nat → List Nat
  | 0, _ => []
  | count + 1, n => trailing count (n / 64) ++ [0x80 + n % 64]

/-- The bytes of a code point. -/
def encode (n : Nat) : List Nat :=
  if n < 0x80 then [n]
  else if n < 0x800 then (0xC0 + n / 64) :: trailing 1 n
  else if n < 0x10000 then (0xE0 + n / 4096) :: trailing 2 n
  else (0xF0 + n / 262144) :: trailing 3 n

/-! ## Splitting ranges -/

/-- The parts of a range within each of which all forms have the same number of bytes. -/
def splitByLength (low high : Nat) : List (Nat × Nat) :=
  [(0, 0x7F), (0x80, 0x7FF), (0x800, 0xFFFF), (0x10000, 0x10FFFF)].filterMap fun (first, last) =>
    if max low first ≤ min high last then some (max low first, min high last) else none

/-- Splits a range into parts within each of which all bytes are free of one another.  A part that
covers several blocks of `width` code points covers them whole; `levels` more widths follow, each
64 times the last. -/
def splitByBlock : Nat → Nat → Nat → Nat → List (Nat × Nat)
  | 0, _, low, high => [(low, high)]
  | levels + 1, width, low, high =>
    if low / width = high / width then [(low, high)]
    else
      let start := (low + width - 1) / width * width
      let head := if low = start then [] else [(low, start - 1)]
      if start / width = high / width then head ++ [(start, high)]
      else
        let stop := (high + 1) / width * width
        let tail := if stop = high + 1 then [] else [(stop, high)]
        head ++ splitByBlock levels (64 * width) start (stop - 1) ++ tail

/-- The sequences for the code points of a range. -/
def ofRange (low high : Nat) : List ByteSequence :=
  (splitByLength low high).flatMap fun (low, high) =>
    if high < 0x80 then [[(low, high)]]
    else (splitByBlock 3 64 low high).map fun (low, high) => (encode low).zip (encode high)

/-- The sequences for the characters of a set, in ascending order. -/
def ofSet (s : CharSet) : List ByteSequence := s.ranges.flatMap fun (low, high) => ofRange low high

end MessageRouter.Utf8
