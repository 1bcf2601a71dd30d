import MessageRouter.Unicode.Property

/-!
# Quoted text

Text between double quotes for diagnostic output: a quote or backslash gets a backslash before
it, and a character without a glyph of its own, or one that joins the character before it, is
written by its number.  What characters there are is told by version 17.0 of the Unicode standard.
-/

namespace MessageRouter.Text

/-- A number in lower-case hexadecimal, without leading zeros. -/
def hex (n : Nat) : String := String.ofList (Nat.toDigits 16 n)

/-- The code point of a character, as a number between braces. -/
def quotedNumber (c : Char) : String :=
  "\\u" ++ String.singleton '\x7b' ++ hex c.toNat ++ String.singleton '\x7d'

/-- Letters that fill the place of another one and show nothing. -/
def fillers : CharSet := .ofCodes [0x115F, 0x1160, 0x3164, 0xFFA0]

/-- Voice marks of half width, which extend a letter but have a glyph beside it. -/
def halfWidthVoiceMarks : CharSet := .ofCodes [0xFF9E, 0xFF9F]

/-- The characters that cannot be seen where they stand: those that join the one before them, and
all controls, format characters, separators and unassigned code points. -/
def unseen : CharSet :=
  let blank := Unicode.Category.chars fun c => c.isIn 'C' || c.isIn 'Z'
  let extenders := Unicode.currentGraphemeExtend.diff halfWidthVoiceMarks
  (CharSet.unionAll [blank, extenders, fillers]).diff (.single ' ')

/-- A character as it stands inside quotes. -/
def quotedChar (c : Char) : String :=
  match c with
  | '"' => "\\\""
  | '\\' => "\\\\"
  | '\n' => "\\n"
  | '\r' => "\\r"
  | '\t' => "\\t"
  | c =>
    if c.val == 0 then "\\0"
    else if unseen.contains c then quotedNumber c
    else String.singleton c

/-- The text between double quotes. -/
def quoted (s : String) : String := "\"" ++ String.join (s.toList.map quotedChar) ++ "\""

end MessageRouter.Text
