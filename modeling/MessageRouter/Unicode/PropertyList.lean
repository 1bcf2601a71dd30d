import MessageRouter.Unicode.Runs

/-!
# Basic properties of characters

The sets of characters that the Unicode standard lists one by one.  Other properties follow from
these and from the general categories.  The sets are those of version 16.0 of the standard, unless
they say otherwise.
-/

namespace MessageRouter.Unicode

/-- The digits and the letters up to F that write hexadecimal numbers. -/
def asciiHexDigit : CharSet := charsOfRuns ["30 a 7 6 1a 6"]

/-- Format characters that direct the order of text. -/
def bidiControl : CharSet := charsOfRuns ["61c 1 19f1 2 1a 5 37 4"]

/-- Dashes and hyphens. -/
def dash : CharSet := charsOfRuns [
  "2d 1 55c 1 33 1 e41 1 405 1 809 6 3d 1 27 1 f 1 186 1 c04 1 2 1 1f 2 4 1 1c 1 1be 1 13 1 6f",
  "1 cd90 2 25 1 a 1 a9 1 e60 1 13e 1"]

/-- Characters that should no longer be used. -/
def deprecated : CharSet := charsOfRuns ["149 1 529 1 903 1 1 1 829 2 8c5 6 2b9 2 ddcd6 1"]

/-- Marks and letters that change the sound or meaning of another one. -/
def diacritic : CharSet := charsOfRuns [
  "5e 1 1 1 47 1 6 1 4 1 2 2 1f7 9f 1 8 5 6 11 2 4 1 9 2 fd 5 d1 1 37 2d 1 1 1 2 1 2 1 1 83 8 4",
  "2 86 2 4 2 3 3 43 1b 5b b 3a b 22 2 7e 8 29 a 10 1c 3d 1 10 1 3 4 1c 1 4a 1 10 1 6e 1 10 1",
  "6e 1 10 1 2f 3 3c 1 10 1 7 1 77 1 6e 1 10 1 6e 1 10 1 6d 2 10 1 7c 1 6f 1 c 6 1 1 6b 1 d 5",
  "4b 2 1b 1 1 1 1 1 4 2 42 3 1 2 3e 1 70 1 1 2 28 2 4 5 19 7 1 1 a 2 2c1 3 3b4 2 1e 1 94 b 9 1",
  "15b 3 124 1 14 8 2 1 30 f 2 b 68 1 f 1 26 9 36 2 3a 1 b 2 42 2 40 6 52 19 4 1 6 1 2 3 32 3f",
  "30 24 5 c 25 b 1bd 1 1 3 b 3 d 3 d 3 d 2 cf0 3 13d 1 1fa 6 69 4 5f 1 7572 1 c 2 1 1 1c 2 52",
  "2 e 22 66 3 6d 2 c 1 25 1 97 1 1b 12 39 4 24 1 5f 1 c 1 24 1 95 3 41 4 33 1 64 5 9 3 80 2",
  "4f30 1 301 10 10e 1 1 1 2f 1 2d 2 43 1 2fc 1 49f 6 1 2a 1 9 27d 3 4 1 a5 2 23b 6 26 1 1a 5",
  "18f 3 46 b 31 4 c0 1 29 1 48 2 78 2 3e 1 4c 1 9 3 68 2 b2 2 50 2 10 1 18 7 3 5 59 3 1 2 d 2",
  "5f 1 3 1 7b 2 fb 2 7e 1 76 2 73 1 10d 2 102 2 4 1 9c 1 53 1 12 1 51 1 1a5 1 102 1 1 2 51 1",
  "1a9 2 17 1 14ec f 2cd9 1 9c0 5 3b 7 234 2 222 11 50 2 3ffe 4 1 7 1 2 1f01 2e 2 17 220 3 3 6",
  "8 8 2 7 1e 4 e82 3e c2 7 177 1 3d 4 2fe 2 2e0 7 6d 3 1 3"]

/-- Characters that can be pictures of their own. -/
def emoji : CharSet := charsOfRuns [
  "23 1 6 1 5 a 6f 1 4 1 1f8d 1 c 1 d8 1 16 1 5a 6 f 2 16f 2 c 1 a6 1 19 b 4 3 c7 1 e7 2 a 1 9",
  "1 3a 4 1 5 9 1 2 1 2 2 2 1 4 1 2 1 1 2 2 1 3 1 3 2 8 3 5 1 1 1 5 c b 2 2 1 1 2 1 1 12 1 2 2",
  "12 6 1 1 1 2 3 2 5 1 2 2 4 2 b 2 5 2 2 1 5 2 1 1 1 2 14 2 5 6 1 4 2 1 4 1 2 1 2 6 1 1 2 1 1",
  "1 1 1 6 1 3 1 6 1 a 2 f 1 2 1 4 1 1 1 4 3 1 1 b 2 30 3 9 1 e 1 e 1 174 2 1cf 3 13 2 33 1 4 1",
  "4da 1 c 1 259 1 1 1 1bd6a 1 ca 1 a0 2 c 2 e 1 2 a 4b 1a 1 2 17 1 14 1 2 9 15 2 ae 22 2 70 2",
  "2 1 3 2 53 2 3 1 107 1 3f b 6 1 18 7 2 2 8 c 1 2 4 2 1 4 2 d 2 2 1 8 2 9 1 5 3 c 3 8 3 2 1 1",
  "1 4 1 6 1 3 1 6 56 30 46 5 8 2 3 4 a 3 1 1 2 3 1 2 a e3 c 4 1 11b 2f 1 a 1 b9 70 d 3 a 5 38",
  "7 f 2 b 6 9"]

/-- Parts of emoji that are not shown alone. -/
def emojiComponent : CharSet := charsOfRuns [
  "23 1 6 1 5 a 1fd3 1 d5 1 dd2b 1 f3d6 1a 1fb 5 5b0 4 c066c 60"]

/-- Modifiers of the colour of a skin. -/
def emojiModifier : CharSet := charsOfRuns ["1f3fb 5"]

/-- Emoji that such a modifier can follow. -/
def emojiModifierBase : CharSet := charsOfRuns [
  "261d 1 db 1 10 4 1cc77 1 3c 3 2 1 2 3 75 2 2 b 15 13 3 1 4 3 1 3 7 1 1 1 18 1 c9 2 4 1 15 1",
  "4 2 ae 3 3 5 53 1 10 3 9 1 b 1 23f 1 2 1 8 8 6 1 9 a 2 3 38 1 3d 2 1 2 1 1 11 3 1 d e5 3 2a",
  "9"]

/-- Characters that are emoji unless text asks otherwise. -/
def emojiPresentation : CharSet := charsOfRuns [
  "231a 2 cd 4 3 1 2 1 209 2 15 2 32 c 2b 1 13 1 d 1 8 2 11 2 5 2 8 1 5 1 15 1 7 2 1 1 4 1 2 1",
  "7 1 4 2 1c 1 23 1 1 1 4 3 1 1 3d 3 18 1 e 1 35b 2 33 1 4 1 1c4ae 1 ca 1 be 1 2 a 4b 1a 1 1",
  "18 1 14 1 2 5 1 3 15 2 ae 21 c 9 1 46 1 16 c 2b 4 5 c 11 3 1 3 47 1 1 1 bb 2 3f d 4 1 18 12",
  "1 1a 2 d 1 56 55 30 46 6 1 3 3 2 3 4 4 b 2 7 9 e3 c 4 1 11b 2f 1 a 1 b9 70 d 3 a 5 38 7 f 2",
  "b 6 9"]

/-- Pictures, and code points that are kept free for more of them. -/
def extendedPictographic : CharSet := charsOfRuns [
  "a9 1 4 1 1f8d 1 c 1 d8 1 16 1 5a 6 f 2 16f 2 c 1 5f 1 46 1 19 b 4 3 c7 1 e7 2 a 1 9 1 3a 4 1",
  "6 1 c 1 72 a 76 2 b 1 1 1 1 6 1 3 1 6 1 a 2 f 1 2 1 4 1 1 1 4 3 1 1 b 5 2d 3 9 1 e 1 e 1 174",
  "2 1cf 3 13 2 33 1 4 1 4da 1 c 1 259 1 1 1 1bd66 100 d 3 1f 1 3c 6 c 2 e 1 2 a 12 39 1b f a 1",
  "14 1 2 9 1 4 9 1b2 5 13e 8 10a 30 80 74 c 55 2b c 4 38 8 a 6 28 8 1e 52 c 2f 1 a 1 1b9 100",
  "3fe"]

/-- Signs that lengthen or repeat the letter before them. -/
def extender : CharSet := charsOfRuns [
  "b7 1 218 2 36e 1 1b9 1 276 1 89 1 59 1 2f0 1 7f 1 943 1 38 1 263 1 18e 1 44 1 1389 1 2b 5 67",
  "2 5d 3 6f16 1 5f6 1 3c2 1 16 1 89 1 6c 1 15 2 547b 1 810 2 5cb 1 1b 1 4 1 4c7 1 125 1 74 2",
  "1f2 3 4cf 1 50a9 2 49c 2 1 1 7158 2 4b1 1 354 3"]

/-- Signs that join two letters to one. -/
def graphemeLink : CharSet := charsOfRuns [
  "94d 1 7f 1 7f 1 7f 1 7f 1 7f 1 7f 1 7f 1 6d 2 10 1 7c 1 6f 1 7f 1 c9 1 b4 2 6d9 2 1e 1 9d 1",
  "28d 1 e3 1 65 2 46 2 118b 1 7a86 1 25 1 97 1 8e 1 6c 1 135 1 f6 1 5e51 1 606 1 29 1 e 1 39 1",
  "79 2 8b 1 74 1 b4 1 62 1 80 3 71 1 7f 1 fc 1 7f 1 76 1 74 1 10d 1 103 2 a1 1 53 1 12 1 51 1",
  "1a5 1 104 2 51 1 1a9 2 41ec 1"]

/-- The hexadecimal digits, with those of full width. -/
def hexDigit : CharSet := charsOfRuns ["30 a 7 6 1a 6 fea9 a 7 6 1a 6"]

/-- Hyphens and the marks of joined words. -/
def hyphen : CharSet := charsOfRuns ["2d 1 7f 1 4dc 1 127b 1 809 2 e05 1 2e3 1 cd67 1 a9 1 57 1"]

/-- Signs that describe an ideograph by two others. -/
def idsBinaryOperator : CharSet := charsOfRuns ["2ff0 2 2 a 1f1 1"]

/-- Signs that describe an ideograph by three others. -/
def idsTrinaryOperator : CharSet := charsOfRuns ["2ff2 2"]

/-- Signs that describe an ideograph by one other. -/
def idsUnaryOperator : CharSet := charsOfRuns ["2ffe 2"]

/-- Mathematical signs that may begin an identifier. -/
def idCompatMathStart : CharSet := charsOfRuns [
  "2202 1 4 1 16 1 1b4a2 1 19 1 1f 1 19 1 1f 1 19 1 1f 1 19 1 1f 1 19 1"]

/-- Mathematical signs that may stand in an identifier. -/
def idCompatMathContinue : CharSet := charsOfRuns [
  "b2 2 5 1 1fb6 1 3 b 1 f 173 1 4 1 16 1 1b4a2 1 19 1 1f 1 19 1 1f 1 19 1 1f 1 19 1 1f 1 19 1"]

/-- Ideographs. -/
def ideographic : CharSet := charsOfRuns [
  "3006 2 19 9 e 3 3c5 19c0 40 5200 5900 16e 2 6a 750a 1 1b 17f8 8 4d6 29 a 2467 18c 4d04 a6e0",
  "20 103a 6 de 2 1682 e 1d31 f 26e 9a2 21e 5e2 134b 5 1060"]

/-- The two characters that ask for a joined or an unjoined form. -/
def joinControl : CharSet := charsOfRuns ["200c 2"]

/-- Vowel signs that are written before the consonant they follow in speech. -/
def logicalOrderException : CharSet := charsOfRuns ["e40 5 7b 5 af0 3 2 1 90fa 2 2 1 1 2"]

/-- Marks that modify the letter before them and come first among its marks. -/
def modifierCombiningMark : CharSet := charsOfRuns ["654 2 2 1 83 1 6 1 3 2 1e1 2 1 3 3 1 1f 1"]

/-- Code points that will never be characters. -/
def noncharacter : CharSet := charsOfRuns [
  "fdd0 20 20e 2 fffe 2 fffe 2 fffe 2 fffe 2 fffe 2 fffe 2 fffe 2 fffe 2 fffe 2 fffe 2 fffe 2",
  "fffe 2 fffe 2 fffe 2 fffe 2 fffe 2"]

/-- Alphabetic characters, as of version 17.0, that are no letters by their category. -/
def otherAlphabetic : CharSet := charsOfRuns [
  "345 1 1d d 240 e 1 1 1 2 1 2 1 1 48 b 30 d 1 7 10 1 65 7 4 4 2 2 4 1 23 1 1e 10 66 b 65 2 3",
  "9 1 3 1 4 6a 1 3c c 3 7 6 14 36 2 2 f 1 2 5 3 a 2 1d 3 3a 7 2 2 2 2 a 1 a 2 1d 3 3a 5 4 2 2",
  "2 4 1 1e 2 3 1 b 3 3a 8 1 3 1 2 15 2 16 3 4 3 3a 7 2 2 2 2 9 2 a 2 1e 1 3b 5 3 3 1 3 a 1 28",
  "5 39 7 1 3 1 3 8 2 b 2 1d 3 3a 7 1 3 1 3 8 2 b 2 f 1 c 4 3a 7 1 3 1 3 a 1 a 2 1d 3 4b 6 1 1",
  "1 8 12 2 3d 1 2 7 12 1 63 1 2 6 1 2 10 1 a3 13 9 b 1 24 6e c 1 1 2 4 17 4 4 3 1 3 2 7 3 4 d",
  "c 1 1 a 4 674 2 1e 2 1e 2 1e 2 42 13 bc 2 22 1 76 c 4 9 de 5 39 a 2 14 4a 2 b 3 31 5 30 f 3c",
  "3 1e 9 2 2 39 b 32 13 19c 22 6c1 34 8f6 20 7874 8 22 2 162 1 8 1 17 5 58 2 32 10 1 1 39 1 26",
  "5 1c c 2d 4 30 c 25 1 43 e c 1 8 2 2d 3 32 1 1 3 2 2 5 1 2c 5 5 1 ed 8 4f33 1 857 5 686 3 1",
  "2 5 4 314 4 41 1 141 2 4d 3 103 3 35 e 2d 2 b 3 2d 9 9 1 3d 3 24 c 12 2 39 3 30 d e 2 5c 9 2",
  "1 6 1 2 1 9d a 17 4 3a 7 2 2 2 2 a 1 a 2 54 9 1 1 2 1 1 4 1 2 67 d 1 3 6a 12 ed 7 2 7 1d 2",
  "52 f 1 1 6a b 67 e 101 d f7 6 1 2 2 2 3 1 1 1 8e 7 2 6 4 1 1c a 2a 5 1 4 12 b 2e e c8 8 c7 8",
  "1 7 53 16 1 e 7a 6 3 1 1 2 1 3 1 1 3 1 42 5 1 2 1 4 15c 4 9 2 1 1 30 7 3 3 41dd 11 e20 1 1",
  "37 7 4 5d 2 4cac 1 2361 7 1 11 2 7 1 2 1 5 64 1 653 1 2 1 7 2 5 1 251 1 7e8 1a 6 1a 6 1a"]

/-- Ignorable code points that are no format characters. -/
def otherDefaultIgnorable : CharSet := charsOfRuns [
  "34f 1 e0f 2 653 2 8af 1 10fe 1 ce3b 1 4f 9 d0007 1 1 1e 60 80 f0 e10"]

/-- Characters, as of version 17.0, that extend another one and are no marks that do. -/
def otherGraphemeExtend : CharSet := charsOfRuns [
  "9be 1 18 1 166 1 18 1 66 1 18 1 e8 1 1 1 4 2 1 2 9 2 67 1 18 1 77 1 f 1 935 1 1e 1 400 1 5 1",
  "1 1 5 2 65 1 47 2 418 1 1021 2 7923 1 6c 1 55dd 2 1220 1 74 1 108 1 e 1 9 1 60 1 9 1 2 1 1 3",
  "5 1 e0 1 c 1 f1 1 106 1 279 1 c 1 603 1 50ae 2 6173 2 6 6 c2ead 60"]

/-- Characters of identifiers that are none by their category. -/
def otherIdContinue : CharSet := charsOfRuns ["b7 1 2cf 1 fe1 9 668 1 631 2 10ed 1 ce69 1"]

/-- Characters that may begin identifiers and are no letters. -/
def otherIdStart : CharSet := charsOfRuns ["1885 2 891 1 15 1 f6c 2"]

/-- Characters in lower case that are no such letters by their category. -/
def otherLowercase : CharSet := charsOfRuns [
  "aa 1 f 1 1f5 9 7 2 1e 5 60 1 34 1 d81 1 c2f 3f d 1 22 25 2b1 1 d 1 10 d d3 10 350 1a 792 2",
  "7a1e 2 d2 1 81 3 3 2 362 4 9 1 5c16 1 2 3 1 2a 1 9 d875 3e"]

/-- Characters of formulas that are no mathematical symbols by their category. -/
def otherMath : CharSet := charsOfRuns [
  "5e 1 371 3 2 1 1a 2 2 2 1c20 1 1b 3 b 1 20 4 18 2 e 2 41 d 4 1 3 2 4 5 12 1 4 1 2 a 1 1 3 5",
  "6 1 3 2 2 2 1 3 1 6 3 4 5 5 4b 5 2 4 1 2 1 2 1 1 1 5 2 2 4 2 4 12 2 2 1 1 1 7 1 1 6 2 122 4",
  "a8 2 1 1 18 1 11 1 1bd 2 c 9 5 5 5 2 2 2 3 5 e 1 1 1 2 6 18 2 39 1 1 1 1d 4 9 2 156 2 1f a",
  "193 16 3f 4 20 2 d463 1 1 1 4 1 d3 1 1 1 d4c1 55 1 47 1 2 2 1 2 2 2 4 1 c 1 1 1 7 1 41 1 4 2",
  "8 1 7 1 1c 1 4 1 5 1 1 3 7 1 154 2 19 1 19 1 1f 1 19 1 1f 1 19 1 1f 1 19 1 1f 1 19 1 8 2 32",
  "1600 4 1 1b 1 2 1 1 2 1 1 a 1 4 1 1 1 1 6 1 4 1 1 1 1 1 1 3 1 2 1 1 2 1 1 1 1 1 1 1 1 1 1 2",
  "1 1 2 4 1 7 1 4 1 4 1 1 1 a 1 11 5 3 1 5 1 11"]

/-- Characters in upper case that are no such letters by their category. -/
def otherUppercase : CharSet := charsOfRuns ["2160 10 346 1a 1cc60 1a 6 1a 6 1a"]

/-- Signs that are kept for the syntax of patterns. -/
def patternSyntax : CharSet := charsOfRuns [
  "21 f a 7 1a 4 1 1 1a 4 22 7 1 1 1 2 1 1 1 2 4 1 4 1 3 1 17 1 1f 1 1f18 18 8 f 2 13 1 a 131",
  "2d0 a0 276 1e 46c 200 80 181 3 4 19 f 1 cd0d 2 105 2"]

/-- White space in patterns. -/
def patternWhiteSpace : CharSet := charsOfRuns ["9 5 12 1 64 1 1f88 2 18 2"]

/-- Format characters that are shown before what follows them. -/
def prependedConcatenationMark : CharSet := charsOfRuns [
  "600 6 d7 1 31 1 180 2 50 1 107da 1 f 1"]

/-- Quotation marks. -/
def quotationMark : CharSet := charsOfRuns [
  "22 1 4 1 83 1 f 1 1f5c 8 19 2 e07 1 1c9 4 d 3 ce21 4 bd 1 4 1 5a 2"]

/-- Parts of ideographs. -/
def radical : CharSet := charsOfRuns ["2e80 1a 1 59 c d6"]

/-- Letters that make flags in pairs. -/
def regionalIndicator : CharSet := charsOfRuns ["1f1e6 1a"]

/-- Signs that end a sentence. -/
def sentenceTerminal : CharSet := charsOfRuns [
  "21 1 c 1 10 1 549 1 93 3 b4 1 2b 3 f6 1 3d 1 1 1 3 2 125 2 6e4 2 316 1 4 2 305 1 c6 2 9d 2",
  "2d 1 5 1 13a 2 162 4 a2 2 a 2 2 2 1d 3 bb 2 41 2 3a4 1 17 2 9 3 caf 3 132 1 d 1 16 2 1ad 1",
  "74fc 1 10e 2 e3 1 3 1 17e 2 56 2 5f 1 98 2 93 3 90 2 f9 1 5226 1 2 2 3b 1 3 2 a9 1 c 1 10 1",
  "41 1 af4 2 4fd 5 2c 4 bd 2 75 4 7f 3 81 2 6 1 10 2 58 2 1 2 6c 1 12a 2 75 2 175 2 5 f 69 2",
  "f9 3 205 1 1 1 fb 2 57 2 1a4 2 2b4 2 4a 2 4b29 2 85 1 41 2 b 1 229 2 128 1 4e06 1 1de8 1"]

/-- Letters that lose their dot under an accent. -/
def softDotted : CharSet := charsOfRuns [
  "69 2 c4 1 119 1 1e 1 34 1 14 1 140 1 62 1 1 1 1909 1 33 1 d 1 3 1 84 1 9d 1 1a5 1 d6 2 b32 1",
  "1a7a5 2 32 2 32 2 32 2 32 2 32 2 32 2 32 2 32 2 32 2 32 2 32 2 32 2 886 1 131 2 1a 1"]

/-- Signs that end a part of a text. -/
def terminalPunctuation : CharSet := charsOfRuns [
  "21 1 a 1 1 1 b 2 3 1 33e 1 8 1 201 1 39 1 48 1 e 1 1 3 b4 1 2b b 1 1 eb 2 36 6 1 8 1f 1 105",
  "2 4f4 2 ac 1 4 6 137 2 315 8 305 1 7c 3 47 2 9d 3 3 1 27 4 2 2 13a 2 162 4 a2 2 a 2 1 3 1d 3",
  "bb 5 3e 2 3a4 1 17 2 9 3 caf 3 132 1 d 1 4 1 a 1 1 2 3 2 1ac 2 74fb 2 10d 3 e3 5 17e 2 56 2",
  "5f 1 97 3 93 3 7f 1 10 2 f9 1 5226 1 2 2 39 3 1 4 a9 1 a 1 1 1 b 2 3 1 41 1 2 1 43a 1 30 1",
  "486 1 c7 1 136 2 98 6 44 6 59 4 3b8 5 2c 4 bd 7 70 4 7f 3 81 2 6 1 10 2 58 5 6c 1 12a 2 75 3",
  "c 2 166 4 3 f 69 2 f9 3 205 1 1 1 fb 2 57 2 4 2 19e 3 2d 1 285 2 4a 2 52b 5 45f9 2 85 1 41 3",
  "a 1 229 2 127 2 4e06 1 1de7 4"]

/-- Ideographs that have been unified. -/
def unifiedIdeograph : CharSet := charsOfRuns [
  "3400 19c0 40 5200 5a0e 2 1 1 1 2 a 1 1 1 1 2 2 3 105d6 a6e0 20 103a 6 de 2 1682 e 1d31 f 26e",
  "11a2 134b 5 1060"]

/-- Characters that select a form of the one before them. -/
def variationSelector : CharSet := charsOfRuns ["180b 3 1 1 e5f0 10 d02f0 f0"]

/-- White space. -/
def whiteSpace : CharSet := charsOfRuns ["9 5 12 1 64 1 1a 1 15df 1 97f b 1d 2 5 1 2f 1 fa0 1"]

end MessageRouter.Unicode
