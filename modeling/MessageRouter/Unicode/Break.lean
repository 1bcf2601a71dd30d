import MessageRouter.Unicode.Property
import MessageRouter.Unicode.Script

/-!
# Text boundaries

Where a text may be divided into what a reader takes for characters, into words and into
sentences is told by a class of each character, one for each of the three questions.
-/

namespace MessageRouter.Unicode

/-- The names of each class, with its characters. -/
abbrev Classes := List (List String × CharSet)

def ofCode (n : Nat) : CharSet := .ofCodes [n]

/-- A mark, or another character that joins the one before it in a word. -/
def wordExtend : CharSet :=
  .diff (.unionAll [graphemeExtend, inCategories [.spacingMark], emojiModifier]) (ofCode 0x200D)

/-- The format characters that belong to no other class. -/
def plainFormat : CharSet :=
  .diff (inCategories [.format]) (.unionAll [graphemeExtend, prependedConcatenationMark,
    .ofCodes [0x200B, 0x200C, 0x200D]])

/-! ## Hangul -/

/-- Consonants at the start of a syllable. -/
def leadingConsonants : CharSet := .ofRanges [(0x1100, 0x115F), (0xA960, 0xA97C)]

/-- Vowels of a syllable. -/
def syllableVowels : CharSet :=
  .ofRanges [(0x1160, 0x11A7), (0xD7B0, 0xD7C6), (0x16D63, 0x16D63), (0x16D67, 0x16D6A)]

/-- Consonants at the end of a syllable. -/
def trailingConsonants : CharSet := .ofRanges [(0x11A8, 0x11FF), (0xD7CB, 0xD7FB)]

/-- Syllables without a consonant at their end: the first of each 28. -/
def openSyllables : CharSet := .ofCodes ((List.range 399).map (0xAC00 + 28 * ·))

def closedSyllables : CharSet := .diff (.range 0xAC00 0xD7A3) openSyllables

/-! ## Characters as a reader sees them -/

/-- Consonants that are joined to the one after them. -/
def prefixedConsonants : CharSet := charsOfRuns ["d4e 1 10473 2 20d 1 56d 1 1 1 142 6 2bc 1 1bb 1"]

/-- Spacing marks that stand on their own. -/
def freeMarks : CharSet := charsOfRuns [
  "102b 2 b 1 29 3 2 7 15 1 3 6 2 1 a 3 9c4 1 1 2 9016 1 1 1 6ca2 2"]

def graphemeClasses : Classes := [
  (["cn", "control"], .diff (.unionAll
    [inCategories [.lineSeparator, .paragraphSeparator, .control, .format],
    .inter defaultIgnorable (inCategories [.unassigned])])
    (.unionAll [graphemeExtend, prependedConcatenationMark,
      .ofCodes [0x0A, 0x0D, 0x200C, 0x200D]])),
  (["cr"], ofCode 0x0D),
  (["ex", "extend"], .diff (.union graphemeExtend emojiModifier) (ofCode 0x200D)),
  (["l"], leadingConsonants),
  (["lf"], ofCode 0x0A),
  (["lv"], openSyllables),
  (["lvt"], closedSyllables),
  (["pp", "prepend"], .union prependedConcatenationMark prefixedConsonants),
  (["ri", "regionalindicator"], regionalIndicator),
  (["sm", "spacingmark"], .diff (.union (inCategories [.spacingMark]) (.ofCodes [0xE33, 0xEB3]))
    (.union graphemeExtend freeMarks)),
  (["t"], trailingConsonants),
  (["v"], syllableVowels),
  (["zwj"], ofCode 0x200D)]

/-! ## Words -/

/-- Numbers, with the signs around and inside them. -/
def wordNumeric : CharSet := .union decimalDigits (.ofRanges
  [(0x600, 0x605), (0x66B, 0x66B), (0x6DD, 0x6DD), (0x890, 0x891), (0x8E2, 0x8E2), (0x19DA, 0x19DA),
  (0x110BD, 0x110BD), (0x110CD, 0x110CD)])

def wordKatakana : CharSet := .ofRanges
  [(0x3031, 0x3035), (0x309B, 0x309C), (0x30A0, 0x30FA), (0x30FC, 0x30FF), (0x31F0, 0x31FF),
  (0x32D0, 0x32FE), (0x3300, 0x3357), (0xFF66, 0xFF9D), (0x1AFF0, 0x1AFF3), (0x1AFF5, 0x1AFFB),
  (0x1AFFD, 0x1AFFE), (0x1B000, 0x1B000), (0x1B120, 0x1B122), (0x1B155, 0x1B155),
  (0x1B164, 0x1B167)]

def hebrewLetters : CharSet := .inter (scriptChars "Hebr") (inCategories [.otherLetter])

/-- The scripts that are written without blanks between words. -/
def unspacedScripts : CharSet := .unionAll (["Thai", "Laoo", "Mymr", "Khmr", "Tale", "Talu",
  "Lana", "Tavt", "Ahom", "Hira"].map scriptChars)

def connectors : CharSet :=
  .union (inCategories [.connectorPunctuation]) (ofCode 0x202F)

/-- Letters of words with blanks around them, and some signs that count as such. -/
def wordLetters : CharSet :=
  .union (.diff alphabetic (.unionAll [ideographic, wordKatakana, unspacedScripts, wordExtend,
    hebrewLetters, wordNumeric])) (.ofRanges
    [(0xB8, 0xB8), (0x2C2, 0x2C5), (0x2D2, 0x2D7), (0x2DE, 0x2DF), (0x2E5, 0x2EB), (0x2ED, 0x2ED),
    (0x2EF, 0x2FF), (0x55A, 0x55C), (0x55E, 0x55E), (0x58A, 0x58A), (0x5F3, 0x5F3),
    (0x70F, 0x70F), (0xA708, 0xA716), (0xA720, 0xA721), (0xA789, 0xA78A), (0xAB5B, 0xAB5B)])

def wordClasses : Classes := [
  (["le", "aletter"], wordLetters),
  (["cr"], ofCode 0x0D),
  (["dq", "doublequote"], ofCode 0x22),
  (["extend"], wordExtend),
  (["ex", "extendnumlet"], connectors),
  (["fo", "format"], plainFormat),
  (["hl", "hebrewletter"], hebrewLetters),
  (["ka", "katakana"], wordKatakana),
  (["lf"], ofCode 0x0A),
  (["ml", "midletter"], .ofCodes
    [0x3A, 0xB7, 0x387, 0x55F, 0x5F4, 0x2027, 0xFE13, 0xFE55, 0xFF1A]),
  (["mn", "midnum"], .ofCodes [0x2C, 0x3B, 0x37E, 0x589, 0x60C, 0x60D, 0x66C, 0x7F8, 0x2044, 0xFE50,
    0xFE54, 0xFF0C, 0xFF1B]),
  (["mb", "midnumlet"], .ofCodes [0x2E, 0x2018, 0x2019, 0x2024, 0xFE52, 0xFF07, 0xFF0E]),
  (["nl", "newline"], .ofCodes [0x0B, 0x0C, 0x85, 0x2028, 0x2029]),
  (["nu", "numeric"], wordNumeric),
  (["ri", "regionalindicator"], regionalIndicator),
  (["sq", "singlequote"], ofCode 0x27),
  (["wsegspace"], .ofRanges
    [(0x20, 0x20), (0x1680, 0x1680), (0x2000, 0x2006), (0x2008, 0x200A), (0x205F, 0x205F),
    (0x3000, 0x3000)]),
  (["zwj"], ofCode 0x200D)]

/-! ## Sentences -/

/-- Full stops, which do not always end a sentence. -/
def fullStops : CharSet := .ofCodes [0x2E, 0x2024, 0xFE52, 0xFF0E]

/-- The separators of lines and paragraphs. -/
def sentenceSeparators : CharSet := .ofCodes [0x85, 0x2028, 0x2029]

def sentenceExtend : CharSet :=
  .unionAll [graphemeExtend, inCategories [.spacingMark], ofCode 0x200D]

/-- Small letters; the Georgian ones begin sentences too and count as neither. -/
def sentenceLower : CharSet :=
  .diff lowercase (.unionAll [graphemeExtend, .range 0x10D0 0x10FA, .range 0x10FD 0x10FF])

def sentenceUpper : CharSet :=
  .diff (.union uppercase (inCategories [.titlecaseLetter])) (.range 0x1C90 0x1CBF)

def sentenceClasses : Classes := [
  (["at", "aterm"], fullStops),
  (["cl", "close"], .diff (.unionAll [quotationMark,
    inCategories [.openPunctuation, .closePunctuation, .initialPunctuation, .finalPunctuation],
    .ofRanges [(0x275B, 0x2760), (0x2E00, 0x2E01), (0x2E06, 0x2E08), (0x2E0B, 0x2E0B),
      (0x1F676, 0x1F678)]]) (.ofCodes [0xFF02, 0xFF07])),
  (["cr"], ofCode 0x0D),
  (["ex", "extend"], sentenceExtend),
  (["fo", "format"], .union (.diff (inCategories [.format])
    (.union sentenceExtend prependedConcatenationMark)) (ofCode 0x70F)),
  (["le", "oletter"], .diff (.union alphabetic (ofCode 0x5F3))
    (.unionAll [sentenceLower, sentenceUpper, sentenceExtend])),
  (["lf"], ofCode 0x0A),
  (["lo", "lower"], sentenceLower),
  (["nu", "numeric"], .union wordNumeric (ofCode 0x66C)),
  (["sc", "scontinue"], .ofRanges
    [(0x2C, 0x2D), (0x3A, 0x3B), (0x37E, 0x37E), (0x55D, 0x55D), (0x60C, 0x60D), (0x7F8, 0x7F8),
    (0x1802, 0x1802), (0x1808, 0x1808), (0x2013, 0x2014), (0x3001, 0x3001), (0xFE10, 0xFE11),
    (0xFE13, 0xFE14), (0xFE31, 0xFE32), (0xFE50, 0xFE51), (0xFE54, 0xFE55), (0xFE58, 0xFE58),
    (0xFE63, 0xFE63), (0xFF0C, 0xFF0D), (0xFF1A, 0xFF1B), (0xFF64, 0xFF64)]),
  (["se", "sep"], sentenceSeparators),
  (["sp"], .diff whiteSpace (.union sentenceSeparators (.ofCodes [0x0A, 0x0D]))),
  (["st", "sterm"], .diff sentenceTerminal fullStops),
  (["up", "upper"], sentenceUpper)]

end MessageRouter.Unicode
