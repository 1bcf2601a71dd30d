import MessageRouter.Unicode.CaseMapping
import MessageRouter.Unicode.PropertyList

/-!
# Properties of characters

The properties that a character has or lacks.  Some are listed character by character, the others
follow from the general categories and the listed ones.  They are those of version 16.0 of the
Unicode standard, the one that regular expressions know, except where the current version 17.0 is
asked for.
-/

namespace MessageRouter.Unicode

/-- The characters in any of the categories. -/
def inCategories (cs : List Category) : CharSet := charsIn cs.contains

def letters : CharSet := charsIn (·.isIn 'L')

def marks : CharSet := charsIn (·.isIn 'M')

/-! ## The current version -/

/-- The alphabetic characters of version 17.0. -/
def currentAlphabetic : CharSet :=
  .union (Category.chars fun c => c.isIn 'L' || c == .letterNumber) otherAlphabetic

/-- Digits and other numbers of version 17.0. -/
def currentNumbers : CharSet := Category.chars (·.isIn 'N')

/-- The characters of version 17.0 that extend the one before them. -/
def currentGraphemeExtend : CharSet :=
  .union (Category.chars fun c => c == .nonspacingMark || c == .enclosingMark) otherGraphemeExtend

/-! ## Letters -/

def alphabetic : CharSet := .inter currentAlphabetic assigned

def lowercase : CharSet := .union (inCategories [.lowercaseLetter]) otherLowercase

def uppercase : CharSet := .union (inCategories [.uppercaseLetter]) otherUppercase

/-- Characters that belong to one of the cases. -/
def cased : CharSet := .unionAll [lowercase, uppercase, inCategories [.titlecaseLetter]]

/-- Signs that stand inside words, such as apostrophes. -/
def wordInnerSigns : CharSet := .ofCodes
  [0x27, 0x2E, 0x3A, 0xB7, 0x387, 0x55F, 0x5F4, 0x2018, 0x2019, 0x2024, 0x2027, 0xFE13, 0xFE52,
  0xFE55, 0xFF07, 0xFF0E, 0xFF1A]

/-- Characters that do not separate a cased letter from the next one. -/
def caseIgnorable : CharSet :=
  .union (inCategories [.nonspacingMark, .enclosingMark, .format, .modifierLetter, .modifierSymbol])
    wordInnerSigns

def math : CharSet := .union (inCategories [.mathSymbol]) otherMath

/-! ## Extension -/

def graphemeExtend : CharSet := .inter currentGraphemeExtend assigned

/-- Characters that have a place of their own in a line. -/
def graphemeBase : CharSet :=
  .complement (.union graphemeExtend (inCategories [.control, .format, .surrogate, .privateUse,
    .unassigned, .lineSeparator, .paragraphSeparator]))

/-- Code points that are not shown where they have no special effect. -/
def defaultIgnorable : CharSet :=
  let shown := CharSet.unionAll [whiteSpace, prependedConcatenationMark, .range 0xFFF9 0xFFFB,
    .range 0x13430 0x13440]
  .union (.diff (.union (inCategories [.format]) variationSelector) shown) otherDefaultIgnorable

/-! ## Identifiers -/

/-- What patterns keep for themselves is no part of an identifier. -/
def outsideIdentifiers : CharSet := .union patternSyntax patternWhiteSpace

def idStart : CharSet :=
  .diff (.unionAll [letters, inCategories [.letterNumber], otherIdStart]) outsideIdentifiers

def idContinue : CharSet :=
  .diff (.unionAll [idStart, otherIdContinue,
    inCategories [.nonspacingMark, .spacingMark, .decimalNumber, .connectorPunctuation]])
    outsideIdentifiers

/-- Characters that compatibility mappings make more than a part of an identifier. -/
def compatibilityExceptions : CharSet := .ofRanges
  [(0x37A, 0x37A), (0x309B, 0x309C), (0xFC5E, 0xFC63), (0xFDFA, 0xFDFB), (0xFE70, 0xFE70),
  (0xFE72, 0xFE72), (0xFE74, 0xFE74), (0xFE76, 0xFE76), (0xFE78, 0xFE78), (0xFE7A, 0xFE7A),
  (0xFE7C, 0xFE7C), (0xFE7E, 0xFE7E)]

def xidStart : CharSet :=
  .diff idStart (.union compatibilityExceptions (.ofCodes [0xE33, 0xEB3, 0xFF9E, 0xFF9F]))

def xidContinue : CharSet := .diff idContinue compatibilityExceptions

/-! ## Words -/

/-- Part of a word: alphabetic characters, marks, digits, connectors and joiners. -/
def wordChars : CharSet :=
  .unionAll [alphabetic, marks, inCategories [.decimalNumber, .connectorPunctuation], joinControl]

def decimalDigits : CharSet := inCategories [.decimalNumber]

/-! ## Names -/

/-- The properties by their names, in lower case without the signs between words. -/
def properties : List (List String × CharSet) := [
  (["alpha", "alphabetic"], alphabetic),
  (["ahex", "asciihexdigit"], asciiHexDigit),
  (["bidic", "bidicontrol"], bidiControl),
  (["cased"], cased),
  (["ci", "caseignorable"], caseIgnorable),
  (["cwcf", "changeswhencasefolded"], changesWhenCasefolded),
  (["cwcm", "changeswhencasemapped"], changesWhenCasemapped),
  (["cwl", "changeswhenlowercased"], changesWhenLowercased),
  (["cwt", "changeswhentitlecased"], changesWhenTitlecased),
  (["cwu", "changeswhenuppercased"], changesWhenUppercased),
  (["dash"], dash),
  (["di", "defaultignorablecodepoint"], defaultIgnorable),
  (["dep", "deprecated"], deprecated),
  (["dia", "diacritic"], diacritic),
  (["emoji"], emoji),
  (["ecomp", "emojicomponent"], emojiComponent),
  (["emod", "emojimodifier"], emojiModifier),
  (["ebase", "emojimodifierbase"], emojiModifierBase),
  (["epres", "emojipresentation"], emojiPresentation),
  (["extpict", "extendedpictographic"], extendedPictographic),
  (["ext", "extender"], extender),
  (["grbase", "graphemebase"], graphemeBase),
  (["grext", "graphemeextend"], graphemeExtend),
  (["grlink", "graphemelink"], graphemeLink),
  (["hex", "hexdigit"], hexDigit),
  (["hyphen"], hyphen),
  (["idcompatmathcontinue"], idCompatMathContinue),
  (["idcompatmathstart"], idCompatMathStart),
  (["idc", "idcontinue"], idContinue),
  (["ideo", "ideographic"], ideographic),
  (["idsb", "idsbinaryoperator"], idsBinaryOperator),
  (["ids", "idstart"], idStart),
  (["idst", "idstrinaryoperator"], idsTrinaryOperator),
  (["idsu", "idsunaryoperator"], idsUnaryOperator),
  (["joinc", "joincontrol"], joinControl),
  (["loe", "logicalorderexception"], logicalOrderException),
  (["lower", "lowercase"], lowercase),
  (["math"], math),
  (["mcm", "modifiercombiningmark"], modifierCombiningMark),
  (["nchar", "noncharactercodepoint"], noncharacter),
  (["oalpha", "otheralphabetic"], .inter otherAlphabetic assigned),
  (["odi", "otherdefaultignorablecodepoint"], otherDefaultIgnorable),
  (["ogrext", "othergraphemeextend"], .inter otherGraphemeExtend assigned),
  (["oidc", "otheridcontinue"], otherIdContinue),
  (["oids", "otheridstart"], otherIdStart),
  (["olower", "otherlowercase"], otherLowercase),
  (["omath", "othermath"], otherMath),
  (["oupper", "otheruppercase"], otherUppercase),
  (["patsyn", "patternsyntax"], patternSyntax),
  (["patws", "patternwhitespace"], patternWhiteSpace),
  (["pcm", "prependedconcatenationmark"], prependedConcatenationMark),
  (["qmark", "quotationmark"], quotationMark),
  (["radical"], radical),
  (["ri", "regionalindicator"], regionalIndicator),
  (["sterm", "sentenceterminal"], sentenceTerminal),
  (["sd", "softdotted"], softDotted),
  (["wspace", "whitespace", "space"], whiteSpace),
  (["term", "terminalpunctuation"], terminalPunctuation),
  (["uideo", "unifiedideograph"], unifiedIdeograph),
  (["upper", "uppercase"], uppercase),
  (["vs", "variationselector"], variationSelector),
  (["xidc", "xidcontinue"], xidContinue),
  (["xids", "xidstart"], xidStart)]

end MessageRouter.Unicode
