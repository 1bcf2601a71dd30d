import MessageRouter.Unicode.Break

/-!
# Named sets of characters

The sets that a regular expression can name: the classes of a word character, a digit and a
space, the classes between brackets and colons, and sets of characters by their Unicode
properties.
-/

namespace MessageRouter.CharSet

/-! ## Classes -/

/-- The letters, digits and the underscore of ASCII. -/
def asciiWord : CharSet := ofRanges [(0x30, 0x39), (0x41, 0x5A), (0x5F, 0x5F), (0x61, 0x7A)]

/-- The characters of words; with `ascii` only those in ASCII. -/
def word (ascii : Bool) : CharSet := if ascii then asciiWord else Unicode.wordChars

/-- The blanks of ASCII, with the signs that end a line or a page. -/
def asciiSpace : CharSet := ofRanges [(0x09, 0x0D), (0x20, 0x20)]

/-- The class that a letter after a backslash names; with `ascii` only its part in ASCII. -/
def ofLetter? (ascii : Bool) : Char → Option CharSet
  | 'd' => some (if ascii then range 0x30 0x39 else Unicode.decimalDigits)
  | 's' => some (if ascii then asciiSpace else Unicode.whiteSpace)
  | 'w' => some (word ascii)
  | _ => none

/-- The class of ASCII characters with a name between colons. -/
def ofClassName? : String → Option CharSet
  | "alnum" => some (ofRanges [(0x30, 0x39), (0x41, 0x5A), (0x61, 0x7A)])
  | "alpha" => some (ofRanges [(0x41, 0x5A), (0x61, 0x7A)])
  | "ascii" => some (range 0x00 0x7F)
  | "blank" => some (ofCodes [0x09, 0x20])
  | "cntrl" => some (ofRanges [(0x00, 0x1F), (0x7F, 0x7F)])
  | "digit" => some (range 0x30 0x39)
  | "graph" => some (range 0x21 0x7E)
  | "lower" => some (range 0x61 0x7A)
  | "print" => some (range 0x20 0x7E)
  | "punct" => some (ofRanges [(0x21, 0x2F), (0x3A, 0x40), (0x5B, 0x60), (0x7B, 0x7E)])
  | "space" => some asciiSpace
  | "upper" => some (range 0x41 0x5A)
  | "word" => some asciiWord
  | "xdigit" => some (ofRanges [(0x30, 0x39), (0x41, 0x46), (0x61, 0x66)])
  | _ => none

/-! ## Categories and scripts -/

/-- The categories with a long or short name, which may be one for a group of them. -/
def ofCategoryName? (name : String) : Option (List Unicode.Category) :=
  let group (l : Char) : Option (List Unicode.Category) :=
    some (Unicode.Category.all.filter (·.isIn l))
  match name with
  | "l" | "letter" => group 'L'
  | "m" | "mark" | "combiningmark" => group 'M'
  | "n" | "number" => group 'N'
  | "p" | "punctuation" | "punct" => group 'P'
  | "s" | "symbol" => group 'S'
  | "z" | "separator" => group 'Z'
  | "c" | "other" => group 'C'
  | "lc" | "casedletter" => some [.uppercaseLetter, .lowercaseLetter, .titlecaseLetter]
  | "lu" | "uppercaseletter" => some [.uppercaseLetter]
  | "ll" | "lowercaseletter" => some [.lowercaseLetter]
  | "lt" | "titlecaseletter" => some [.titlecaseLetter]
  | "lm" | "modifierletter" => some [.modifierLetter]
  | "lo" | "otherletter" => some [.otherLetter]
  | "mn" | "nonspacingmark" => some [.nonspacingMark]
  | "mc" | "spacingmark" => some [.spacingMark]
  | "me" | "enclosingmark" => some [.enclosingMark]
  | "nd" | "decimalnumber" | "digit" => some [.decimalNumber]
  | "nl" | "letternumber" => some [.letterNumber]
  | "no" | "othernumber" => some [.otherNumber]
  | "pc" | "connectorpunctuation" => some [.connectorPunctuation]
  | "pd" | "dashpunctuation" => some [.dashPunctuation]
  | "ps" | "openpunctuation" => some [.openPunctuation]
  | "pe" | "closepunctuation" => some [.closePunctuation]
  | "pi" | "initialpunctuation" => some [.initialPunctuation]
  | "pf" | "finalpunctuation" => some [.finalPunctuation]
  | "po" | "otherpunctuation" => some [.otherPunctuation]
  | "sm" | "mathsymbol" => some [.mathSymbol]
  | "sc" | "currencysymbol" => some [.currencySymbol]
  | "sk" | "modifiersymbol" => some [.modifierSymbol]
  | "so" | "othersymbol" => some [.otherSymbol]
  | "zs" | "spaceseparator" => some [.spaceSeparator]
  | "zl" | "lineseparator" => some [.lineSeparator]
  | "zp" | "paragraphseparator" => some [.paragraphSeparator]
  | "cc" | "control" | "cntrl" => some [.control]
  | "cf" | "format" => some [.format]
  | "co" | "privateuse" => some [.privateUse]
  | "cn" | "unassigned" => some [.unassigned]
  | _ => none

/-- The characters of a general category, or of one of the sets that are named like categories. -/
def ofCategory? (name : String) : Option CharSet :=
  match name with
  | "any" => some all
  | "assigned" => some (complement (Unicode.inCategories [.unassigned]))
  | "ascii" => some (range 0x00 0x7F)
  | name => (ofCategoryName? name).map Unicode.inCategories

/-- A name with nothing but the letters and digits that tell names apart. -/
def looseName (name : List Char) : List Char :=
  let strip (cs : List Char) : List Char :=
    (cs.filter fun c => c.val < 0x80 && c != ' ' && c != '_' && c != '-').map Char.toLower
  match name with
  | i :: s :: rest =>
    if i.toLower = 'i' ∧ s.toLower = 's' then
      let kept := strip rest
      if kept = ['c'] then ['i', 's', 'c'] else kept
    else strip name
  | name => strip name

/-- The code of the script with a name, which may be the code itself. -/
def scriptCode? (name : String) : Option String :=
  let loose (s : String) : String := String.ofList (looseName s.toList)
  match name with
  | "qaac" => some "Copt"
  | "qaai" => some "Zinh"
  | name =>
    (Unicode.scripts.find? fun (code, long) => loose code = name || loose long = name).map (·.1)

/-! ## Properties -/

/-- The set that goes by a name. -/
def named? (sets : List (List String × CharSet)) (name : String) : Option CharSet :=
  (sets.find? (·.1.contains name)).map (·.2)

/-- The characters with a property that is named alone. -/
def ofPropertyName? (name : String) : Option CharSet :=
  let binary? :=
    if name = "cf" ∨ name = "sc" ∨ name = "lc" then none else named? Unicode.properties name
  binary? <|> ofCategory? name <|> (scriptCode? name).map Unicode.scriptChars

/-- The characters that a version has given a use by the time it came out. -/
def ofAge? (name : String) : Option CharSet :=
  (Unicode.versions.find? fun (_, v) => v.le Unicode.patternVersion && v.names.contains name).map
    fun (_, v) => Unicode.assignedBy v

/-- The characters for which a property has a value. -/
def ofPropertyValue? (property value : String) : Option CharSet :=
  match property with
  | "generalcategory" | "gc" => ofCategory? value
  | "script" | "sc" => (scriptCode? value).map Unicode.scriptChars
  | "scriptextensions" | "scx" => (scriptCode? value).map Unicode.extendedScriptChars
  | "age" => ofAge? value
  | "graphemeclusterbreak" | "gcb" => named? Unicode.graphemeClasses value
  | "wordbreak" | "wb" => named? Unicode.wordClasses value
  | "sentencebreak" | "sb" => named? Unicode.sentenceClasses value
  | _ => none

/-- The name of a property, the sign between it and a value, and the value. -/
def splitAtSign? (sign : List Char) : List Char → Option (List Char × List Char)
  | [] => none
  | c :: rest =>
    if sign.isPrefixOf (c :: rest) then some ([], (c :: rest).drop sign.length)
    else (splitAtSign? sign rest).map fun (name, value) => (c :: name, value)

/-- The set that the text after `\p` names, and whether its complement is meant. -/
def ofProperty? (text : List Char) : Option (CharSet × Bool) :=
  let loose (cs : List Char) : String := String.ofList (looseName cs)
  let valued (parts : List Char × List Char) (negated : Bool) : Option (CharSet × Bool) :=
    (ofPropertyValue? (loose parts.1) (loose parts.2)).map (·, negated)
  match splitAtSign? ['!', '='] text, splitAtSign? [':'] text, splitAtSign? ['='] text with
  | some parts, _, _ => valued parts true
  | none, some parts, _ => valued parts false
  | none, none, some parts => valued parts false
  | none, none, none => (ofPropertyName? (loose text)).map (·, false)

end MessageRouter.CharSet
