import Targeting.Pattern.Tree
import Targeting.Unicode.Property
import Targeting.Unicode.Script

/-!
# Properties by name

A pattern names properties loosely: case, spaces, hyphens, underscores and a leading `is` do not
count. `propertySet?` finds the set of characters that a query asks for; a query for something
unknown has none.
-/

set_option autoImplicit false

namespace Targeting.Pattern

open Unicode

/-- Does a name start with the word `is`, in any case? -/
def startsWithIs : List Char → Bool
  | a :: b :: _ => (a == 'i' || a == 'I') && (b == 's' || b == 'S')
  | _ => false

/-- A name without what does not count. The short name `isc` stays whole. -/
def looseName (name : String) : String :=
  let cs := name.toList
  let core := if startsWithIs cs then cs.drop 2 else cs
  let counts (c : Char) : Bool := c.toNat < 128 && c != ' ' && c != '_' && c != '-'
  let kept := (core.filter counts).map Char.toLower
  if startsWithIs cs && kept == ['c'] then "isc" else String.ofList kept

/-- The characters of a yes-or-no property. -/
def binarySet? : String → Option CodeSet
  | "whitespace" | "wspace" | "space" => some Property.whiteSpace
  | "bidicontrol" | "bidic" => some Property.bidiControl
  | "joincontrol" | "joinc" => some Property.joinControl
  | "dash" => some Property.dash
  | "quotationmark" | "qmark" => some Property.quotationMark
  | "terminalpunctuation" | "term" => some Property.terminalPunctuation
  | "hexdigit" | "hex" => some Property.hexDigit
  | "asciihexdigit" | "ahex" => some Property.asciiHexDigit
  | "ideographic" | "ideo" => some Property.ideographic
  | "diacritic" | "dia" => some Property.diacritic
  | "extender" | "ext" => some Property.extender
  | "noncharactercodepoint" | "nchar" => some Property.noncharacterCodePoint
  | "idsbinaryoperator" | "idsb" => some Property.idsBinaryOperator
  | "idstrinaryoperator" | "idst" => some Property.idsTrinaryOperator
  | "idsunaryoperator" | "idsu" => some Property.idsUnaryOperator
  | "idcompatmathstart" => some Property.idCompatMathStart
  | "idcompatmathcontinue" => some Property.idCompatMathContinue
  | "modifiercombiningmark" | "mcm" => some Property.modifierCombiningMark
  | "radical" => some Property.radical
  | "unifiedideograph" | "uideo" => some Property.unifiedIdeograph
  | "deprecated" | "dep" => some Property.deprecated
  | "softdotted" | "sd" => some Property.softDotted
  | "logicalorderexception" | "loe" => some Property.logicalOrderException
  | "sentenceterminal" | "sterm" => some Property.sentenceTerminal
  | "variationselector" | "vs" => some Property.variationSelector
  | "patternwhitespace" | "patws" => some Property.patternWhiteSpace
  | "patternsyntax" | "patsyn" => some Property.patternSyntax
  | "regionalindicator" | "ri" => some Property.regionalIndicator
  | "bidimirrored" | "bidim" => some Property.bidiMirrored
  | "emoji" => some Property.emoji
  | "emojipresentation" | "epres" => some Property.emojiPresentation
  | "emojimodifier" | "emod" => some Property.emojiModifier
  | "emojimodifierbase" | "ebase" => some Property.emojiModifierBase
  | "emojicomponent" | "ecomp" => some Property.emojiComponent
  | "extendedpictographic" | "extpict" => some Property.extendedPictographic
  | "changeswhenlowercased" | "cwl" => some Property.changesWhenLowercased
  | "changeswhenuppercased" | "cwu" => some Property.changesWhenUppercased
  | "changeswhentitlecased" | "cwt" => some Property.changesWhenTitlecased
  | "changeswhencasefolded" | "cwcf" => some Property.changesWhenCasefolded
  | "alphabetic" | "alpha" => some Property.alphabetic
  | "lowercase" | "lower" => some Property.lowercase
  | "uppercase" | "upper" => some Property.uppercase
  | "math" => some Property.math
  | "cased" => some Property.cased
  | "caseignorable" | "ci" => some Property.caseIgnorable
  | "graphemeextend" | "grext" => some Property.graphemeExtend
  | "graphemebase" | "grbase" => some Property.graphemeBase
  | "idstart" | "ids" => some Property.idStart
  | "idcontinue" | "idc" => some Property.idContinue
  | "xidstart" | "xids" => some Property.xidStart
  | "xidcontinue" | "xidc" => some Property.xidContinue
  | "defaultignorablecodepoint" | "di" => some Property.defaultIgnorableCodePoint
  | "changeswhencasemapped" | "cwcm" => some Property.changesWhenCasemapped
  | "prependedconcatenationmark" | "pcm" => some Property.prependedConcatenationMark
  | "hyphen" => some Property.hyphen
  | "graphemelink" | "grlink" => some Property.graphemeLink
  | "otherlowercase" | "olower" => some Property.otherLowercase
  | "otheruppercase" | "oupper" => some Property.otherUppercase
  | "otheralphabetic" | "oalpha" => some Property.otherAlphabetic
  | "othermath" | "omath" => some Property.otherMath
  | "othergraphemeextend" | "ogrext" => some Property.otherGraphemeExtend
  | "otheridstart" | "oids" => some Property.otherIdStart
  | "otheridcontinue" | "oidc" => some Property.otherIdContinue
  | "otherdefaultignorablecodepoint" | "odi" => some Property.otherDefaultIgnorable
  | _ => none

/-- The general categories with a name; surrogates are no characters. -/
def categories? : String → Option (List Category)
  | "lu" | "uppercaseletter" => some [.uppercaseLetter]
  | "ll" | "lowercaseletter" => some [.lowercaseLetter]
  | "lt" | "titlecaseletter" => some [.titlecaseLetter]
  | "lm" | "modifierletter" => some [.modifierLetter]
  | "lo" | "otherletter" => some [.otherLetter]
  | "mn" | "nonspacingmark" => some [.nonspacingMark]
  | "mc" | "spacingmark" => some [.spacingMark]
  | "me" | "enclosingmark" => some [.enclosingMark]
  | "nd" | "decimalnumber" | "digit" => some [.decimalNumber]
  | "nl" | "letternumber" => some [.letterNumber]
  | "no" | "othernumber" => some [.otherNumber]
  | "pc" | "connectorpunctuation" => some [.connectorPunctuation]
  | "pd" | "dashpunctuation" => some [.dashPunctuation]
  | "ps" | "openpunctuation" => some [.openPunctuation]
  | "pe" | "closepunctuation" => some [.closePunctuation]
  | "pi" | "initialpunctuation" => some [.initialPunctuation]
  | "pf" | "finalpunctuation" => some [.finalPunctuation]
  | "po" | "otherpunctuation" => some [.otherPunctuation]
  | "sm" | "mathsymbol" => some [.mathSymbol]
  | "sc" | "currencysymbol" => some [.currencySymbol]
  | "sk" | "modifiersymbol" => some [.modifierSymbol]
  | "so" | "othersymbol" => some [.otherSymbol]
  | "zs" | "spaceseparator" => some [.spaceSeparator]
  | "zl" | "lineseparator" => some [.lineSeparator]
  | "zp" | "paragraphseparator" => some [.paragraphSeparator]
  | "cc" | "control" | "cntrl" => some [.control]
  | "cf" | "format" => some [.format]
  | "co" | "privateuse" => some [.privateUse]
  | "cn" | "unassigned" => some [.unassigned]
  | "l" | "letter" => Category.group? "L"
  | "lc" | "casedletter" => Category.group? "LC"
  | "m" | "mark" | "combiningmark" => Category.group? "M"
  | "n" | "number" => Category.group? "N"
  | "p" | "punctuation" | "punct" => Category.group? "P"
  | "s" | "symbol" => Category.group? "S"
  | "z" | "separator" => Category.group? "Z"
  | "c" | "other" => Category.group? "C"
  | _ => none

/-- The characters of a general category, of all assigned ones, of ASCII, or all. -/
def categorySet? : String → Option CodeSet
  | "any" => some .all
  | "assigned" => some (Category.setOf [.unassigned]).complement
  | "ascii" => some (.range 0 127)
  | name => (categories? name).map Category.setOf

/-- The code of a script with a name. -/
def scriptCode? : String → Option String
  | "qaac" => some "Copt"
  | "qaai" => some "Zinh"
  | "zzzz" | "unknown" => none
  | name =>
    (Script.every.find? fun s => looseName s.1 == name || looseName s.2 == name).map Prod.fst

/-- The characters of a script. -/
def scriptSet? (name : String) : Option CodeSet :=
  (scriptCode? name).map Script.setOf

/-- The characters that a single name stands for: those of a property, a category or a script. Three
short names mean categories although properties have them, too. -/
def namedSet? (name : String) : Option CodeSet :=
  let name := looseName name
  let binary := if name == "cf" || name == "sc" || name == "lc" then none else binarySet? name
  binary <|> categorySet? name <|> scriptSet? name

/-- The characters for which a property has a value. -/
def valueSet? (property value : String) : Option CodeSet :=
  let value := looseName value
  match looseName property with
  | "gc" | "generalcategory" => categorySet? value
  | "sc" | "script" => scriptSet? value
  | "scx" | "scriptextensions" => (scriptCode? value).map Script.extensionOf
  | _ => none

/-- The characters that a query asks for. -/
def propertySet? : Query → Option CodeSet
  | .letter c => namedSet? (String.ofList [c])
  | .name s => namedSet? s
  | .value property value => valueSet? property value

end Targeting.Pattern
