import FieldRules.Unicode.Age
import FieldRules.Unicode.ScriptExtension
import FieldRules.Unicode.Segment

namespace FieldRules.Unicode

def traits : NamedSets :=
  [(["alphabetic", "alpha"], alphabetic),
   (["asciihexdigit", "ahex"], asciiHexDigit),
   (["bidicontrol", "bidic"], bidiControl),
   (["bidimirrored", "bidim"], bidiMirrored),
   (["cased"], cased),
   (["caseignorable", "ci"], caseIgnorable),
   (["changeswhencasefolded", "cwcf"], changesWhenCasefolded),
   (["changeswhencasemapped", "cwcm"], changesWhenCasemapped),
   (["changeswhenlowercased", "cwl"], changesWhenLowercased),
   (["changeswhentitlecased", "cwt"], changesWhenTitlecased),
   (["changeswhenuppercased", "cwu"], changesWhenUppercased),
   (["dash"], dash),
   (["defaultignorablecodepoint", "di"], defaultIgnorableCodePoint),
   (["deprecated", "dep"], deprecated),
   (["diacritic", "dia"], diacritic),
   (["emoji"], emoji),
   (["emojicomponent", "ecomp"], emojiComponent),
   (["emojimodifier", "emod"], emojiModifier),
   (["emojimodifierbase", "ebase"], emojiModifierBase),
   (["emojipresentation", "epres"], emojiPresentation),
   (["extendedpictographic", "extpict"], extendedPictographic),
   (["extender", "ext"], extender),
   (["graphemebase", "grbase"], graphemeBase),
   (["graphemeextend", "grext"], graphemeExtend),
   (["graphemelink", "grlink"], graphemeLink),
   (["hexdigit", "hex"], hexDigit),
   (["hyphen"], hyphen),
   (["idcompatmathcontinue"], idCompatMathContinue),
   (["idcompatmathstart"], idCompatMathStart),
   (["idcontinue", "idc"], idContinue),
   (["ideographic", "ideo"], ideographic),
   (["idsbinaryoperator", "idsb"], idsBinaryOperator),
   (["idstart", "ids"], idStart),
   (["idstrinaryoperator", "idst"], idsTrinaryOperator),
   (["idsunaryoperator", "idsu"], idsUnaryOperator),
   (["joincontrol", "joinc"], joinControl),
   (["logicalorderexception", "loe"], logicalOrderException),
   (["lowercase", "lower"], lowercase),
   (["math"], math),
   (["modifiercombiningmark", "mcm"], modifierCombiningMark),
   (["noncharactercodepoint", "nchar"], noncharacterCodePoint),
   (["otheralphabetic", "oalpha"], otherAlphabetic),
   (["otherdefaultignorablecodepoint", "odi"], otherDefaultIgnorableCodePoint),
   (["othergraphemeextend", "ogrext"], otherGraphemeExtend),
   (["otheridcontinue", "oidc"], otherIDContinue),
   (["otheridstart", "oids"], otherIDStart),
   (["otherlowercase", "olower"], otherLowercase),
   (["othermath", "omath"], otherMath),
   (["otheruppercase", "oupper"], otherUppercase),
   (["patternsyntax", "patsyn"], patternSyntax),
   (["patternwhitespace", "patws"], patternWhiteSpace),
   (["prependedconcatenationmark", "pcm"], prependedConcatenationMark),
   (["quotationmark", "qmark"], quotationMark),
   (["radical"], radical),
   (["regionalindicator", "ri"], regionalIndicator),
   (["sentenceterminal", "sterm"], sentenceTerminal),
   (["softdotted", "sd"], softDotted),
   (["terminalpunctuation", "term"], terminalPunctuation),
   (["unifiedideograph", "uideo"], unifiedIdeograph),
   (["uppercase", "upper"], uppercase),
   (["variationselector", "vs"], variationSelector),
   (["whitespace", "wspace", "space"], whiteSpace),
   (["xidcontinue", "xidc"], xidContinue),
   (["xidstart", "xids"], xidStart)]

def categories : NamedSets :=
  [(["any"], CodeSet.all),
   (["assigned"], unassigned.complement),
   (["ascii"], .ofText "0-7F"),
   (["casedletter", "lc"], casedLetter),
   (["closepunctuation", "pe"], closePunctuation),
   (["connectorpunctuation", "pc"], connectorPunctuation),
   (["control", "cc", "cntrl"], control),
   (["currencysymbol", "sc"], currencySymbol),
   (["dashpunctuation", "pd"], dashPunctuation),
   (["decimalnumber", "nd", "digit"], decimalNumber),
   (["enclosingmark", "me"], enclosingMark),
   (["finalpunctuation", "pf"], finalPunctuation),
   (["format", "cf"], format),
   (["initialpunctuation", "pi"], initialPunctuation),
   (["letter", "l"], letter),
   (["letternumber", "nl"], letterNumber),
   (["lineseparator", "zl"], lineSeparator),
   (["lowercaseletter", "ll"], lowercaseLetter),
   (["mark", "m", "combiningmark"], mark),
   (["mathsymbol", "sm"], mathSymbol),
   (["modifierletter", "lm"], modifierLetter),
   (["modifiersymbol", "sk"], modifierSymbol),
   (["nonspacingmark", "mn"], nonspacingMark),
   (["number", "n"], number),
   (["openpunctuation", "ps"], openPunctuation),
   (["other", "c"], other),
   (["otherletter", "lo"], otherLetter),
   (["othernumber", "no"], otherNumber),
   (["otherpunctuation", "po"], otherPunctuation),
   (["othersymbol", "so"], otherSymbol),
   (["paragraphseparator", "zp"], paragraphSeparator),
   (["privateuse", "co"], privateUse),
   (["punctuation", "p", "punct"], punctuation),
   (["separator", "z"], separator),
   (["spaceseparator", "zs"], spaceSeparator),
   (["spacingmark", "mc"], spacingMark),
   (["symbol", "s"], symbol),
   (["titlecaseletter", "lt"], titlecaseLetter),
   (["unassigned", "cn"], unassigned),
   (["uppercaseletter", "lu"], uppercaseLetter)]

/-- The entry of a table that has `name` among its names. -/
def row? {α : Type} (table : List (List String × α)) (name : String) :
    Option (List String × α) :=
  table.find? fun entry => entry.1.contains name

def named? (table : NamedSets) (name : String) : Option CodeSet :=
  (row? table name).map Prod.snd

def script? (name : String) : Option CodeSet :=
  (row? scripts name).map fun entry => .ofText entry.2

def scriptExtension? (name : String) : Option CodeSet := do
  let entry ← row? scripts name
  return scriptExtension (← entry.1.head?) entry.2

/-- A property by name alone. -/
def property? (name : String) : Option CodeSet :=
  named? traits name <|> named? categories name <|> script? name

/-- A property by the name of its family and its own. -/
def propertyIn? (family name : String) : Option CodeSet :=
  match family with
  | "generalcategory" | "gc" => named? categories name
  | "script" | "sc" => script? name
  | "scriptextensions" | "scx" => scriptExtension? name
  | "age" => age? name
  | "graphemeclusterbreak" | "gcb" => named? graphemeClasses name
  | "wordbreak" | "wb" => named? wordClasses name
  | "sentencebreak" | "sb" => named? sentenceClasses name
  | _ => none

/-- The form in which names are looked up: ASCII only, in lower case, without blanks, hyphens and
underscores, and without a leading "is" unless the name is "isc". -/
def looseName (name : List Char) : String :=
  let strict (cs : List Char) : List Char :=
    (cs.filter fun c => c.toNat < 0x80 && c ≠ ' ' && c ≠ '_' && c ≠ '-').map Char.toLower
  match name with
  | i :: s :: rest =>
    if i.toLower = 'i' && s.toLower = 's' && strict rest ≠ ['c'] then String.ofList (strict rest)
    else String.ofList (strict name)
  | _ => String.ofList (strict name)

end FieldRules.Unicode
