import FieldRules.Unicode.Category
import FieldRules.Unicode.Trait

namespace FieldRules.Unicode

def alphabetic : CodeSet := .unions [letter, letterNumber, otherAlphabetic]

def lowercase : CodeSet := lowercaseLetter.union otherLowercase

def uppercase : CodeSet := uppercaseLetter.union otherUppercase

def cased : CodeSet := .unions [lowercase, uppercase, titlecaseLetter]

def math : CodeSet := mathSymbol.union otherMath

def changesWhenCasemapped : CodeSet :=
  .unions [changesWhenLowercased, changesWhenUppercased, changesWhenTitlecased]

/-- The punctuation that may stand inside words, for which case does not count. -/
def wordInnerPunctuation : CodeSet :=
  .ofText "27 2E 3A B7 387 55F 5F4 2018-2019 2024 2027 FE13 FE52 FE55 FF07 FF0E FF1A"

def caseIgnorable : CodeSet :=
  .unions [nonspacingMark, enclosingMark, format, modifierLetter, modifierSymbol,
    wordInnerPunctuation]

def graphemeExtend : CodeSet := .unions [nonspacingMark, enclosingMark, otherGraphemeExtend]

def graphemeBase : CodeSet :=
  (CodeSet.unions [other, lineSeparator, paragraphSeparator, graphemeExtend]).others

def defaultIgnorableCodePoint : CodeSet :=
  (CodeSet.unions [otherDefaultIgnorableCodePoint, format, variationSelector]).diff
    (.unions [whiteSpace, prependedConcatenationMark, .ofText "FFF9-FFFB 13430-13440"])

def patternReserved : CodeSet := patternSyntax.union patternWhiteSpace

def idStart : CodeSet := (CodeSet.unions [letter, letterNumber, otherIDStart]).diff patternReserved

def idContinue : CodeSet :=
  (CodeSet.unions [idStart, nonspacingMark, spacingMark, decimalNumber, connectorPunctuation,
    otherIDContinue]).diff patternReserved

/-- The characters that compatibility decomposition would lead out of identifiers. -/
def decomposingIdContinue : CodeSet :=
  .ofText "37A 309B-309C FC5E-FC63 FDFA-FDFB FE70-FE7E/2"

def xidStart : CodeSet :=
  idStart.diff (decomposingIdContinue.union (.ofText "E33 EB3 FF9E-FF9F"))

def xidContinue : CodeSet := idContinue.diff decomposingIdContinue

def idCompatMathContinue : CodeSet :=
  idCompatMathStart.union (.ofText "B2-B3 B9 2070 2074-207E 2080-208E")

/-- The characters of words: alphabetic ones, marks, digits, connectors and joiners. -/
def wordCharacter : CodeSet :=
  .unions [alphabetic, mark, decimalNumber, connectorPunctuation, joinControl]

/-- Alphabetic characters that are not assigned here, but may stand in names. -/
def laterAlphabetic : CodeSet := .ofText "
  88F C5C CDC A7CE-A7CF A7D2-A7D4/2 A7F1 10940-10959 10EC5-10EC7 10EFA-10EFB 11B60-11B67
  11DB0-11DDB 16EA0-16EB8 16EBB-16ED3 16FF2-16FF6 187F8-187FF 18D09-18D1E 18D80-18DF2 1E6C0-1E6DE
  1E6E0-1E6F5 1E6FE-1E6FF 2B73A-2B73F 2CEA2-2CEAD 323B0-33479"

def laterNumber : CodeSet := .ofText "11DE0-11DE9 16FF4-16FF6"

/-- The characters that names may begin with. -/
def nameStart : CodeSet := alphabetic.union laterAlphabetic

def nameContinue : CodeSet := .unions [nameStart, number, laterNumber]

end FieldRules.Unicode
