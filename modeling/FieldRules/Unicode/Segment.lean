import FieldRules.Unicode.Derived

namespace FieldRules.Unicode

abbrev NamedSets := List (List String × CodeSet)

def carriageReturn : CodeSet := .ofText "D"

def lineFeed : CodeSet := .ofText "A"

def zeroWidthJoiner : CodeSet := .ofText "200D"

def graphemePrepend : CodeSet := .ofText "
  600-605 6DD 70F 890-891 8E2 D4E 110BD 110CD 111C2-111C3 113D1 1193F-11941/2 11A3A 11A84-11A89
  11D46 11F02"

def tags : CodeSet := .ofText "E0020-E007F"

def graphemeControl : CodeSet :=
  (CodeSet.unions [lineSeparator, paragraphSeparator, control, format,
    unassigned.inter defaultIgnorableCodePoint]).diff
    (.unions [carriageReturn, lineFeed, .ofText "200C-200D", prependedConcatenationMark, tags])

def graphemeExtendClass : CodeSet := graphemeExtend.union emojiModifier

def graphemeSpacingMark : CodeSet :=
  (spacingMark.union (.ofText "E33 EB3")).diff
    (.unions [graphemeExtendClass, .ofText "
      102B-102C 1038 1062-1064 1067-106D 1083 1087-108C 108F 109A-109C 1A61 1A63-1A64 AA7B AA7D
      11720-11721"])

/-- The syllables of Hangul without a final consonant. -/
def openSyllable : CodeSet := .ofText "AC00-D788/1C"

def closedSyllable : CodeSet := (CodeSet.ofText "AC00-D7A3").diff openSyllable

def graphemeClasses : NamedSets :=
  [(["control", "cn"], graphemeControl),
   (["cr"], carriageReturn),
   (["extend", "ex"], graphemeExtendClass),
   (["l"], .ofText "1100-115F A960-A97C"),
   (["lf"], lineFeed),
   (["lv"], openSyllable),
   (["lvt"], closedSyllable),
   (["prepend", "pp"], graphemePrepend),
   (["regionalindicator", "ri"], regionalIndicator),
   (["spacingmark", "sm"], graphemeSpacingMark),
   (["t"], .ofText "11A8-11FF D7CB-D7FB"),
   (["v"], .ofText "1160-11A7 D7B0-D7C6 16D63 16D67-16D6A"),
   (["zwj"], zeroWidthJoiner)]

def katakanaLetter : CodeSet := .ofText "
  3031-3035 309B-309C 30A0-30FA 30FC-30FF 31F0-31FF 32D0-32FE 3300-3357 FF66-FF9D 1AFF0-1AFF3
  1AFF5-1AFFB 1AFFD-1AFFE 1B000 1B120-1B122 1B155 1B164-1B167"

def hebrewLetter : CodeSet := .ofText "
  5D0-5EA 5EF-5F2 FB1D FB1F-FB28 FB2A-FB36 FB38-FB3C FB3E FB40-FB41 FB43-FB44 FB46-FB4F"

def hiraganaLetter : CodeSet := .ofText "
  3041-3096 309D-309F 1B001-1B11F 1B132 1B150-1B152 1F200"

/-- Letters of scripts that write no blanks between words. -/
def unspacedLetter : CodeSet := .ofText "
  E01-E30 E32-E33 E40-E46 E81-E82 E84 E86-E8A E8C-EA3 EA5 EA7-EB0 EB2-EB3 EBD EC0-EC4 EC6 EDC-EDF
  1000-102A 103F 1050-1055 105A-105D 1061 1065-1066 106E-1070 1075-1081 108E 1780-17B3 17D7 17DC
  1950-196D 1970-1974 1980-19AB 19B0-19C9 1A20-1A54 1AA7 A9E0-A9E4 A9E6-A9EF A9FA-A9FE AA60-AA76
  AA7A AA7E-AAAF AAB1 AAB5-AAB6 AAB9-AABD AAC0 AAC2 AADB-AADD 11700-1171A 11740-11746"

def wordExtend : CodeSet :=
  (CodeSet.unions [graphemeExtend, spacingMark, emojiModifier]).diff zeroWidthJoiner

def wordLetter : CodeSet :=
  (alphabetic.union (.ofText "
    B8 2C2-2C5 2D2-2D7 2DE-2DF 2E5-2EB 2ED 2EF-2FF 55A-55C 55E 58A 5F3 70F A708-A716 A720-A721
    A789-A78A AB5B")).diff
    (.unions [ideographic, katakanaLetter, hebrewLetter, hiraganaLetter, unspacedLetter,
      wordExtend])

def segmentFormat : CodeSet :=
  format.diff (prependedConcatenationMark.union (tags.union (.ofText "200C-200D")))

def segmentNumeric : CodeSet :=
  decimalNumber.union (.ofText "600-605 66B 6DD 890-891 8E2 110BD 110CD")

def wordClasses : NamedSets :=
  [(["aletter", "le"], wordLetter),
   (["cr"], carriageReturn),
   (["doublequote", "dq"], .ofText "22"),
   (["extend"], wordExtend),
   (["extendnumlet", "ex"], connectorPunctuation.union (.ofText "202F")),
   (["format", "fo"], segmentFormat.diff (.ofText "200B")),
   (["hebrewletter", "hl"], hebrewLetter),
   (["katakana", "ka"], katakanaLetter),
   (["lf"], lineFeed),
   (["midletter", "ml"], .ofText "3A B7 387 55F 5F4 2027 FE13 FE55 FF1A"),
   (["midnum", "mn"], .ofText "
      2C 3B 37E 589 60C-60D 66C 7F8 2044 FE10 FE14 FE50 FE54 FF0C FF1B"),
   (["midnumlet", "mb"], .ofText "2E 2018-2019 2024 FE52 FF07 FF0E"),
   (["newline", "nl"], .ofText "B-C 85 2028-2029"),
   (["numeric", "nu"], segmentNumeric),
   (["regionalindicator", "ri"], regionalIndicator),
   (["singlequote", "sq"], .ofText "27"),
   (["wsegspace"], .ofText "20 1680 2000-2006 2008-200A 205F 3000"),
   (["zwj"], zeroWidthJoiner)]

def sentenceExtend : CodeSet := .unions [graphemeExtend, spacingMark, zeroWidthJoiner]

def sentenceLower : CodeSet :=
  lowercase.diff (graphemeExtend.union (.ofText "10D0-10FA 10FD-10FF"))

def sentenceUpper : CodeSet :=
  (uppercase.union titlecaseLetter).diff (.ofText "1C90-1CBA 1CBD-1CBF")

def sentenceLetter : CodeSet :=
  (alphabetic.union (.ofText "5F3")).diff
    (.unions [sentenceLower, sentenceUpper, sentenceExtend])

/-- The full stops that need not end a sentence. -/
def ambiguousTerminal : CodeSet := .ofText "2E 2024 FE52 FF0E"

def sentenceClose : CodeSet :=
  .unions [openPunctuation, closePunctuation, initialPunctuation, finalPunctuation,
    .ofText "22 27 275B-2760 2E00-2E01 2E06-2E08 2E0B 1F676-1F678"]

def sentenceClasses : NamedSets :=
  [(["aterm", "at"], ambiguousTerminal),
   (["close", "cl"], sentenceClose),
   (["cr"], carriageReturn),
   (["extend", "ex"], sentenceExtend),
   (["format", "fo"], segmentFormat.union (.ofText "70F")),
   (["lf"], lineFeed),
   (["lower", "lo"], sentenceLower),
   (["numeric", "nu"], segmentNumeric.union (.ofText "66C")),
   (["oletter", "le"], sentenceLetter),
   (["scontinue", "sc"], .ofText "
      2C-2D 3A-3B 37E 55D 60C-60D 7F8 1802 1808 2013-2014 3001 FE10-FE11 FE13-FE14 FE31-FE32
      FE50-FE51 FE54-FE55 FE58 FE63 FF0C-FF0D FF1A-FF1B FF64"),
   (["sep", "se"], .ofText "85 2028-2029"),
   (["sp"], .ofText "9 B-C 20 A0 1680 2000-200A 202F 205F 3000"),
   (["sterm", "st"], sentenceTerminal.diff ambiguousTerminal),
   (["upper", "up"], sentenceUpper)]

end FieldRules.Unicode
