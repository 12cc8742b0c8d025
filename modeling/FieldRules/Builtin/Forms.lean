import FieldRules.Pattern.Basic
import FieldRules.Text.Blank
import FieldRules.Unicode.CaseFold
import FieldRules.Unicode.Digit

namespace FieldRules

namespace Pattern

/-- A pattern that covers the whole text. -/
def whole (p : Pattern) : Pattern := sequence [textStart, p, textEnd]

/-- A character in any case. -/
def charAnyCase (c : Char) : Pattern :=
  let variants := Unicode.caseVariants c
  one variants.contains

def wordAnyCase (s : String) : Pattern := sequence (s.toList.map charAnyCase)

end Pattern

namespace Builtin

open Pattern

/-- Optionally a minus, then decimal digits of any script. -/
def integerForm : Pattern :=
  whole (sequence [optional (char '-'), plus (one Unicode.isDecimalDigit)])

def isMailChar (c : Char) : Bool := !Text.isBlank c && c != '@'

/-- Two parts around an at sign, and a point inside the second. -/
def emailForm : Pattern :=
  let part := plus (one isMailChar)
  whole (sequence [part, char '@', part, char '.', part])

def isHostChar (c : Char) : Bool :=
  !Text.isBlank c && c != '/' && c != '?' && c != '.' && c != '#'

/-- A scheme in any case, a host of labels between points, and perhaps a path. -/
def urlForm : Pattern :=
  let scheme := alt (sequence [wordAnyCase "http", optional (charAnyCase 's')]) (wordAnyCase "ftp")
  let label := sequence [plus (one isHostChar), optional (char '.')]
  let path := sequence [char '/', star (one fun c => !Text.isBlank c)]
  whole (sequence [scheme, word "://", optional (word "-."), plus label, optional path])

def alphaForm : Pattern := whole (plus (one Char.isAlpha))

def alphaNumForm : Pattern := whole (plus (one Char.isAlphanum))

def alphaDashForm : Pattern := whole (plus (one fun c => c.isAlphanum || c == '_' || c == '-'))

end Builtin

end FieldRules
