import FieldRules.Unicode.Derived

namespace FieldRules.Pattern

def isWordByte (c : Char) : Bool := c.isAlphanum || c = '_'

/-- The characters of words, of all scripts or of ASCII only. -/
def isWordChar (unicode : Bool) (c : Char) : Bool :=
  if unicode && 0x80 ≤ c.toNat then Unicode.wordCharacter.has c else isWordByte c

inductive Edge where
  | either
  | neither
  | start
  | stop
  | notAfter
  | notBefore
deriving DecidableEq

/-- Whether the edge is between characters of which the first two arguments say if they belong to a
word. -/
def Edge.holds : Edge → Bool → Bool → Bool
  | either, before, after => before != after
  | neither, before, after => before == after
  | start, before, after => !before && after
  | stop, before, after => before && !after
  | notAfter, before, _ => !before
  | notBefore, _, after => !after

inductive Look where
  | textStart
  | textEnd
  /-- Lines end with a line feed and, if asked, with a carriage return, but not between the two. -/
  | lineStart (carriageReturn : Bool)
  | lineEnd (carriageReturn : Bool)
  | word (edge : Edge) (unicode : Bool)
deriving DecidableEq

namespace Look

def holds : Look → Option Char → Option Char → Bool
  | textStart, before, _ => before.isNone
  | textEnd, _, after => after.isNone
  | lineStart carriageReturn, before, after =>
    before.isNone || before == some '\n'
      || (carriageReturn && before == some '\x0d' && after != some '\n')
  | lineEnd carriageReturn, before, after =>
    after.isNone || (carriageReturn && after == some '\x0d')
      || (after == some '\n' && !(carriageReturn && before == some '\x0d'))
  | word edge unicode, before, after =>
    edge.holds (before.any (isWordChar unicode)) (after.any (isWordChar unicode))

end Look

end FieldRules.Pattern
