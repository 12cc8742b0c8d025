namespace FieldRules

/-- Regular expressions. A set of positions in a text is the set of bits of a number, and a pattern
carries those where it can begin to those where it can end. -/
inductive Pattern where
  /-- The empty stretch. -/
  | empty
  /-- One character that is accepted. -/
  | one (accepts : Char → Bool)
  /-- The empty stretch where the characters before and after it are as asked. -/
  | look (holds : Option Char → Option Char → Bool)
  | seq (p q : Pattern)
  | alt (p q : Pattern)
  /-- At least `least` stretches in a row, and at most `most`. -/
  | rep (p : Pattern) (least : Nat) (most : Option Nat)

namespace Pattern

-- The powers below are core's, whichever instances a wider import brings.
attribute [local instance (high)] instPowNat

/-- The positions of the characters that are accepted. -/
def charMask (accepts : Char → Bool) : List Char → Nat
  | [] => 0
  | c :: cs => (accepts c).toNat + 2 * charMask accepts cs

/-- The positions at which the characters before and after are as asked. -/
def lookMask (holds : Option Char → Option Char → Bool) (before : Option Char) : List Char → Nat
  | [] => (holds before none).toNat
  | c :: cs => (holds before (some c)).toNat + 2 * lookMask holds (some c) cs

/-- Applies `f` so many times; once it changes nothing, it never will. -/
def steps (f : Nat → Nat) : Nat → Nat → Nat
  | 0, s => s
  | n + 1, s =>
    let t := f s
    if t = s then s else steps f n t

/-- The union of what up to so many applications of `f` give. -/
def spread (f : Nat → Nat) : Nat → Nat → Nat
  | 0, s => s
  | n + 1, s =>
    let t := s ||| f s
    if t = s then s else spread f n t

/-- A pattern laid over a text. -/
inductive Traversal where
  | stay
  /-- One character, at any of the positions. -/
  | pass (positions : Nat)
  /-- The empty stretch, at any of the positions. -/
  | halt (positions : Nat)
  | seq (p q : Traversal)
  | alt (p q : Traversal)
  /-- `least` stretches in a row, and up to `more` others. -/
  | rep (p : Traversal) (least more : Nat)

/-- The positions at which the traversal can end when it begins at one of `s`. -/
def Traversal.advance : Traversal → Nat → Nat
  | stay, s => s
  | pass positions, s => 2 * (s &&& positions)
  | halt positions, s => s &&& positions
  | seq p q, s => q.advance (p.advance s)
  | alt p q, s => p.advance s ||| q.advance s
  | rep p least more, s => spread p.advance more (steps p.advance least s)

/-- The pattern laid over the text. Repeating it more often than the text has positions adds no
position. -/
def traversal (text : List Char) : Pattern → Traversal
  | empty => .stay
  | one accepts => .pass (charMask accepts text)
  | look holds => .halt (lookMask holds none text)
  | seq p q => .seq (p.traversal text) (q.traversal text)
  | alt p q => .alt (p.traversal text) (q.traversal text)
  | rep p least (some most) => .rep (p.traversal text) least (most - least)
  | rep p least none => .rep (p.traversal text) least (text.length + 1)

/-- Whether the pattern occurs somewhere in the text. -/
def occursIn (p : Pattern) (text : String) : Bool :=
  let cs := text.toList
  (p.traversal cs).advance (2 ^ (cs.length + 1) - 1) != 0

def textStart : Pattern := look fun before _ => before.isNone

def textEnd : Pattern := look fun _ after => after.isNone

def plus (p : Pattern) : Pattern := rep p 1 none

def star (p : Pattern) : Pattern := rep p 0 none

def optional (p : Pattern) : Pattern := rep p 0 (some 1)

/-- One pattern after the other. -/
def sequence (ps : List Pattern) : Pattern := ps.foldr seq empty

def char (c : Char) : Pattern := one (· == c)

def word (s : String) : Pattern := sequence (s.toList.map char)

end Pattern

end FieldRules
