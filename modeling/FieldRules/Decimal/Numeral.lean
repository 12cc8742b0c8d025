import FieldRules.Decimal.Nearest

namespace FieldRules.Decimal

def isDigit (c : Char) : Bool := '0' ≤ c && c ≤ '9'

def digitValue (c : Char) : Nat := c.toNat - '0'.toNat

/-- The number written by a list of digits; the empty list writes zero. -/
def digitsValue (ds : List Char) : Nat := ds.foldl (fun n d => 10 * n + digitValue d) 0

structure Numeral where
  negative : Bool
  whole : List Char
  fraction : List Char
  exponent : Int

def Numeral.toFloat (n : Numeral) : Float :=
  Decimal.toFloat n.negative (digitsValue (n.whole ++ n.fraction))
    (n.exponent - n.fraction.length)

/-- Takes an optional sign off the front: whether it is a minus, and the rest. -/
def takeSign : List Char → Bool × List Char
  | '-' :: cs => (true, cs)
  | '+' :: cs => (false, cs)
  | cs => (false, cs)

/-- An exponent part that fills the whole text; no text is no exponent. -/
def readExponent : List Char → Option Int
  | [] => some 0
  | c :: cs =>
    if c = 'e' || c = 'E' then
      let (negative, ds) := takeSign cs
      if ds.isEmpty || !ds.all isDigit then none
      else some (if negative then -(digitsValue ds : Int) else digitsValue ds)
    else none

/-- An unsigned numeral that fills the whole text, with a digit before or after its point. -/
def readUnsigned (negative : Bool) (cs : List Char) : Option Numeral :=
  let whole := cs.takeWhile isDigit
  let rest := cs.dropWhile isDigit
  let (fraction, rest) := match rest with
    | '.' :: after => (after.takeWhile isDigit, after.dropWhile isDigit)
    | _ => ([], rest)
  if whole.isEmpty && fraction.isEmpty then none
  else (readExponent rest).map fun exponent => ⟨negative, whole, fraction, exponent⟩

def lower (cs : List Char) : List Char := cs.map Char.toLower

/-- The number that the whole text writes, if it writes one. -/
def readReal (cs : List Char) : Option Float :=
  let (negative, body) := takeSign cs
  let word := lower body
  if word = "inf".toList || word = "infinity".toList then
    some (Float.ofBits (if negative then 0xFFF0000000000000 else 0x7FF0000000000000))
  else if word = "nan".toList then
    some (Float.ofBits 0x7FF8000000000000)
  else (readUnsigned negative body).map Numeral.toFloat

end FieldRules.Decimal
