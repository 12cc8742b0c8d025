import FieldRules.Decimal.Numeral
import FieldRules.Json.Basic
import FieldRules.Text.Hex

namespace FieldRules.Json

/-- A piece of a string: a character, or the code unit of an escape. -/
inductive Piece where
  | char (c : Char)
  | code (n : Nat)

/-- A text that follows the grammar, with its numerals and strings not yet interpreted and repeated
members all there. -/
inductive Source where
  | null
  | bool (b : Bool)
  /-- The flag tells that there was neither a fraction nor an exponent. -/
  | numeral (n : Decimal.Numeral) (whole : Bool)
  | string (pieces : List Piece)
  | array (items : List Source)
  | object (members : List (List Piece × Source))

namespace Source

-- The powers below are core's, whichever instances a wider import brings.
attribute [local instance (high)] instPowNat

def isSpace (c : Char) : Bool := c = ' ' || c = '\t' || c = '\n' || c = '\r'

def skipSpaces (cs : List Char) : List Char := cs.dropWhile isSpace

def escaped? : Char → Option Char
  | '"' => some '"'
  | '\\' => some '\\'
  | '/' => some '/'
  | 'b' => some '\x08'
  | 'f' => some '\x0c'
  | 'n' => some '\n'
  | 'r' => some '\r'
  | 't' => some '\t'
  | _ => none

/-- A string after its opening quotation mark, and what follows the closing one. -/
def readPieces : List Char → Option (List Piece × List Char)
  | [] => none
  | '"' :: cs => some ([], cs)
  | '\\' :: 'u' :: a :: b :: c :: d :: cs => do
    let n ← Text.hexNumber? [a, b, c, d]
    let (pieces, rest) ← readPieces cs
    return (.code n :: pieces, rest)
  | '\\' :: c :: cs => do
    let e ← escaped? c
    let (pieces, rest) ← readPieces cs
    return (.char e :: pieces, rest)
  | c :: cs => do
    if c.toNat < 0x20 || c = '\\' then none
    else
      let (pieces, rest) ← readPieces cs
      return (.char c :: pieces, rest)

/-- The digits at the front and what follows them. -/
def spanDigits (cs : List Char) : List Char × List Char :=
  (cs.takeWhile Decimal.isDigit, cs.dropWhile Decimal.isDigit)

/-- A fraction, which is empty or has a digit. -/
def readFraction : List Char → Option (List Char × List Char)
  | '.' :: cs =>
    match spanDigits cs with
    | ([], _) => none
    | found => some found
  | cs => some ([], cs)

/-- An exponent, which is absent or has a digit. -/
def readExponent : List Char → Option (Option Int × List Char)
  | [] => some (none, [])
  | c :: cs =>
    if c = 'e' || c = 'E' then
      let (negative, body) := Decimal.takeSign cs
      match spanDigits body with
      | ([], _) => none
      | (ds, rest) =>
        let n : Int := Decimal.digitsValue ds
        some (some (if negative then -n else n), rest)
    else some (none, c :: cs)

/-- A numeral: no digit follows a leading zero, and every point and exponent has digits. -/
def readNumeral (cs : List Char) : Option (Source × List Char) := do
  let (negative, body) := match cs with
    | '-' :: rest => (true, rest)
    | _ => (false, cs)
  let (whole, rest) := spanDigits body
  if whole.isEmpty || (whole.head? = some '0' && 1 < whole.length) then none
  else
    let (fraction, rest) ← readFraction rest
    let (exponent, rest) ← readExponent rest
    return (.numeral ⟨negative, whole, fraction, exponent.getD 0⟩
      (fraction.isEmpty && exponent.isNone), rest)

mutual

def readValue : Nat → List Char → Option (Source × List Char)
  | 0, _ => none
  | fuel + 1, cs =>
    match skipSpaces cs with
    | 'n' :: 'u' :: 'l' :: 'l' :: rest => some (.null, rest)
    | 't' :: 'r' :: 'u' :: 'e' :: rest => some (.bool true, rest)
    | 'f' :: 'a' :: 'l' :: 's' :: 'e' :: rest => some (.bool false, rest)
    | '"' :: rest => (readPieces rest).map fun (pieces, rest) => (.string pieces, rest)
    | '[' :: rest =>
      match skipSpaces rest with
      | ']' :: rest => some (.array [], rest)
      | rest => (readItems fuel rest).map fun (items, rest) => (.array items, rest)
    | '{' :: rest =>
      match skipSpaces rest with
      | '}' :: rest => some (.object [], rest)
      | rest => (readMembers fuel rest).map fun (members, rest) => (.object members, rest)
    | rest => readNumeral rest

/-- The items of an array up to its closing bracket. -/
def readItems : Nat → List Char → Option (List Source × List Char)
  | 0, _ => none
  | fuel + 1, cs => do
    let (item, rest) ← readValue fuel cs
    match skipSpaces rest with
    | ']' :: rest => return ([item], rest)
    | ',' :: rest =>
      let (items, rest) ← readItems fuel rest
      return (item :: items, rest)
    | _ => none

/-- The members of an object up to its closing brace. -/
def readMembers : Nat → List Char → Option (List (List Piece × Source) × List Char)
  | 0, _ => none
  | fuel + 1, cs => do
    match skipSpaces cs with
    | '"' :: rest =>
      let (key, rest) ← readPieces rest
      match skipSpaces rest with
      | ':' :: rest =>
        let (value, rest) ← readValue fuel rest
        match skipSpaces rest with
        | '}' :: rest => return ([(key, value)], rest)
        | ',' :: rest =>
          let (members, rest) ← readMembers fuel rest
          return ((key, value) :: members, rest)
        | _ => none
      | _ => none
    | _ => none

end

/-- Reads a whole text. Every nested call takes a character, so twice the length suffices. -/
def read? (text : String) : Option Source := do
  let cs := text.toList
  let (value, rest) ← readValue (2 * cs.length + 2) cs
  if (skipSpaces rest).isEmpty then some value else none

/-- The characters of a string; escaped surrogates have to come in pairs. -/
def decode : List Piece → Option (List Char)
  | [] => some []
  | .char c :: rest => (decode rest).map (c :: ·)
  | .code n :: rest =>
    if n < 0xD800 || 0xDFFF < n then (decode rest).map (Char.ofNat n :: ·)
    else if 0xDBFF < n then none
    else match rest with
      | .code m :: rest =>
        if 0xDC00 ≤ m && m ≤ 0xDFFF then
          (decode rest).map (Char.ofNat (0x10000 + (n - 0xD800) * 0x400 + (m - 0xDC00)) :: ·)
        else none
      | _ => none

def decodeString (pieces : List Piece) : Option String := (decode pieces).map String.ofList

/-- The number of a numeral: an integer if it is written as one and fits 64 bits, signed or
unsigned, except for minus zero. A number beyond binary64 has no value. -/
def number? (n : Decimal.Numeral) (whole : Bool) : Option Number :=
  let magnitude := Decimal.digitsValue n.whole
  if whole && !n.negative && magnitude < 2 ^ (64 : Nat) then some (.int magnitude)
  else if whole && n.negative && 0 < magnitude && magnitude ≤ 2 ^ (63 : Nat) then
    some (.int (-magnitude))
  else
    let x := n.toFloat
    if x.isFinite then some (.real x) else none

end Source

end FieldRules.Json
