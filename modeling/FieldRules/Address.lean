import FieldRules.Decimal.Numeral
import FieldRules.Text.Hex

namespace FieldRules.Address

open Decimal (isDigit digitsValue)

/-- A decimal number below 256 at the front, and what follows it. -/
def takeOctet (cs : List Char) : Option (List Char) :=
  let ds := cs.takeWhile isDigit
  if ds.isEmpty || 3 < ds.length || 255 < digitsValue ds || (ds.head? = some '0' && 1 < ds.length)
  then none
  else some (cs.dropWhile isDigit)

def takeDot : List Char → Option (List Char)
  | '.' :: cs => some cs
  | _ => none

/-- A version 4 address at the front, and what follows it. -/
def takeV4 (cs : List Char) : Option (List Char) := do
  let cs ← takeOctet cs
  let cs ← takeOctet (← takeDot cs)
  let cs ← takeOctet (← takeDot cs)
  takeOctet (← takeDot cs)

/-- A group of one to four hexadecimal digits at the front, and what follows it. -/
def takeGroup (cs : List Char) : Option (List Char) :=
  let ds := cs.takeWhile Text.isHexDigit
  if ds.isEmpty || 4 < ds.length then none else some (cs.dropWhile Text.isHexDigit)

/-- What follows the colon before a group, of which the first has none. -/
def afterColon (first : Bool) : List Char → Option (List Char)
  | cs =>
    if first then some cs
    else match cs with
      | ':' :: rest => some rest
      | _ => none

/-- Groups at the front, at most `room` of them: how many there are, whether they end with a
version 4 address, which counts for two and needs room for two, and what follows. -/
def takeGroups : Nat → Bool → List Char → Nat × Bool × List Char
  | 0, _, cs => (0, false, cs)
  | room + 1, first, cs =>
    match afterColon first cs with
    | none => (0, false, cs)
    | some body =>
      match if room = 0 then none else takeV4 body with
      | some rest => (2, true, rest)
      | none =>
        match takeGroup body with
        | none => (0, false, cs)
        | some rest =>
          let (count, v4, rest) := takeGroups room false rest
          (count + 1, v4, rest)

/-- Whether the whole text is a version 6 address. -/
def isV6 (cs : List Char) : Bool :=
  let (count, v4, rest) := takeGroups 8 true cs
  if count = 8 then rest.isEmpty
  else if v4 then false
  else match rest with
    | ':' :: ':' :: rest =>
      let (_, _, rest) := takeGroups (7 - count) true rest
      rest.isEmpty
    | _ => false

/-- Whether the whole text is an address of either version. -/
def isAddress (cs : List Char) : Bool :=
  match takeV4 cs with
  | some rest => rest.isEmpty
  | none => isV6 cs

end FieldRules.Address
