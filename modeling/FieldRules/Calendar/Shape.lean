import FieldRules.Calendar.Moment
import FieldRules.Decimal.Numeral
import FieldRules.Text.Blank

namespace FieldRules

inductive TimeUnit where
  | year
  | month
  | day
  | hour
  | minute
  | second

def TimeUnit.width : TimeUnit → Nat
  | year => 4
  | _ => 2

/-- What an item of a shape takes off the front of a text. -/
inductive ShapeItem where
  /-- A number of exactly its width. -/
  | exact (unit : TimeUnit)
  /-- A number of at most its width, after blanks. -/
  | loose (unit : TimeUnit)
  | mark (c : Char)
  /-- The letter or the space between a date and a time. -/
  | divider
  /-- Blanks, or nothing. -/
  | gap
  /-- A point and digits, of which nine count, or nothing. -/
  | fraction
  /-- The letter for no offset, or a sign, hours and minutes. -/
  | zone

/-- What has been read of a date and a time. -/
structure TimeParts where
  year : Int := 0
  month : Nat := 0
  day : Nat := 0
  hour : Nat := 0
  minute : Nat := 0
  second : Nat := 0
  nano : Nat := 0
  /-- How far the clock is ahead, in seconds. -/
  offset : Int := 0

namespace TimeParts

def set (p : TimeParts) (n : Nat) : TimeUnit → TimeParts
  | .year => { p with year := n }
  | .month => { p with month := n }
  | .day => { p with day := n }
  | .hour => { p with hour := n }
  | .minute => { p with minute := n }
  | .second => { p with second := n }

/-- The moment of a valid date and time. A second may be the sixtieth of any minute. -/
def moment? (p : TimeParts) : Option Moment :=
  let date : Date := ⟨p.year, p.month, p.day⟩
  if date.isValid && p.hour < 24 && p.minute < 60 && p.second ≤ 60 && p.offset.natAbs < 86400 then
    let clock := 3600 * p.hour + 60 * p.minute + min p.second 59
    let leap := if p.second = 60 then 1000000000 else 0
    some ⟨86400 * date.dayNumber + clock - p.offset, p.nano + leap⟩
  else none

end TimeParts

namespace ShapeItem

open Decimal (isDigit digitsValue)

-- The powers below are core's, whichever instances a wider import brings.
attribute [local instance (high)] instPowNat

/-- The digits at the front, at most `width` of them, and what follows. -/
def takeDigits (width : Nat) (cs : List Char) : List Char × List Char :=
  let ds := (cs.take width).takeWhile isDigit
  (ds, cs.drop ds.length)

/-- All digits at the front, of which there has to be one. -/
def takeNumber (cs : List Char) : Option (Nat × List Char) :=
  match cs.takeWhile isDigit with
  | [] => none
  | ds => some (digitsValue ds, cs.dropWhile isDigit)

/-- The nanoseconds that the digits after a point stand for. -/
def nanoseconds (ds : List Char) : Nat :=
  let kept := ds.take 9
  digitsValue kept * 10 ^ (9 - kept.length)

def readZone (p : TimeParts) : List Char → Option (TimeParts × List Char)
  | 'Z' :: cs | 'z' :: cs => some (p, cs)
  | sign :: h₁ :: h₂ :: ':' :: m₁ :: m₂ :: cs =>
    if [h₁, h₂, m₁, m₂].all isDigit && (sign = '+' || sign = '-' || sign = '\u2212') then
      let minutes := digitsValue [m₁, m₂]
      let seconds : Int := 3600 * digitsValue [h₁, h₂] + 60 * minutes
      if minutes < 60 then some ({ p with offset := if sign = '+' then seconds else -seconds }, cs)
      else none
    else none
  | _ => none

def read (p : TimeParts) : ShapeItem → List Char → Option (TimeParts × List Char)
  | exact unit, cs =>
    let (ds, rest) := takeDigits unit.width cs
    if ds.length = unit.width then some (p.set (digitsValue ds) unit, rest) else none
  | loose unit, cs =>
    match unit, Text.dropBlanks cs with
    | .year, '-' :: rest => (takeNumber rest).map fun (n, rest) => ({ p with year := -n }, rest)
    | .year, '+' :: rest => (takeNumber rest).map fun (n, rest) => ({ p with year := n }, rest)
    | unit, cs =>
      match takeDigits unit.width cs with
      | ([], _) => none
      | (ds, rest) => some (p.set (digitsValue ds) unit, rest)
  | mark c, d :: rest => if d = c then some (p, rest) else none
  | divider, d :: rest => if d = 'T' || d = 't' || d = ' ' then some (p, rest) else none
  | gap, cs => some (p, Text.dropBlanks cs)
  | fraction, '.' :: cs =>
    match cs.takeWhile isDigit with
    | [] => none
    | ds => some ({ p with nano := nanoseconds ds }, cs.dropWhile isDigit)
  | fraction, cs => some (p, cs)
  | zone, cs => readZone p cs
  | _, [] => none

/-- Reads the whole text by the items of a shape. -/
def readAll (p : TimeParts) : List ShapeItem → List Char → Option TimeParts
  | [], [] => some p
  | [], _ :: _ => none
  | item :: items, cs => (item.read p cs).bind fun (p, rest) => readAll p items rest

end ShapeItem

namespace Moment

open ShapeItem

def ymd (separator : Char) : List ShapeItem :=
  [loose .year, mark separator, loose .month, mark separator, loose .day]

def hm : List ShapeItem := [loose .hour, mark ':', loose .minute]

def hms : List ShapeItem := hm ++ [mark ':', loose .second, fraction]

def zonedShape : List ShapeItem :=
  [exact .year, mark '-', exact .month, mark '-', exact .day, divider,
   exact .hour, mark ':', exact .minute, mark ':', exact .second, fraction, zone]

/-- Every shape, in the order in which they are tried. -/
def shapes : List (List ShapeItem) :=
  [zonedShape,
   ymd '-' ++ mark 'T' :: hms,
   ymd '-' ++ mark 'T' :: hm,
   ymd '-' ++ gap :: hms,
   ymd '-' ++ gap :: hm,
   ymd '-',
   ymd '/',
   [loose .month, mark '/', loose .day, mark '/', loose .year]]

def readShape (cs : List Char) (shape : List ShapeItem) : Option Moment :=
  (readAll {} shape cs).bind TimeParts.moment?

/-- The moment that a text writes between blanks; a date alone stands for its midnight. -/
def parse? (text : String) : Option Moment :=
  shapes.findSome? (readShape (Text.trimChars text.toList))

end Moment

end FieldRules
