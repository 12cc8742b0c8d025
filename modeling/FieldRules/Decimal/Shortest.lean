import FieldRules.Decimal.Nearest

namespace FieldRules.Decimal

-- The powers below are core's, whichever instances a wider import brings.
attribute [local instance (high)] instPowNat

/-- A positive binary64 `significand * 2 ^ exponent`, and how far below it reaches the half of the
spacing: one quarter of a unit where the spacing changes, two elsewhere. -/
structure Binary where
  significand : Nat
  exponent : Int
  below : Nat

def Binary.ofBits (bits : Nat) : Binary :=
  let field : Nat := bits / 2 ^ (52 : Nat) % 2 ^ (11 : Nat)
  let low : Nat := bits % 2 ^ (52 : Nat)
  if field = 0 then ⟨low, -1074, 2⟩
  else ⟨2 ^ (52 : Nat) + low, (field : Int) - 1075, if low = 0 && 1 < field then 1 else 2⟩

/-- Whether a binary64 is an integer. -/
def isWhole (x : Float) : Bool :=
  let b := Binary.ofBits (x.toBits.toNat % 2 ^ (63 : Nat))
  x.isFinite && b.significand % 2 ^ (-b.exponent).toNat == 0

/-- The number `v`, in quarters of its unit, measured against the multiples of `10 ^ grid`: the
value is `4 * significand * scale / step` of them. -/
def gridScale (b : Binary) (grid : Int) : Nat × Nat :=
  let e := b.exponent - 2
  (2 ^ e.toNat * 10 ^ (-grid).toNat, 2 ^ (-e).toNat * 10 ^ grid.toNat)

/-- The multiple of `10 ^ grid` nearest to `b` among those that round to `b`, if there is one. -/
def onGrid (b : Binary) (grid : Int) : Option Nat :=
  let (scale, step) := gridScale b grid
  let value := 4 * b.significand * scale
  let low := (4 * b.significand - b.below) * scale
  let high := (4 * b.significand + 2) * scale
  let inside (c : Nat) : Bool :=
    if b.significand % 2 = 0 then low ≤ c * step && c * step ≤ high
    else low < c * step && c * step < high
  let c := value / step
  let down := value - c * step
  let up := (c + 1) * step - value
  match inside c, inside (c + 1) with
  | true, true =>
    some (if down < up || (down == up && c % 2 == 0) then c else c + 1)
  | true, false => some c
  | false, true => some (c + 1)
  | false, false => none

/-- The first of the grids from `10 ^ grid` downwards that has a decimal for `b`. -/
def firstGrid (b : Binary) : Nat → Int → Nat × Int
  | 0, grid => (0, grid)
  | fuel + 1, grid =>
    match onGrid b grid with
    | some c => (c, grid)
    | none => firstGrid b fuel (grid - 1)

/-- The digits and the power of ten of the shortest decimal. The search starts above the number
and, since 17 digits always do, ends within the given count of grids. -/
def shortest (b : Binary) : Nat × Int :=
  firstGrid b 24 ((b.exponent + b.significand.log2 + 1) * 30103 / 100000 + 2)

def zeros (n : Nat) : List Char := List.replicate n '0'

/-- Lays out a digit string times a power of ten. -/
def layout (digits : List Char) (power : Int) : List Char :=
  let point := digits.length + power
  if 0 ≤ power && point ≤ 16 then digits ++ zeros power.toNat ++ ['.', '0']
  else if 0 < point && point ≤ 16 then
    digits.take point.toNat ++ '.' :: digits.drop point.toNat
  else if -5 < point && point ≤ 0 then '0' :: '.' :: zeros (-point).toNat ++ digits
  else
    let exponent := point - 1
    let mark := 'e' :: (if exponent < 0 then '-' else '+') :: Nat.toDigits 10 exponent.natAbs
    match digits with
    | [] => mark
    | [d] => d :: mark
    | d :: ds => d :: '.' :: ds ++ mark

/-- The text of a finite binary64. -/
def realText (x : Float) : String :=
  let bits := x.toBits.toNat
  let magnitude := bits % 2 ^ (63 : Nat)
  let body :=
    if magnitude = 0 then ['0', '.', '0']
    else
      let (digits, power) := shortest (Binary.ofBits magnitude)
      layout (Nat.toDigits 10 digits) power
  String.ofList (if 2 ^ (63 : Nat) ≤ bits then '-' :: body else body)

end FieldRules.Decimal
