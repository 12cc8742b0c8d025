namespace FieldRules.Decimal

-- The powers below are core's, whichever instances a wider import brings.
attribute [local instance (high)] instPowNat

/-- The quotient rounded to the nearest integer, a tie to the even one. -/
def roundDiv (num den : Nat) : Nat :=
  let q := num / den
  let r := num % den
  if den < 2 * r || (2 * r == den && q % 2 == 1) then q + 1 else q

/-- The largest `e` with `2 ^ e ≤ num / den`, for positive `num` and `den`. -/
def floorLog2 (num den : Nat) : Int :=
  let e : Int := (num.log2 : Int) - den.log2
  if den * 2 ^ e.toNat ≤ num * 2 ^ (-e).toNat then e else e - 1

def infinityBits : Nat := 0x7FF0000000000000

/-- The bits of the binary64 nearest to `num / den`: the spacing is `2 ^ q` with `q` at least
`-1074`, and the multiple of it is written below the exponent, into which a carry runs over. -/
def nearestBits (num den : Nat) : Nat :=
  if num = 0 then 0
  else
    let q := max (floorLog2 num den - 52) (-1074)
    let m := roundDiv (num * 2 ^ (-q).toNat) (den * 2 ^ q.toNat)
    min ((q + 1074).toNat * 2 ^ (52 : Nat) + m) infinityBits

/-- The binary64 nearest to `± significand * 10 ^ exponent`. Exponents far beyond the range of
binary64 are answered without the power. -/
def toFloat (negative : Bool) (significand : Nat) (exponent : Int) : Float :=
  let magnitude :=
    if significand = 0 then 0
    else if 400 < exponent then infinityBits
    else if exponent < -400 - (significand.log2 : Int) then 0
    else nearestBits (significand * 10 ^ exponent.toNat) (10 ^ (-exponent).toNat)
  Float.ofBits (UInt64.ofNat (if negative then 2 ^ (63 : Nat) + magnitude else magnitude))

/-- The binary64 nearest to an integer. -/
def ofInt (n : Int) : Float := toFloat (n < 0) n.natAbs 0

end FieldRules.Decimal
