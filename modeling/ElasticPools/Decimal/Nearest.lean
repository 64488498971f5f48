import ElasticPools.Decimal.Binary
/-!
The binary number nearest to a decimal. Of two equally near ones the one with the even mantissa is
taken; what is too large becomes infinite.
-/
namespace ElasticPools.Decimal

namespace Nearest

/-- The exponent that leaves a positive fraction 53 bits of mantissa, or fewer below the normal
range. -/
def exponent (num den : Nat) : Int :=
  let guess : Int := (num.log2 : Int) - den.log2 - 52
  let (up, down) := powerRatio 2 guess
  let fitted := if num * down < Binary.normalMantissa * (den * up) then guess - 1 else guess
  max fitted Binary.leastExponent

/-- The bits of the number nearest to `num / den`, for a positive fraction. -/
def bits (num den : Nat) : Nat :=
  let e := exponent num den
  let (up, down) := powerRatio 2 e
  let mantissa := roundHalfEven (num * down) (den * up)
  let field := (e - Binary.leastExponent).toNat
  let encoded := field * Binary.normalMantissa + mantissa
  min encoded (2047 * Binary.normalMantissa)

/-- Decimals above this power of ten are infinite, and those below its negative are zero. -/
def extreme : Int := 400

end Nearest

/-- The magnitude bits of the number nearest to a decimal. -/
def Scaled.nearestBits (d : Scaled) : Nat :=
  let power := d.exponent + digitCount d.coefficient
  if d.coefficient = 0 || power < -Nearest.extreme then 0
  else if Nearest.extreme < power then 2047 * Binary.normalMantissa
  else
    let (num, den) := powerRatio 10 d.exponent
    Nearest.bits (d.coefficient * num) den

/-- The number nearest to a decimal, with a sign that zero keeps too. -/
def Scaled.toFloat (negative : Bool) (d : Scaled) : Float :=
  Float.ofBits (UInt64.ofNat (d.nearestBits + if negative then signBit else 0))

end ElasticPools.Decimal
