/-!
Binary floating point numbers of 64 bits, taken apart into exact integers and put together again.
-/
namespace ElasticPools.Decimal

/-- The number `mantissa * 2 ^ exponent`. -/
structure Binary where
  mantissa : Nat
  exponent : Int
deriving DecidableEq, Repr

/-- The number `coefficient * 10 ^ exponent`. -/
structure Scaled where
  coefficient : Nat
  exponent : Int
deriving DecidableEq, Repr

/-- What the 64 bits of a number stand for, the sign apart. -/
inductive Magnitude where
  | finite (value : Binary)
  | infinite
  | undefined
deriving DecidableEq, Repr

namespace Binary

/-- The exponent of the smallest positive number. -/
def leastExponent : Int := -1074

/-- Mantissas of normal numbers start here, and end before twice as much. -/
def normalMantissa : Nat := 0x10000000000000

/-- Next to a power of two the numbers below lie twice as dense as those above. -/
def isSparseAbove (b : Binary) : Bool :=
  b.mantissa == normalMantissa && leastExponent < b.exponent

end Binary

namespace Magnitude

/-- Reads the exponent field and the fraction below it. -/
def ofBits (bits : Nat) : Magnitude :=
  let fraction := bits % Binary.normalMantissa
  let field := bits / Binary.normalMantissa % 2048
  if field = 2047 then if fraction = 0 then infinite else undefined
  else if field = 0 then finite ⟨fraction, Binary.leastExponent⟩
  else finite ⟨Binary.normalMantissa + fraction, Binary.leastExponent + (field - 1)⟩

end Magnitude

/-- The bit that is set in negative numbers. -/
def signBit : Nat := 0x8000000000000000

/-- Sign and magnitude of a number; the sign is `true` for negative ones, minus zero included. -/
def split (x : Float) : Bool × Magnitude :=
  let bits := x.toBits.toNat
  (bits / signBit == 1, .ofBits bits)

/-- The nearer integer to `num / den`, of two equally near ones the even one. -/
def roundHalfEven (num den : Nat) : Nat :=
  let quotient := num / den
  let twice := 2 * (num % den)
  if twice < den || (twice == den && quotient % 2 == 0) then quotient else quotient + 1

/-- How many decimal digits a number has; zero has none. -/
def digitCount (n : Nat) : Nat := if n = 0 then 0 else (Nat.toDigits 10 n).length

/-- The power of ten at or below a positive fraction `num / den`. -/
def decimalMagnitude (num den : Nat) : Int :=
  if den ≤ num then digitCount (num / den) - 1
  else -digitCount ((den + num - 1) / num - 1)

/-- Powers with a whole exponent, as numerator and denominator. -/
def powerRatio (base : Nat) (exponent : Int) : Nat × Nat :=
  if 0 ≤ exponent then (Nat.pow base exponent.toNat, 1)
  else (1, Nat.pow base (-exponent).toNat)

end ElasticPools.Decimal
