import ElasticPools.Decimal.Nearest
/-!
Decimal literals: digits with an optional point among, before or after them, and an optional
exponent.
-/
namespace ElasticPools.Decimal

def digitValue (c : Char) : Nat := c.toNat - '0'.toNat

/-- The number that a run of digits in some base stands for. -/
def natOfDigits (base : Nat) (value : Char → Nat) (digits : List Char) : Nat :=
  digits.foldl (fun n c => n * base + value c) 0

/-- The exponent that follows the digits, zero if there is none. -/
def readExponent? : List Char → Option Int
  | [] => some 0
  | marker :: rest =>
    if marker = 'e' || marker = 'E' then
      let (negative, digits) := match rest with
        | '-' :: digits => (true, digits)
        | '+' :: digits => (false, digits)
        | digits => (false, digits)
      if digits.isEmpty || !digits.all Char.isDigit then none
      else
        let n := natOfDigits 10 digitValue digits
        some (if negative then -n else n)
    else none

/-- Reads a literal without a sign. -/
def readUnsigned? (text : List Char) : Option Scaled :=
  let whole := text.takeWhile Char.isDigit
  let (places, rest) := match text.dropWhile Char.isDigit with
    | '.' :: rest => (rest.takeWhile Char.isDigit, rest.dropWhile Char.isDigit)
    | rest => ([], rest)
  if whole.isEmpty && places.isEmpty then none
  else
    (readExponent? rest).map fun e =>
      ⟨natOfDigits 10 digitValue (whole ++ places), e - places.length⟩

/-- Reads a literal with an optional sign, and rounds it to the nearest binary number. -/
def readFloat? (text : List Char) : Option Float :=
  match text with
  | '-' :: rest => (readUnsigned? rest).map (·.toFloat true)
  | '+' :: rest => (readUnsigned? rest).map (·.toFloat false)
  | rest => (readUnsigned? rest).map (·.toFloat false)

end ElasticPools.Decimal
