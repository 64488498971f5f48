import ElasticPools.Decimal.Binary
/-!
The decimal with the fewest digits that reads back as a given binary number, and of those the
nearest one.
-/
namespace ElasticPools.Decimal

/-- Which of two decimals wins that lie equally near. -/
inductive Tie where
  | even
  | up
deriving DecidableEq, Repr

namespace Shortest

/-- Whether `candidate` units of a decimal grid round to `b`. One unit of the binary grid is
`num / den` units of the decimal one. -/
def readsBack (b : Binary) (num den candidate : Nat) : Bool :=
  let low := (4 * b.mantissa - if b.isSparseAbove then 1 else 2) * num
  let high := (4 * b.mantissa + 2) * num
  let point := 4 * candidate * den
  if b.mantissa % 2 = 0 then low ≤ point && point ≤ high else low < point && point < high

/-- The better of the two neighbours of `b` on a decimal grid, if one of them rounds to `b`. -/
def onGrid? (tie : Tie) (b : Binary) (num den : Nat) : Option Nat :=
  let below := b.mantissa * num / den
  let above := below + 1
  match readsBack b num den below, readsBack b num den above with
  | false, false => none
  | true, false => some below
  | false, true => some above
  | true, true =>
    let toBelow := b.mantissa * num - below * den
    let toAbove := above * den - b.mantissa * num
    if toBelow < toAbove then some below
    else if toAbove < toBelow then some above
    else match tie with
      | .up => some above
      | .even => some (if below % 2 = 0 then below else above)

/-- Looks at ever finer grids, at most `more` of them. -/
def search (tie : Tie) (b : Binary) (unit : Int) : Nat → Scaled
  | 0 => ⟨0, 0⟩
  | more + 1 =>
    let (num, den) := powerRatio 2 b.exponent
    let (up, down) := powerRatio 10 unit
    match onGrid? tie b (num * down) (den * up) with
    | some coefficient => ⟨coefficient, unit⟩
    | none => search tie b (unit - 1) more

/-- Moves zeros at the end of the coefficient into the exponent. -/
def stripZeros (fuel : Nat) (d : Scaled) : Scaled :=
  match fuel with
  | 0 => d
  | fuel + 1 =>
    if d.coefficient ≠ 0 ∧ d.coefficient % 10 = 0 then
      stripZeros fuel ⟨d.coefficient / 10, d.exponent + 1⟩
    else d

end Shortest

/-- Seventeen digits always suffice. -/
def shortest (tie : Tie) (b : Binary) : Scaled :=
  if b.mantissa = 0 then ⟨0, 0⟩
  else
    let (num, den) := powerRatio 2 b.exponent
    Shortest.stripZeros 18 (Shortest.search tie b (decimalMagnitude (b.mantissa * num) den) 18)

end ElasticPools.Decimal
