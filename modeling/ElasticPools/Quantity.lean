/-!
The arithmetic that utilization readings, thresholds and loads go through. Programs run on binary
floating point; statements about exact sums and quotients take an exact instance.
-/
namespace ElasticPools

class Quantity (α : Type) extends OfScientific α, NatCast α, Add α, Sub α, Div α,
    LT α, LE α where
  decidableLT : DecidableLT α
  decidableLE : DecidableLE α
  /-- A number, and neither infinite nor undefined. -/
  isFinite : α → Bool

attribute [reducible, instance] Quantity.decidableLT Quantity.decidableLE

instance : Quantity Float where
  natCast := Float.ofNat
  decidableLT := inferInstance
  decidableLE := inferInstance
  isFinite := Float.isFinite

namespace Quantity

variable {α : Type} [Quantity α]

/-- The sum of a list that starts with `first`, taken from front to back. -/
def sumFrom (first : α) (rest : List α) : α := rest.foldl (· + ·) first

/-- The mean of a list, summed from front to back. No number is the mean of nothing. -/
def mean? : List α → Option α
  | [] => none
  | x :: xs => some (sumFrom x xs / ((xs.length + 1 : Nat) : α))

theorem mean?_eq_none_iff {xs : List α} : mean? xs = none ↔ xs = [] := by
  cases xs <;> simp [mean?]

end Quantity

end ElasticPools
