import ElasticPools.Utilization
import Mathlib.Algebra.Order.BigOperators.Group.List
import Mathlib.Algebra.Order.Field.Basic
import Mathlib.Algebra.Order.Ring.Rat

/-!
Exact quantities: the rational numbers, two infinities, and what is not a number. Readings may be any
of them. Comparisons are those of floating point, and what is computed from rational numbers is not
rounded. There is one zero, which counts as positive.
-/

set_option autoImplicit false

namespace ElasticPools

inductive Extended where
  | finite (x : ℚ)
  | infinite (negative : Bool)
  | undefined
deriving DecidableEq

namespace Extended

def add : Extended → Extended → Extended
  | finite x, finite y => finite (x + y)
  | infinite s, infinite s' => if s = s' then infinite s else undefined
  | infinite s, finite _ | finite _, infinite s => infinite s
  | undefined, _ | _, undefined => undefined

def neg : Extended → Extended
  | finite x => finite (-x)
  | infinite s => infinite (!s)
  | undefined => undefined

def div : Extended → Extended → Extended
  | finite x, finite y =>
    if y ≠ 0 then finite (x / y) else if x = 0 then undefined else infinite (x < 0)
  | infinite s, finite y => infinite (s ^^ decide (y < 0))
  | finite _, infinite _ => finite 0
  | infinite _, infinite _ => undefined
  | undefined, _ | _, undefined => undefined

/-- What is not a number is less than nothing, and nothing is less than it. -/
def less : Extended → Extended → Bool
  | finite x, finite y => x < y
  | infinite s, infinite s' => s && !s'
  | infinite s, finite _ => s
  | finite _, infinite s => !s
  | undefined, _ | _, undefined => false

def lessOrSame (a b : Extended) : Bool := a.less b || a = b && a ≠ undefined

instance : Quantity Extended where
  ofScientific mantissa sign exponent := finite (OfScientific.ofScientific mantissa sign exponent)
  natCast n := finite n
  add := add
  sub a b := add a (neg b)
  div := div
  lt a b := a.less b = true
  le a b := a.lessOrSame b = true
  decidableLT _ _ := inferInstanceAs (Decidable (_ = true))
  decidableLE _ _ := inferInstanceAs (Decidable (_ = true))
  isFinite
    | finite _ => true
    | infinite _ | undefined => false

@[simp] theorem finite_lt {x y : ℚ} : finite x < finite y ↔ x < y := decide_eq_true_iff

@[simp] theorem finite_le {x y : ℚ} : finite x ≤ finite y ↔ x ≤ y := by
  show (less (finite x) (finite y) || finite x = finite y && finite x ≠ undefined) = true ↔ x ≤ y
  simp [less, le_iff_lt_or_eq]

@[simp] theorem finite_add (x y : ℚ) : finite x + finite y = finite (x + y) := rfl

theorem finite_sub (x y : ℚ) : finite x - finite y = finite (x - y) :=
  congrArg finite (sub_eq_add_neg x y).symm

theorem finite_div (x : ℚ) {y : ℚ} (nonzero : y ≠ 0) : finite x / finite y = finite (x / y) :=
  if_pos nonzero

theorem zero_eq : (0.0 : Extended) = finite 0 := congrArg finite (by decide +kernel)

theorem one_eq : (1.0 : Extended) = finite 1 := congrArg finite (by decide +kernel)

/-- Between two numbers there are only numbers. -/
theorem exists_finite {low high : ℚ} {u : Extended} (above : finite low ≤ u)
    (below : u ≤ finite high) : ∃ x, u = finite x := by
  cases u with
  | finite x => exact ⟨x, rfl⟩
  | infinite s =>
    cases s with
    | false => cases below
    | true => cases above
  | undefined => cases above

/-- The number in the unit interval that a reading counts as. -/
def clamped : Extended → ℚ
  | finite x => max 0 (min x 1)
  | infinite _ | undefined => 0

theorem clamped_nonneg (reading : Extended) : 0 ≤ reading.clamped := by
  cases reading with
  | finite x => exact le_max_left 0 _
  | infinite | undefined => exact le_rfl

theorem clamped_le_one (reading : Extended) : reading.clamped ≤ 1 := by
  cases reading with
  | finite x => exact max_le zero_le_one (min_le_right x 1)
  | infinite | undefined => exact zero_le_one

theorem sanitize_eq (reading : Extended) : Utilization.sanitize reading = finite reading.clamped := by
  unfold Utilization.sanitize
  rw [zero_eq, one_eq]
  cases reading with
  | finite x =>
    simp only [Quantity.isFinite, if_true, finite_lt]
    split
    · next below => rw [clamped, max_eq_left ((min_le_left x 1).trans below.le)]
    · next natural =>
      split
      · next above => rw [clamped, min_eq_right above.le, max_eq_right zero_le_one]
      · next small => rw [clamped, min_eq_left (not_lt.mp small), max_eq_right (not_lt.mp natural)]
  | infinite | undefined => rfl

/-- The exact mean of a list, and nothing in particular for the empty one. -/
def mean (xs : List ℚ) : ℚ := xs.sum / xs.length

theorem foldl_add (x : ℚ) (xs : List ℚ) :
    (xs.map finite).foldl (· + ·) (finite x) = finite (x + xs.sum) := by
  induction xs generalizing x with
  | nil => simp
  | cons y ys ih => rw [List.map_cons, List.foldl_cons, finite_add, ih, List.sum_cons, add_assoc]

/-- Numbers are added up and divided without rounding. -/
theorem mean?_finite {xs : List ℚ} (populated : xs ≠ []) :
    Quantity.mean? (xs.map finite) = some (finite (mean xs)) := by
  cases xs with
  | nil => exact absurd rfl populated
  | cons x xs =>
    have nonzero : ((xs.length + 1 : ℕ) : ℚ) ≠ 0 := Nat.cast_ne_zero.mpr (Nat.succ_ne_zero _)
    rw [List.map_cons, Quantity.mean?, Quantity.sumFrom, foldl_add, List.length_map]
    exact congrArg some (finite_div _ nonzero)

theorem le_mean {xs : List ℚ} (populated : xs ≠ []) {bound : ℚ} (above : ∀ x ∈ xs, bound ≤ x) :
    bound ≤ mean xs := by
  have positive : (0 : ℚ) < xs.length := Nat.cast_pos.mpr (List.length_pos_iff.mpr populated)
  have total := List.card_nsmul_le_sum xs bound above
  rwa [mean, le_div_iff₀ positive, mul_comm, ← nsmul_eq_mul]

theorem mean_le {xs : List ℚ} (populated : xs ≠ []) {bound : ℚ} (below : ∀ x ∈ xs, x ≤ bound) :
    mean xs ≤ bound := by
  have positive : (0 : ℚ) < xs.length := Nat.cast_pos.mpr (List.length_pos_iff.mpr populated)
  have total := List.sum_le_card_nsmul xs bound below
  rwa [mean, div_le_iff₀ positive, mul_comm, ← nsmul_eq_mul]

end Extended

end ElasticPools
