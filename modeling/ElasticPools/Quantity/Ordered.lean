import ElasticPools.Policy
import ElasticPools.Quantity.Extended
import Mathlib.Data.Prod.Lex

/-!
The order among quantities. Numbers and infinities have ranks, and comparisons go by these. What is
not a number has none, and no comparison with it holds.
-/

set_option autoImplicit false

namespace ElasticPools

namespace Quantity

class Ordered (α : Type) [Quantity α] where
  Rank : Type
  order : LinearOrder Rank
  rank? : α → Option Rank
  lt_iff {a b : α} : a < b ↔ ∃ x ∈ rank? a, ∃ y ∈ rank? b, x < y
  le_iff {a b : α} : a ≤ b ↔ ∃ x ∈ rank? a, ∃ y ∈ rank? b, x ≤ y

namespace Ordered

attribute [reducible, instance] order

variable {α : Type} [Quantity α] [Ordered α] {a b c d : α}

theorem not_lt_of_le (ordered : a ≤ b) : ¬ b < a := by
  intro reversed
  obtain ⟨x, rankA, y, rankB, ordered⟩ := le_iff.mp ordered
  obtain ⟨y', rankB', x', rankA', reversed⟩ := lt_iff.mp reversed
  obtain rfl := Option.mem_unique rankA rankA'
  obtain rfl := Option.mem_unique rankB rankB'
  exact not_lt_of_ge ordered reversed

theorem lt_of_le_of_lt (ordered : a ≤ b) (apart : b < c) : a < c := by
  obtain ⟨x, rankA, y, rankB, ordered⟩ := le_iff.mp ordered
  obtain ⟨y', rankB', z, rankC, apart⟩ := lt_iff.mp apart
  obtain rfl := Option.mem_unique rankB rankB'
  exact lt_iff.mpr ⟨x, rankA, z, rankC, ordered.trans_lt apart⟩

/-- Two quantities that compare with some compare with each other. -/
theorem le_or_lt (known : a ≤ b) (known' : c ≤ d) : b ≤ c ∨ c < b := by
  obtain ⟨_, _, y, rankB, _⟩ := le_iff.mp known
  obtain ⟨z, rankC, _⟩ := le_iff.mp known'
  rcases le_or_gt y z with ordered | reversed
  · exact .inl (le_iff.mpr ⟨y, rankB, z, rankC, ordered⟩)
  · exact .inr (lt_iff.mpr ⟨z, rankC, y, rankB, reversed⟩)

end Ordered

/-- Where every finite quantity has a rank, zero among them. -/
class Ranked (α : Type) [Quantity α] extends Ordered α where
  isFinite_zero : isFinite (0.0 : α) = true
  rank?_of_isFinite {a : α} : isFinite a = true → ∃ x, rank? a = some x

/-- A finite quantity that is not negative is at least zero. -/
theorem Ranked.zero_le_iff {α : Type} [Quantity α] [Ranked α] {a : α} (finite : isFinite a = true) :
    (0.0 : α) ≤ a ↔ ¬ a < (0.0 : α) := by
  refine ⟨Ordered.not_lt_of_le, fun notBelow => ?_⟩
  obtain ⟨x, rankZero⟩ := rank?_of_isFinite (isFinite_zero (α := α))
  obtain ⟨y, rank⟩ := rank?_of_isFinite finite
  refine Ordered.le_iff.mpr ⟨x, rankZero, y, rank, not_lt.mp fun below => ?_⟩
  exact notBelow (Ordered.lt_iff.mpr ⟨y, rank, x, rankZero, below⟩)

end Quantity

namespace Extended

/-- The infinities lie outside. -/
def rank? : Extended → Option (ℤ ×ₗ ℚ)
  | infinite true => some (toLex (-1, 0))
  | finite x => some (toLex (0, x))
  | infinite false => some (toLex (1, 0))
  | undefined => none

instance : Quantity.Ordered Extended where
  Rank := ℤ ×ₗ ℚ
  order := inferInstance
  rank? := rank?
  lt_iff {a b} := by
    show a.less b = true ↔ _
    rcases a with x | ⟨_ | _⟩ | _ <;> rcases b with y | ⟨_ | _⟩ | _ <;>
      simp [less, rank?, Prod.Lex.lt_iff]
  le_iff {a b} := by
    show a.lessOrSame b = true ↔ _
    rcases a with x | ⟨_ | _⟩ | _ <;> rcases b with y | ⟨_ | _⟩ | _ <;>
      simp [lessOrSame, less, rank?, le_iff_lt_or_eq, Prod.Lex.lt_iff]

instance : Quantity.Ranked Extended where
  isFinite_zero := rfl
  rank?_of_isFinite {a} finite := by
    cases a with
    | finite x => exact ⟨_, rfl⟩
    | infinite | undefined => cases finite

end Extended

namespace Floating

open Float.Model

/-- Zeros lie in the middle and infinities outside. The numbers between them are ordered by their
exponents, and by their significands where these agree. -/
def rank? : UnpackedFloat → Option (ℤ ×ₗ ℤ ×ₗ ℤ)
  | .infinity .negative => some (toLex (-2, toLex (0, 0)))
  | .finite .negative significand exponent _ => some (toLex (-1, toLex (-exponent, -significand)))
  | .zero _ => some (toLex (0, toLex (0, 0)))
  | .finite .positive significand exponent _ => some (toLex (1, toLex (exponent, significand)))
  | .infinity .positive => some (toLex (2, toLex (0, 0)))
  | .notANumber => none

theorem compare_toLex (s s' e e' m m' : ℤ) :
    compare (toLex (s, toLex (e, m))) (toLex (s', toLex (e', m'))) =
      (compare s s').then ((compare e e').then (compare m m')) := by
  simp only [Prod.Lex.compare_def, compareLex, compareOn, ofLex_toLex]

theorem compare_neg (m n : ℤ) : compare (-m) (-n) = (compare m n).swap := by
  have reversed : cmp (-m) (-n) = cmp n m := StrictAnti.cmp_map_eq (fun _ _ => neg_lt_neg) m n
  rw [← cmp_eq_compare, reversed, ← cmp_swap, cmp_eq_compare]

theorem compare_cast (m n : ℕ) : compare (m : ℤ) n = compare m n := by
  rw [← cmp_eq_compare, ← cmp_eq_compare, (Nat.strictMono_cast (α := ℤ)).cmp_map_eq]

theorem compare_eq (a b : UnpackedFloat) :
    a.compare b = (rank? a).bind fun x => (rank? b).map (compare x) := by
  rcases a with ⟨_ | _⟩ | _ | _ | ⟨_ | _, m, e, _⟩ <;>
    rcases b with ⟨_ | _⟩ | _ | _ | ⟨_ | _, m', e', _⟩ <;>
    dsimp only [UnpackedFloat.compare, rank?, Option.bind_some, Option.bind_none, Option.map_some,
      Option.map_none] <;>
    simp only [compare_toLex, compare_neg, compare_cast, Ordering.swap_then] <;>
    rfl

theorem lt_iff (a b : UnpackedFloat) :
    a.lt b = true ↔ ∃ x ∈ rank? a, ∃ y ∈ rank? b, x < y := by
  rw [UnpackedFloat.lt, compare_eq]
  cases rank? a <;> cases rank? b <;> simp [compare_lt_iff_lt]

theorem le_iff (a b : UnpackedFloat) :
    a.le b = true ↔ ∃ x ∈ rank? a, ∃ y ∈ rank? b, x ≤ y := by
  rw [UnpackedFloat.le, compare_eq]
  cases rank? a <;> cases rank? b <;> simp [← compare_le_iff_le, Ordering.isLE_iff_ne_gt]

instance : Quantity.Ordered Float where
  Rank := ℤ ×ₗ ℤ ×ₗ ℤ
  order := inferInstance
  rank? x := rank? x.toModel.unpack
  lt_iff := decide_eq_true_iff.trans (lt_iff _ _)
  le_iff := decide_eq_true_iff.trans (le_iff _ _)

theorem exists_rank? {a : UnpackedFloat} (finite : a.isFinite = true) : ∃ x, rank? a = some x := by
  rcases a with _ | _ | _ | ⟨_ | _⟩
  case infinity | notANumber => cases finite
  all_goals exact ⟨_, rfl⟩

instance : Quantity.Ranked Float where
  isFinite_zero := by decide +kernel
  rank?_of_isFinite := exists_rank?

end Floating

/-- A mean that is not above the lower of the two thresholds is not above the higher one. -/
theorem Policy.Sound.growth_eq_hold {α : Type} [Quantity α] [Quantity.Ordered α] {p : Policy α}
    (sound : p.Sound) {mean : α} (unloaded : ¬ p.low < mean) : p.growth mean = .hold := by
  obtain ⟨_, low, high, _, ordered⟩ := sound.thresholds
  have natural : ∀ x : α, inUnitInterval x = true → (0.0 : α) ≤ x ∧ x ≤ (1.0 : α) := by
    intro x inside
    rwa [inUnitInterval, Bool.and_eq_true, decide_eq_true_eq, decide_eq_true_eq] at inside
  have low_le_high : p.low ≤ p.high := by
    rcases Quantity.Ordered.le_or_lt (natural _ low).1 (natural _ high).2 with upward | downward
    · exact upward
    · exact absurd downward ordered
  have below : ¬ p.high < mean :=
    fun above => unloaded (Quantity.Ordered.lt_of_le_of_lt low_le_high above)
  simp [growth, unloaded, below]

end ElasticPools
