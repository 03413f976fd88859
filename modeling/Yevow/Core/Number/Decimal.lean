import Yevow.Core.Number.Rounding

/-!
# Rounding away from zero

`value.toFixed(digits)` shows the nearest decimal with that many digits, and of two that are as
near the one farther from zero.
-/

namespace Decimal

/-- The nearest integer; halves go away from zero. -/
def nearestAway (q : ℚ) : ℤ := if q < 0 then -⌊-q + 1 / 2⌋ else ⌊q + 1 / 2⌋

@[simp] theorem nearestAway_intCast (n : ℤ) : nearestAway n = n := by
  have hhalf : ∀ m : ℤ, ⌊(m : ℚ) + 1 / 2⌋ = m := by
    intro m
    rw [Int.floor_eq_iff]
    constructor <;> linarith
  unfold nearestAway
  split_ifs with h
  · rw [← Int.cast_neg, hhalf, neg_neg]
  · exact hhalf n

end Decimal
