import Yevow.Core.Number.Extended

/-!
# Single precision

A binary32 value has 24 significant digits. Every natural number up to `2 ^ 24` is one, and a
count kept in binary32 goes no further.
-/

namespace Number

/-- The value a binary32 cell keeps. Past the largest finite value this is an infinity. -/
def fround : Number → Number
  | finite a =>
    let rounded := Rounding.roundRational 24 (-149) a
    if |rounded| < 2 ^ 128 then finite rounded else infinite (decide (rounded < 0))
  | infinite negative => infinite negative
  | nan => nan

/-- A count that is kept exactly. -/
theorem fround_natCast {n : ℕ} (h : n ≤ 2 ^ 24) : fround (finite n) = finite n := by
  have hexact : Rounding.roundRational 24 (-149) (n : ℚ) = n :=
    Rounding.roundRational_natCast (by decide) (by decide) h
  have hsmall : |(n : ℚ)| < 2 ^ 128 := by
    have hn : (n : ℚ) ≤ 2 ^ 24 := by exact_mod_cast h
    rw [abs_of_nonneg (by positivity)]
    linarith
  simp only [fround, hexact, if_pos hsmall]

/-- The next count, exact in binary64. -/
theorem add_one_natCast {n : ℕ} (h : n < 2 ^ 53) :
    add (Rounding.roundRational 53 (-1074)) (finite n) (finite 1) = finite (n + 1) := by
  have hexact : Rounding.roundRational 53 (-1074) ((n + 1 : ℕ) : ℚ) = ((n + 1 : ℕ) : ℚ) :=
    Rounding.roundRational_natCast (by decide) (by decide) h
  rw [Nat.cast_add_one] at hexact
  rw [add, hexact]

end Number
