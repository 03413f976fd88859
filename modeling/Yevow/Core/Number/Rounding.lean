import Mathlib.Algebra.Order.Field.Power
import Mathlib.Algebra.Order.Floor.Ring
import Mathlib.Data.Int.Log
import Mathlib.Data.Rat.Floor
import Mathlib.Tactic.FieldSimp
import Mathlib.Tactic.Linarith
import Mathlib.Tactic.Positivity

/-!
# Rounding to a fixed number of binary digits

A floating-point format with `p` significant digits represents the integer multiples of
a power of two whose quotient has at most `p` digits. Rounding is to the nearest such
number, ties to the even multiple. Integers and rationals are rounded separately: an
integer result never needs a fractional grid, a rational one may.
-/

namespace Rounding

/-- The nearest integer, ties to the even neighbour. -/
def nearestInt (q : ℚ) : ℤ :=
  if q - ⌊q⌋ < 1 / 2 then ⌊q⌋
  else if 1 / 2 < q - ⌊q⌋ then ⌊q⌋ + 1
  else if ⌊q⌋ % 2 = 0 then ⌊q⌋ else ⌊q⌋ + 1

@[simp] theorem nearestInt_intCast (n : ℤ) : nearestInt n = n := by
  simp [nearestInt]

/-- Rounding is one of the two neighbouring integers. -/
theorem nearestInt_eq_floor_or_succ (q : ℚ) :
    nearestInt q = ⌊q⌋ ∨ nearestInt q = ⌊q⌋ + 1 := by
  unfold nearestInt
  split_ifs <;> simp

/-- Rounding up happens only past a fractional part of one half. -/
theorem fract_of_nearestInt_eq_succ {q : ℚ} (h : nearestInt q = ⌊q⌋ + 1) :
    1 / 2 ≤ q - ⌊q⌋ := by
  unfold nearestInt at h
  split_ifs at h with h₁ h₂ h₃ <;> first | omega | linarith

/-- An integer upper bound survives rounding. -/
theorem nearestInt_le {q : ℚ} {n : ℤ} (h : q ≤ n) : nearestInt q ≤ n := by
  rcases nearestInt_eq_floor_or_succ q with he | he
  · rw [he]
    exact_mod_cast (Int.floor_le q).trans h
  · have hf := fract_of_nearestInt_eq_succ he
    have hlt : (⌊q⌋ : ℚ) < n := by linarith
    have : ⌊q⌋ < n := by exact_mod_cast hlt
    omega

/-- An integer lower bound survives rounding. -/
theorem le_nearestInt {q : ℚ} {n : ℤ} (h : (n : ℚ) ≤ q) : n ≤ nearestInt q := by
  have hfloor : n ≤ ⌊q⌋ := Int.le_floor.mpr h
  rcases nearestInt_eq_floor_or_succ q with he | he <;> omega

/-! ## Integers -/

/-- The spacing of the `p`-digit numbers around an integer. -/
def integerGrid (p : ℕ) (v : ℤ) : ℕ := 2 ^ (v.natAbs.log2 + 1 - p)

/-- An integer rounded to `p` significant binary digits. -/
def roundInteger (p : ℕ) (v : ℤ) : ℤ :=
  nearestInt ((v : ℚ) / integerGrid p v) * integerGrid p v

/-- An integer of at most `p` digits lies on the unit grid. -/
theorem integerGrid_of_lt {p : ℕ} (hp : 0 < p) {v : ℤ} (h : v.natAbs < 2 ^ p) :
    integerGrid p v = 1 := by
  have hdigits : v.natAbs.log2 + 1 ≤ p := by
    by_cases hz : v.natAbs = 0
    · rw [hz, Nat.log2_zero]
      omega
    · exact (Nat.log2_lt hz).mpr h
  simp [integerGrid, Nat.sub_eq_zero_of_le hdigits]

/-- An integer of at most `p` digits is represented exactly. -/
theorem roundInteger_of_lt {p : ℕ} (hp : 0 < p) {v : ℤ} (h : v.natAbs < 2 ^ p) :
    roundInteger p v = v := by
  simp [roundInteger, integerGrid_of_lt hp h]

/-- Rounding never turns a non-negative integer negative. -/
theorem roundInteger_nonneg (p : ℕ) {v : ℤ} (h : 0 ≤ v) : 0 ≤ roundInteger p v := by
  have hq : ((0 : ℤ) : ℚ) ≤ (v : ℚ) / integerGrid p v := by
    have hv : (0 : ℚ) ≤ v := by exact_mod_cast h
    simpa using div_nonneg hv (by positivity : (0 : ℚ) ≤ integerGrid p v)
  exact mul_nonneg (le_nearestInt hq) (by positivity)

/-- The grid around an integer of more than `p` digits starts at a power of two. -/
private theorem grid_mul_le {p : ℕ} (hp : 0 < p) {v : ℤ} (h : 2 ^ p ≤ v.natAbs) :
    2 ^ p ≤ 2 ^ (p - 1) * integerGrid p v ∧ 2 ^ (p - 1) * integerGrid p v ≤ v.natAbs := by
  have hz : v.natAbs ≠ 0 := by
    have : 0 < 2 ^ p := by positivity
    omega
  have hlog : p ≤ v.natAbs.log2 := (Nat.le_log2 hz).mpr h
  have hexp : 2 ^ (p - 1) * integerGrid p v = 2 ^ v.natAbs.log2 := by
    rw [integerGrid, ← pow_add]
    congr 1
    omega
  rw [hexp]
  exact ⟨Nat.pow_le_pow_right (by decide) hlog, (Nat.le_log2 hz).mp le_rfl⟩

/-- An integer on its own grid is represented exactly. -/
theorem roundInteger_of_dvd {p : ℕ} {v : ℤ} (h : (integerGrid p v : ℤ) ∣ v) :
    roundInteger p v = v := by
  obtain ⟨k, hk⟩ := h
  have hgrid : (integerGrid p v : ℚ) ≠ 0 := by
    have : 0 < integerGrid p v := by
      unfold integerGrid
      positivity
    exact_mod_cast this.ne'
  have hquotient : (v : ℚ) / integerGrid p v = k := by
    rw [div_eq_iff hgrid]
    exact_mod_cast hk.trans (mul_comm _ _)
  rw [roundInteger, hquotient, nearestInt_intCast, mul_comm]
  exact hk.symm

/-- What has more than `p` digits is rounded to an even number. -/
theorem even_roundInteger {p : ℕ} {v : ℤ} (h : 2 ^ p ≤ v.natAbs) : Even (roundInteger p v) := by
  have hz : v.natAbs ≠ 0 := by
    have : 0 < 2 ^ p := by positivity
    omega
  have hlog : p ≤ v.natAbs.log2 := (Nat.le_log2 hz).mpr h
  obtain ⟨k, hk⟩ : ∃ k, v.natAbs.log2 + 1 - p = k + 1 := ⟨v.natAbs.log2 - p, by omega⟩
  rw [roundInteger, integerGrid, hk, pow_succ]
  push_cast
  exact ((even_two).mul_left _).mul_left _

/-- An integer of more than `p` digits never rounds to one of at most `p`. -/
theorem le_roundInteger {p : ℕ} (hp : 0 < p) {v : ℤ} (h : 2 ^ p ≤ v) :
    2 ^ p ≤ roundInteger p v := by
  have hnat : 2 ^ p ≤ v.natAbs := by
    zify
    exact h.trans (le_abs_self v)
  have hpos : 0 ≤ v := le_trans (by positivity) h
  obtain ⟨hlow, hhigh⟩ := grid_mul_le hp hnat
  have hgrid : (0 : ℚ) < integerGrid p v := by
    have : 0 < integerGrid p v := by
      unfold integerGrid
      positivity
    exact_mod_cast this
  have hq : ((2 ^ (p - 1) : ℤ) : ℚ) ≤ (v : ℚ) / integerGrid p v := by
    rw [le_div_iff₀ hgrid]
    zify at hhigh
    rw [abs_of_nonneg hpos] at hhigh
    exact_mod_cast hhigh
  calc (2 : ℤ) ^ p ≤ 2 ^ (p - 1) * integerGrid p v := by exact_mod_cast hlow
    _ ≤ roundInteger p v := mul_le_mul_of_nonneg_right (le_nearestInt hq) (by positivity)

theorem roundInteger_le_neg {p : ℕ} (hp : 0 < p) {v : ℤ} (h : v ≤ -2 ^ p) :
    roundInteger p v ≤ -2 ^ p := by
  have hnat : 2 ^ p ≤ v.natAbs := by
    zify
    exact (by linarith : (2 : ℤ) ^ p ≤ -v).trans (neg_le_abs v)
  have hneg : v ≤ 0 := h.trans (by simp)
  obtain ⟨hlow, hhigh⟩ := grid_mul_le hp hnat
  have hgrid : (0 : ℚ) < integerGrid p v := by
    have : 0 < integerGrid p v := by
      unfold integerGrid
      positivity
    exact_mod_cast this
  have hq : (v : ℚ) / integerGrid p v ≤ ((-2 ^ (p - 1) : ℤ) : ℚ) := by
    rw [div_le_iff₀ hgrid]
    zify at hhigh
    rw [abs_of_nonpos hneg] at hhigh
    have : v ≤ -2 ^ (p - 1) * integerGrid p v := by linarith
    exact_mod_cast this
  calc roundInteger p v ≤ -2 ^ (p - 1) * integerGrid p v :=
        mul_le_mul_of_nonneg_right (nearestInt_le hq) (by positivity)
    _ ≤ -2 ^ p := by
      have : (2 : ℤ) ^ p ≤ 2 ^ (p - 1) * integerGrid p v := by exact_mod_cast hlow
      linarith

/-- An integer below `2 ^ p` in size that is a rounded value was not rounded. -/
theorem roundInteger_eq_of_lt {p : ℕ} (hp : 0 < p) {v : ℤ} (h : |roundInteger p v| < 2 ^ p) :
    roundInteger p v = v := by
  rw [abs_lt] at h
  apply roundInteger_of_lt hp
  by_contra hlarge
  have hsize : (2 : ℤ) ^ p ≤ |v| := by
    zify at hlarge
    linarith
  rcases le_abs'.mp hsize with hneg | hpos
  · linarith [roundInteger_le_neg hp hneg]
  · linarith [le_roundInteger hp hpos]

/-- Rounding never falls below an integer of at most `p` digits. -/
theorem le_roundInteger_of_lt {p : ℕ} (hp : 0 < p) {n v : ℤ} (hn : |n| < 2 ^ p) (h : n ≤ v) :
    n ≤ roundInteger p v := by
  rw [abs_lt] at hn
  by_cases hsmall : v.natAbs < 2 ^ p
  · rw [roundInteger_of_lt hp hsmall]
    exact h
  · have hsize : (2 : ℤ) ^ p ≤ |v| := by
      zify at hsmall
      linarith
    rcases le_abs'.mp hsize with hneg | hpos
    · linarith
    · linarith [le_roundInteger hp hpos]

/-! ## Rationals -/

/-- The exponent of the spacing of the `p`-digit numbers around a rational, never below
the format's smallest exponent. -/
def gridExponent (p : ℕ) (least : ℤ) (q : ℚ) : ℤ := max (Int.log 2 |q| + 1 - p) least

/-- A rational rounded to `p` significant binary digits. -/
def roundRational (p : ℕ) (least : ℤ) (q : ℚ) : ℚ :=
  nearestInt (q / 2 ^ gridExponent p least q) * 2 ^ gridExponent p least q

/-- Rounding never turns a non-negative rational negative. -/
theorem roundRational_nonneg (p : ℕ) (least : ℤ) {q : ℚ} (h : 0 ≤ q) :
    0 ≤ roundRational p least q := by
  have hq : ((0 : ℤ) : ℚ) ≤ q / 2 ^ gridExponent p least q := by
    simpa using div_nonneg h (by positivity : (0 : ℚ) ≤ 2 ^ gridExponent p least q)
  have hn : (0 : ℚ) ≤ nearestInt (q / 2 ^ gridExponent p least q) := by
    exact_mod_cast le_nearestInt hq
  exact mul_nonneg hn (by positivity)

/-- Rounding never turns a rational that is not positive positive. -/
theorem roundRational_nonpos (p : ℕ) (least : ℤ) {q : ℚ} (h : q ≤ 0) :
    roundRational p least q ≤ 0 := by
  have hq : q / 2 ^ gridExponent p least q ≤ ((0 : ℤ) : ℚ) := by
    simpa using div_nonpos_of_nonpos_of_nonneg h
      (by positivity : (0 : ℚ) ≤ 2 ^ gridExponent p least q)
  have hn : (nearestInt (q / 2 ^ gridExponent p least q) : ℚ) ≤ 0 := by
    exact_mod_cast nearestInt_le hq
  exact mul_nonpos_of_nonpos_of_nonneg hn (by positivity)

/-- Rounding never falls below a power of two of the format. -/
theorem zpow_le_roundRational {p : ℕ} {least e : ℤ} (hp : 0 < p) (hleast : least ≤ e) {q : ℚ}
    (h : (2 : ℚ) ^ e ≤ q) : (2 : ℚ) ^ e ≤ roundRational p least q := by
  have hq : 0 < q := (zpow_pos (by norm_num) e).trans_le h
  have habs : |q| = q := abs_of_pos hq
  have hlow : (2 : ℚ) ^ Int.log 2 |q| ≤ q := by
    have := Int.zpow_log_le_self (b := 2) (by decide) hq
    rw [habs]
    exact_mod_cast this
  have he : e ≤ Int.log 2 |q| := by
    rw [habs]
    exact (Int.zpow_le_iff_le_log (by decide) hq).mp (by exact_mod_cast h)
  obtain ⟨k, hk⟩ : ∃ k : ℕ, Int.log 2 |q| = gridExponent p least q + k := by
    obtain ⟨k, hk⟩ := Int.eq_ofNat_of_zero_le
      (show 0 ≤ Int.log 2 |q| - gridExponent p least q by
        unfold gridExponent
        omega)
    exact ⟨k, by omega⟩
  have hgrid : (0 : ℚ) < 2 ^ gridExponent p least q := zpow_pos (by norm_num) _
  have hpower : (2 : ℚ) ^ Int.log 2 |q| = ((2 ^ k : ℤ) : ℚ) * 2 ^ gridExponent p least q := by
    rw [hk, zpow_add₀ (by norm_num), zpow_natCast, mul_comm]
    norm_num
  have hnearest : (2 ^ k : ℤ) ≤ nearestInt (q / 2 ^ gridExponent p least q) := by
    apply le_nearestInt
    rw [le_div_iff₀ hgrid, ← hpower]
    exact hlow
  calc (2 : ℚ) ^ e ≤ 2 ^ Int.log 2 |q| := zpow_le_zpow_right₀ (by norm_num) he
    _ = ((2 ^ k : ℤ) : ℚ) * 2 ^ gridExponent p least q := hpower
    _ ≤ roundRational p least q :=
      mul_le_mul_of_nonneg_right (by exact_mod_cast hnearest) hgrid.le

/-- Below `2 ^ p` the grid refines the integers. -/
theorem gridExponent_nonpos {p : ℕ} {least : ℤ} (hl : least ≤ 0) {q : ℚ} {n : ℕ}
    (hq : 0 < q) (hqn : q ≤ n) (hn : n < 2 ^ p) : gridExponent p least q ≤ 0 := by
  have hlog : Int.log 2 |q| < p := by
    have hlt : |q| < (2 : ℚ) ^ (p : ℤ) := by
      rw [abs_of_pos hq, zpow_natCast]
      exact hqn.trans_lt (by exact_mod_cast hn)
    exact (Int.lt_zpow_iff_log_lt Nat.one_lt_two (abs_pos.mpr hq.ne')).mp (by exact_mod_cast hlt)
  exact max_le (by omega) hl

/-- Rounding a rational never crosses an integer of at most `p` digits. -/
theorem roundRational_le {p : ℕ} {least : ℤ} (hl : least ≤ 0) {q : ℚ} {n : ℕ}
    (hq : 0 ≤ q) (hqn : q ≤ n) (hn : n < 2 ^ p) : roundRational p least q ≤ n := by
  rcases hq.eq_or_lt with rfl | hpos
  · have hzero : roundRational p least 0 = 0 := by
      have := nearestInt_intCast 0
      simp only [Int.cast_zero] at this
      simp [roundRational, this]
    rw [hzero]
    positivity
  · obtain ⟨k, hk⟩ := Int.exists_eq_neg_ofNat (gridExponent_nonpos hl hpos hqn hn)
    have hgrid : ((2 : ℚ) ^ gridExponent p least q) = 1 / 2 ^ k := by
      rw [hk, zpow_neg, zpow_natCast, one_div]
    have hbound : q / 2 ^ gridExponent p least q ≤ ((n * 2 ^ k : ℕ) : ℤ) := by
      rw [hgrid, div_div_eq_mul_div, div_one]
      push_cast
      exact mul_le_mul_of_nonneg_right hqn (by positivity)
    have hn' : (nearestInt (q / 2 ^ gridExponent p least q) : ℚ) ≤ n * 2 ^ k := by
      exact_mod_cast nearestInt_le hbound
    calc roundRational p least q
        ≤ (n * 2 ^ k) * (1 / 2 ^ k) := by
          rw [roundRational, hgrid] at *
          exact mul_le_mul_of_nonneg_right hn' (by positivity)
      _ = n := by field_simp

/-- A natural number of at most `p` digits, or the first of more, is represented exactly. -/
theorem roundRational_natCast {p : ℕ} {least : ℤ} (hp : 0 < p) (hl : least ≤ 0) {n : ℕ}
    (hn : n ≤ 2 ^ p) : roundRational p least n = n := by
  rcases hn.eq_or_lt with rfl | hlt
  · have hexp : gridExponent p least ((2 ^ p : ℕ) : ℚ) = 1 := by
      have hlog : Int.log 2 |((2 ^ p : ℕ) : ℚ)| = p := by
        rw [abs_of_nonneg (by positivity), Int.log_natCast, Nat.log_pow (by decide)]
      rw [gridExponent, hlog]
      omega
    have hhalf : ((2 ^ p : ℕ) : ℚ) / 2 ^ (1 : ℤ) = ((2 ^ (p - 1) : ℤ) : ℚ) := by
      obtain ⟨k, rfl⟩ := Nat.exists_eq_add_of_lt hp
      push_cast
      rw [show 0 + k + 1 = k + 1 by omega, pow_succ, zero_add]
      field_simp
    rw [roundRational, hexp, hhalf, nearestInt_intCast, ← hhalf]
    field_simp
  · rcases Nat.eq_zero_or_pos n with rfl | hpos
    · have := nearestInt_intCast 0
      simp only [Int.cast_zero] at this
      simp [roundRational, this]
    · have hq : (0 : ℚ) < n := by exact_mod_cast hpos
      obtain ⟨k, hk⟩ := Int.exists_eq_neg_ofNat (gridExponent_nonpos hl hq le_rfl hlt)
      have hscale : (n : ℚ) / 2 ^ gridExponent p least n = ((n * 2 ^ k : ℕ) : ℤ) := by
        rw [hk, zpow_neg, zpow_natCast, div_inv_eq_mul]
        push_cast
        rfl
      rw [roundRational, hscale, nearestInt_intCast, ← hscale]
      field_simp

end Rounding
