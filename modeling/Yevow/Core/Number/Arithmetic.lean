import Yevow.Core.Number.Rounding

/-!
# The arithmetic of a `number` type

A program that stores amounts in floating-point numbers computes each sum exactly and then
rounds it to a representable value. `Arithmetic` names that rounding, for integer results
and for fractional ones, together with the facts every model of it has to satisfy. Two
models matter: `exact`, where nothing is ever rounded, and `double`, the binary64 format.
-/

/-- How exact results are turned into stored numbers. -/
structure Arithmetic where
  /-- The stored value of an exact integer result. -/
  integer : ℤ → ℤ
  /-- The stored value of an exact fractional result. -/
  fraction : ℚ → ℚ
  /-- The integers the program accepts as amounts. -/
  isSafeInteger : ℤ → Bool
  integer_of_safe : ∀ {v : ℤ}, isSafeInteger v = true → integer v = v
  /-- An accepted result was stored as it is. -/
  integer_eq_of_safe : ∀ {v : ℤ}, isSafeInteger (integer v) = true → integer v = v
  /-- Rounding does not cross an accepted amount. -/
  le_integer : ∀ {n v : ℤ}, isSafeInteger n = true → n ≤ v → n ≤ integer v
  integer_nonneg : ∀ {v : ℤ}, 0 ≤ v → 0 ≤ integer v
  safe_of_abs_le : ∀ {v : ℤ}, |v| ≤ 2 ^ 53 - 1 → isSafeInteger v = true
  fraction_nonneg : ∀ {q : ℚ}, 0 ≤ q → 0 ≤ fraction q
  fraction_le : ∀ {q : ℚ} {n : ℕ}, 0 ≤ q → q ≤ n → n < 2 ^ 53 → fraction q ≤ n

namespace Arithmetic

/-- Integer results are stored as they are. -/
def Exact (A : Arithmetic) : Prop := ∀ v, A.integer v = v

/-- An integer no larger than an accepted one is accepted. -/
def Gapless (A : Arithmetic) : Prop :=
  ∀ {v w : ℤ}, |v| ≤ |w| → A.isSafeInteger w = true → A.isSafeInteger v = true

/-- The largest integer up to which every integer has its own representation. -/
def maxSafeInteger : ℤ := 2 ^ 53 - 1

/-- Unrounded arithmetic on unbounded integers and rationals. -/
def exact : Arithmetic where
  integer v := v
  fraction q := q
  isSafeInteger _ := true
  integer_of_safe _ := rfl
  integer_eq_of_safe _ := rfl
  le_integer _ h := h
  integer_nonneg h := h
  safe_of_abs_le _ := rfl
  fraction_nonneg h := h
  fraction_le _ h _ := h

theorem exact_exact : exact.Exact := fun _ => rfl

/-- IEEE 754 binary64: 53 significant digits, smallest exponent `-1074`. -/
def double : Arithmetic where
  integer := Rounding.roundInteger 53
  fraction := Rounding.roundRational 53 (-1074)
  isSafeInteger v := decide (|v| ≤ maxSafeInteger)
  integer_of_safe {v} h := by
    have hv : |v| ≤ maxSafeInteger := of_decide_eq_true h
    apply Rounding.roundInteger_of_lt (by decide)
    rw [abs_le, maxSafeInteger] at hv
    omega
  integer_eq_of_safe {v} h := by
    have hv : |Rounding.roundInteger 53 v| ≤ maxSafeInteger := of_decide_eq_true h
    apply Rounding.roundInteger_eq_of_lt (by decide)
    rw [maxSafeInteger] at hv
    linarith
  le_integer {n v} hn h := by
    have hn' : |n| ≤ maxSafeInteger := of_decide_eq_true hn
    apply Rounding.le_roundInteger_of_lt (by decide) _ h
    rw [maxSafeInteger] at hn'
    linarith
  integer_nonneg h := Rounding.roundInteger_nonneg 53 h
  safe_of_abs_le h := decide_eq_true h
  fraction_nonneg h := Rounding.roundRational_nonneg 53 (-1074) h
  fraction_le h hn hb := Rounding.roundRational_le (by decide) h hn hb

/-- Binary64 fractions with integers of any size, of which the safe ones are accepted. -/
def unbounded : Arithmetic where
  integer v := v
  fraction := Rounding.roundRational 53 (-1074)
  isSafeInteger v := decide (|v| ≤ maxSafeInteger)
  integer_of_safe _ := rfl
  integer_eq_of_safe _ := rfl
  le_integer _ h := h
  integer_nonneg h := h
  safe_of_abs_le h := decide_eq_true h
  fraction_nonneg h := Rounding.roundRational_nonneg 53 (-1074) h
  fraction_le h hn hb := Rounding.roundRational_le (by decide) h hn hb

theorem unbounded_exact : unbounded.Exact := fun _ => rfl

/-- Doubles have no gaps among the safe integers. -/
theorem gapless_double : double.Gapless := by
  intro v w hle hw
  exact decide_eq_true (hle.trans (of_decide_eq_true hw))

variable (A : Arithmetic)

/-- Non-negative amounts within the safe range are accepted. -/
theorem safe_of_le {v : ℤ} (h₀ : 0 ≤ v) (h : v ≤ maxSafeInteger) : A.isSafeInteger v = true :=
  A.safe_of_abs_le (by rwa [abs_of_nonneg h₀])

/-- Non-negative sums within the safe range are stored exactly. -/
theorem integer_of_le {v : ℤ} (h₀ : 0 ≤ v) (h : v ≤ maxSafeInteger) : A.integer v = v :=
  A.integer_of_safe (A.safe_of_le h₀ h)

@[simp] theorem integer_zero : A.integer 0 = 0 := A.integer_of_le le_rfl (by decide)

@[simp] theorem fraction_zero : A.fraction 0 = 0 := by
  have hle : A.fraction 0 ≤ (0 : ℕ) := A.fraction_le le_rfl (by simp) (by norm_num)
  exact le_antisymm (by simpa using hle) (A.fraction_nonneg le_rfl)

/-- Round half up, as `Math.round` does. -/
def mathRound (q : ℚ) : ℤ := ⌊q + 1 / 2⌋

/-- Rounding keeps a sign. -/
theorem mathRound_nonneg {q : ℚ} (h : 0 ≤ q) : 0 ≤ mathRound q :=
  Int.floor_nonneg.mpr (by linarith)

theorem mathRound_le {q : ℚ} {n : ℕ} (h : q ≤ n) : mathRound q ≤ n := by
  have hlt : q + 1 / 2 < ((n : ℤ) + 1 : ℤ) := by
    push_cast
    linarith
  have := Int.floor_lt.mpr hlt
  unfold mathRound
  omega

end Arithmetic

/-- A value of the `number` type where it is not known to be an integer. -/
inductive Number
  | finite (value : ℚ)
  | infinite (negative : Bool)
  | nan
  deriving DecidableEq
