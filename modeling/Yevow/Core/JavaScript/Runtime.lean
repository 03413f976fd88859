import Mathlib.Data.String.Basic
import Yevow.Core.Number.Arithmetic

/-!
# What a program takes from its runtime

Number arithmetic, date parsing, locale-aware string comparison and numeric conversion of
text differ between hosts or are too large to restate. A program is modelled over an
arbitrary runtime; the comparison comes with the consistency that sorting relies on.
-/

namespace JavaScript

/-- Locale-aware comparison: a consistent ordering of strings by sign. -/
structure Collation where
  compare : String → String → ℤ
  total : ∀ a b, compare a b ≤ 0 ∨ compare b a ≤ 0
  trans : ∀ a b c, compare a b ≤ 0 → compare b c ≤ 0 → compare a c ≤ 0

/-- The host services a program calls. -/
structure Runtime where
  arithmetic : Arithmetic
  /-- `Date.parse`: milliseconds since the epoch, absent where the call gives NaN. -/
  dateParse : String → Option ℤ
  /-- `String.prototype.localeCompare`. -/
  localeCompare : Collation
  /-- `Number(text)`. -/
  toNumber : String → Number

/-- The same host with another number arithmetic. -/
def Runtime.withArithmetic (js : Runtime) (A : Arithmetic) : Runtime := { js with arithmetic := A }

/-- What a function hands back in place of its object argument: the same object, or a
freshly allocated one. Only the first compares `===` with the argument. -/
inductive Returned (α : Type)
  | same
  | fresh (value : α)

/-- The value of a returned object. -/
def Returned.value {α : Type} (argument : α) : Returned α → α
  | .same => argument
  | .fresh v => v

@[simp] theorem Returned.value_same {α : Type} (a : α) : Returned.same.value a = a := rfl
@[simp] theorem Returned.value_fresh {α : Type} (a v : α) :
    (Returned.fresh v).value a = v := rfl

/-- Comparison by code points, the ordering of the C locale. -/
def codePointCollation : Collation where
  compare a b := if a < b then -1 else if b < a then 1 else 0
  total a b := by
    by_cases h₁ : a < b
    · simp [h₁]
    · by_cases h₂ : b < a
      · exact Or.inr (by simp [h₂])
      · simp [h₁, h₂]
  trans a b c := by
    have hle : ∀ x y : String,
        (if x < y then (-1 : ℤ) else if y < x then 1 else 0) ≤ 0 ↔ x ≤ y := by
      intro x y
      rcases lt_trichotomy x y with h | h | h
      · simp [h, h.le]
      · simp [h]
      · simp [h, h.not_gt, h.not_ge]
    intro hab hbc
    rw [hle] at *
    exact hab.trans hbc

end JavaScript
