import Mathlib.Algebra.BigOperators.Group.List.Basic
import Mathlib.Algebra.Order.Field.Basic
import Mathlib.Data.List.Induction
import Mathlib.Data.Nat.Cast.Order.Ring
import Mathlib.Tactic.FieldSimp
import Mathlib.Tactic.Ring

/-!
# Mean and variance of a sample

One pass over a sample keeps its mean and the sum of the squared distances from it: each value
moves the mean by a part of its distance, and adds the product of its distances from the mean
before and after.
-/

namespace SampleMoments

variable {N : Type} [Field N]

/-- The mean of the values; zero where there is none. -/
def mean (values : List N) : N := values.sum / values.length

/-- The squared distances of the values from their mean. -/
def deviation (values : List N) : N := (values.map fun value => (value - mean values) ^ 2).sum

/-- The variance of a sample; zero where it has less than two values. -/
def variance (values : List N) : N :=
  if 1 < values.length then deviation values / (values.length - 1 : ℕ) else 0

/-- A further value of the sample, after a number of earlier ones. -/
def update (moments : N × N) (value : N) (earlier : ℕ) : N × N :=
  let delta := value - moments.1
  let next := moments.1 + delta / (earlier + 1)
  (next, moments.2 + delta * (value - next))

/-- One pass over the values. -/
def pass (values : List N) : N × N :=
  values.zipIdx.foldl (fun moments entry => update moments entry.1 entry.2) (0, 0)

/-- The squared distances from any center. -/
theorem sum_sq_sub (values : List N) (center : N) :
    (values.map fun value => (value - center) ^ 2).sum =
      (values.map fun value => value ^ 2).sum - 2 * center * values.sum +
        values.length * center ^ 2 := by
  induction values with
  | nil => simp
  | cons value values ih =>
    simp only [List.map_cons, List.sum_cons, List.length_cons, ih, Nat.cast_add, Nat.cast_one]
    ring

variable [CharZero N]

/-- The mean times the length is the sum. -/
theorem length_mul_mean (values : List N) : values.length * mean values = values.sum := by
  cases values with
  | nil => simp
  | cons value values =>
    rw [mean, mul_div_cancel₀ _ (Nat.cast_ne_zero.mpr (Nat.succ_ne_zero _))]

/-- A further value moves the mean by its share. -/
theorem mean_append_singleton (values : List N) (value : N) :
    mean (values ++ [value]) = mean values + (value - mean values) / (values.length + 1) := by
  have hcount : (values.length + 1 : N) ≠ 0 := Nat.cast_add_one_ne_zero _
  have hmean := length_mul_mean values
  rw [mean, List.sum_append, List.sum_singleton, List.length_append, List.length_singleton,
    Nat.cast_add, Nat.cast_one, ← hmean]
  field_simp
  ring

/-- A further value adds to the squared deviations. -/
theorem deviation_append_singleton (values : List N) (value : N) :
    deviation (values ++ [value]) =
      deviation values +
        (value - mean values) * (value - mean (values ++ [value])) := by
  have hcount : (values.length + 1 : N) ≠ 0 := Nat.cast_add_one_ne_zero _
  have hmean := length_mul_mean values
  unfold deviation
  rw [List.map_append, List.sum_append, List.map_singleton, List.sum_singleton, sum_sq_sub,
    sum_sq_sub, ← hmean, mean_append_singleton]
  field_simp
  ring

/-- One pass finds the mean and the squared distances from it. -/
theorem pass_eq (values : List N) : pass values = (mean values, deviation values) := by
  induction values using List.reverseRecOn with
  | nil => simp [pass, mean, deviation]
  | append_singleton values value ih =>
    have hlast : pass (values ++ [value]) = update (pass values) value values.length := by
      rw [pass, List.zipIdx_append, List.foldl_append]
      simp [pass]
    rw [hlast, ih, deviation_append_singleton, mean_append_singleton]
    rfl

end SampleMoments
