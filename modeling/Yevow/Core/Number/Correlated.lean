import Mathlib.Algebra.BigOperators.Ring.List
import Mathlib.Algebra.Order.BigOperators.Group.List
import Mathlib.Analysis.Real.Sqrt
import Mathlib.Tactic.Linarith
import Mathlib.Tactic.Ring

/-!
# Sums of correlated sizes

Sizes add up to the root of a quadratic form whose coefficients are correlations. Where the
product of two correlations with one item never exceeds the correlation between the two others,
a further item adds no more than its own size.
-/

namespace Correlated

section Field

variable {ι κ K : Type} [Field K]

/-- The quadratic form of sizes `h` under correlations `ρ`, over the items of a list. -/
def variance (ρ : ι → ι → K) (h : ι → K) (items : List ι) : K :=
  (items.map fun i => (items.map fun j => ρ i j * h i * h j).sum).sum

variable {ρ : ι → ι → K} {h : ι → K}

@[simp] theorem variance_nil : variance ρ h [] = 0 := rfl

/-- A further item adds its own square and twice its products with the others. -/
theorem variance_cons (hsymm : ∀ i j, ρ i j = ρ j i) (i : ι) (items : List ι) :
    variance ρ h (i :: items) =
      ρ i i * h i * h i + 2 * h i * (items.map fun j => ρ i j * h j).sum +
        variance ρ h items := by
  have hrow : (items.map fun j => ρ i j * h i * h j).sum =
      h i * (items.map fun j => ρ i j * h j).sum := by
    rw [← List.sum_map_mul_left]
    congr 1
    exact List.map_congr_left fun j _ => by ring
  have hcolumn : (items.map fun j => ρ j i * h j * h i).sum =
      h i * (items.map fun j => ρ i j * h j).sum := by
    rw [← List.sum_map_mul_left]
    congr 1
    exact List.map_congr_left fun j _ => by rw [hsymm j i]; ring
  simp only [variance, List.map_cons, List.sum_cons, List.sum_map_add, hrow, hcolumn]
  ring

/-- The order of the items does not matter. -/
theorem variance_perm {items items' : List ι} (hperm : items.Perm items') :
    variance ρ h items = variance ρ h items' := by
  have hrow : ∀ i, (items.map fun j => ρ i j * h i * h j).sum =
      (items'.map fun j => ρ i j * h i * h j).sum := fun i => (hperm.map _).sum_eq
  unfold variance
  simp only [hrow]
  exact (hperm.map _).sum_eq

/-- The variance of a mapped list. -/
theorem variance_map (f : κ → ι) (items : List κ) :
    variance ρ h (items.map f) =
      variance (fun i j => ρ (f i) (f j)) (fun i => h (f i)) items := by
  simp only [variance, List.map_map, Function.comp_def]

end Field

section Order

variable {ι K : Type} [Field K] [LinearOrder K] [IsStrictOrderedRing K]
  {ρ : ι → ι → K} {h h' : ι → K} {items items' : List ι}

/-- Correlations and sizes that are not negative give no negative variance. -/
theorem variance_nonneg (hρ : ∀ i j, 0 ≤ ρ i j) (hh : ∀ i, 0 ≤ h i) :
    0 ≤ variance ρ h items := by
  apply List.sum_nonneg
  simp only [List.mem_map]
  rintro _ ⟨i, -, rfl⟩
  apply List.sum_nonneg
  simp only [List.mem_map]
  rintro _ ⟨j, -, rfl⟩
  exact mul_nonneg (mul_nonneg (hρ i j) (hh i)) (hh j)

/-- Smaller sizes have a smaller variance. -/
theorem variance_mono (hρ : ∀ i j, 0 ≤ ρ i j) (hh : ∀ i, 0 ≤ h i) (hle : ∀ i, h i ≤ h' i) :
    variance ρ h items ≤ variance ρ h' items := by
  apply List.sum_le_sum
  intro i _
  apply List.sum_le_sum
  intro j _
  have hright : 0 ≤ h' i := (hh i).trans (hle i)
  exact mul_le_mul (mul_le_mul_of_nonneg_left (hle i) (hρ i j)) (hle j) (hh j)
    (mul_nonneg (hρ i j) hright)

/-- Fewer items have a smaller variance. -/
theorem variance_sublist (hρ : ∀ i j, 0 ≤ ρ i j) (hh : ∀ i, 0 ≤ h i)
    (hsub : items.Sublist items') : variance ρ h items ≤ variance ρ h items' := by
  have hterm : ∀ i j, 0 ≤ ρ i j * h i * h j := fun i j =>
    mul_nonneg (mul_nonneg (hρ i j) (hh i)) (hh j)
  have hrow : ∀ i, (items.map fun j => ρ i j * h i * h j).sum ≤
      (items'.map fun j => ρ i j * h i * h j).sum := by
    intro i
    apply (hsub.map _).sum_le_sum
    simp only [List.mem_map]
    rintro _ ⟨j, -, rfl⟩
    exact hterm i j
  calc variance ρ h items
      ≤ (items.map fun i => (items'.map fun j => ρ i j * h i * h j).sum).sum :=
        List.sum_le_sum fun i _ => hrow i
    _ ≤ variance ρ h items' := by
        apply (hsub.map _).sum_le_sum
        simp only [List.mem_map]
        rintro _ ⟨i, -, rfl⟩
        apply List.sum_nonneg
        simp only [List.mem_map]
        rintro _ ⟨j, -, rfl⟩
        exact hterm i j

/-- The weighted sum of an item's correlations stays below the root of the variance. -/
theorem sq_sum_le_variance (hh : ∀ i, 0 ≤ h i) {i : ι}
    (hρ : ∀ j k, ρ i j * ρ i k ≤ ρ j k) :
    (items.map fun j => ρ i j * h j).sum ^ 2 ≤ variance ρ h items := by
  rw [sq, ← List.sum_map_mul_right]
  apply List.sum_le_sum
  intro j _
  rw [← List.sum_map_mul_left]
  apply List.sum_le_sum
  intro k _
  calc ρ i j * h j * (ρ i k * h k) = ρ i j * ρ i k * (h j * h k) := by ring
    _ ≤ ρ j k * (h j * h k) := mul_le_mul_of_nonneg_right (hρ j k) (mul_nonneg (hh j) (hh k))
    _ = ρ j k * h j * h k := by ring

end Order

/-- A further item adds at most its own size. -/
theorem sqrt_variance_cons_le {ι : Type} {ρ : ι → ι → ℝ} {h : ι → ℝ}
    (hsymm : ∀ i j, ρ i j = ρ j i) (hself : ∀ i, ρ i i = 1) (hnonneg : ∀ i j, 0 ≤ ρ i j)
    (hρ : ∀ i j k, ρ i j * ρ i k ≤ ρ j k) (hh : ∀ i, 0 ≤ h i) (i : ι) (items : List ι) :
    √(variance ρ h (i :: items)) ≤ h i + √(variance ρ h items) := by
  have hsum : (items.map fun j => ρ i j * h j).sum ≤ √(variance ρ h items) :=
    (le_abs_self _).trans (Real.abs_le_sqrt (sq_sum_le_variance hh (hρ i)))
  have hsq : √(variance ρ h items) ^ 2 = variance ρ h items :=
    Real.sq_sqrt (variance_nonneg hnonneg hh)
  have hi := hh i
  rw [Real.sqrt_le_iff]
  constructor
  · exact add_nonneg hi (Real.sqrt_nonneg _)
  · rw [variance_cons hsymm, hself]
    calc 1 * h i * h i + 2 * h i * (items.map fun j => ρ i j * h j).sum + variance ρ h items
        ≤ 1 * h i * h i + 2 * h i * √(variance ρ h items) + √(variance ρ h items) ^ 2 := by
          rw [hsq]
          have := mul_le_mul_of_nonneg_left hsum (mul_nonneg zero_le_two hi)
          linarith
      _ = (h i + √(variance ρ h items)) ^ 2 := by ring

end Correlated
