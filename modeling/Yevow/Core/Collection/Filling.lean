import Mathlib.Algebra.Order.BigOperators.Group.List
import Mathlib.Algebra.Order.Group.Basic
import Mathlib.Tactic.Abel

/-!
# Filling a target from a list

Items are taken in order, each as far as it goes, until a target is reached. What is taken and
what is left make up the target, and the items taken from are a beginning of the list.
-/

namespace Filling

variable {α K : Type} [AddCommGroup K] [LinearOrder K] (size : α → K)

/-- The parts taken and what is left of the target. -/
def fill : K → List α → List (α × K) × K
  | remaining, [] => ([], remaining)
  | remaining, item :: items =>
    if remaining ≤ 0 then ([], remaining)
    else
      let taken := min remaining (size item)
      let rest := fill (remaining - taken) items
      ((item, taken) :: rest.1, rest.2)

variable {size} {remaining : K} {items : List α}

/-- The first item takes what it can of a positive remainder. -/
theorem fill_cons_of_pos {item : α} (h : 0 < remaining) :
    fill size remaining (item :: items) =
      ((item, min remaining (size item)) ::
          (fill size (remaining - min remaining (size item)) items).1,
        (fill size (remaining - min remaining (size item)) items).2) := by
  rw [fill, if_neg h.not_ge]

/-- Nothing is filled from nothing. -/
theorem fill_of_nonpos (h : remaining ≤ 0) : fill size remaining items = ([], remaining) := by
  cases items with
  | nil => rfl
  | cons item items => rw [fill, if_pos h]

/-- The parts and the rest add up to what was to be filled. -/
theorem sum_fill : ((fill size remaining items).1.map Prod.snd).sum =
    remaining - (fill size remaining items).2 := by
  induction items generalizing remaining with
  | nil => simp [fill]
  | cons item items ih =>
    by_cases h : remaining ≤ 0
    · simp [fill_of_nonpos h]
    · rw [fill_cons_of_pos (not_le.mp h)]
      simp only [List.map_cons, List.sum_cons, ih]
      abel

/-- Every part that is filled is positive. -/
theorem pos_of_mem_fill (hsize : ∀ item ∈ items, 0 < size item) {part : α × K}
    (hpart : part ∈ (fill size remaining items).1) : 0 < part.2 := by
  induction items generalizing remaining with
  | nil => simp [fill] at hpart
  | cons item items ih =>
    by_cases h : remaining ≤ 0
    · simp [fill_of_nonpos h] at hpart
    · rw [fill_cons_of_pos (not_le.mp h)] at hpart
      rcases List.mem_cons.mp hpart with rfl | hrest
      · exact lt_min (not_le.mp h) (hsize item List.mem_cons_self)
      · exact ih (fun other hother => hsize other (List.mem_cons_of_mem _ hother)) hrest

/-- The items are filled in order from the first. -/
theorem fst_fill_isBeginning : (fill size remaining items).1.map Prod.fst <+: items := by
  induction items generalizing remaining with
  | nil => simp [fill]
  | cons item items ih =>
    by_cases h : remaining ≤ 0
    · simp [fill_of_nonpos h]
    · rw [fill_cons_of_pos (not_le.mp h), List.map_cons]
      exact (List.prefix_cons_inj item).mpr ih

/-- No more is filled than there is. -/
theorem fill_rest_nonneg [IsOrderedAddMonoid K] (h : 0 ≤ remaining) :
    0 ≤ (fill size remaining items).2 := by
  induction items generalizing remaining with
  | nil => exact h
  | cons item items ih =>
    by_cases hle : remaining ≤ 0
    · rw [fill_of_nonpos hle]
      exact h
    · rw [fill_cons_of_pos (not_le.mp hle)]
      exact ih (sub_nonneg.mpr (min_le_left _ _))

end Filling
