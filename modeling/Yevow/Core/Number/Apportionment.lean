import Mathlib.Algebra.BigOperators.Group.List.Basic
import Mathlib.Algebra.Order.BigOperators.Group.List
import Mathlib.Data.List.Nodup
import Mathlib.Data.List.Perm.Basic
import Mathlib.Tactic.Linarith
import Mathlib.Tactic.Ring

/-!
# Largest-remainder apportionment

A pool of indivisible units is divided in proportion to integer weights: every claimant
first gets the floor of the exact share, and the units left over go one each to the
claimants with the largest division remainders. The floors fall short of the pool by fewer
units than there are claimants, so one extra unit each is always enough.
-/

namespace Apportionment

variable {α : Type} (weight : α → ℤ) (pool total : ℤ)

/-- The exact share rounded down. -/
def share (x : α) : ℤ := weight x * pool / total

/-- What the rounding cuts off, in units of `1 / total`. -/
def remainder (x : α) : ℤ := weight x * pool % total

theorem share_nonneg {x : α} (hw : 0 ≤ weight x) (hp : 0 ≤ pool) (ht : 0 ≤ total) :
    0 ≤ share weight pool total x :=
  Int.ediv_nonneg (mul_nonneg hw hp) ht

/-- Shares and remainders together make up every claimant's exact due. -/
theorem sum_share_add_sum_remainder (xs : List α) :
    total * (xs.map (share weight pool total)).sum + (xs.map (remainder weight pool total)).sum =
      (xs.map weight).sum * pool := by
  induction xs with
  | nil => simp
  | cons x xs ih =>
    have hx : total * share weight pool total x + remainder weight pool total x =
        weight x * pool := Int.mul_ediv_add_emod _ _
    simp only [List.map_cons, List.sum_cons, mul_add, add_mul]
    linarith

private theorem sum_remainder_nonneg (ht : 0 < total) (xs : List α) :
    0 ≤ (xs.map (remainder weight pool total)).sum := by
  apply List.sum_nonneg
  intro r hr
  obtain ⟨x, -, rfl⟩ := List.mem_map.mp hr
  exact Int.emod_nonneg _ ht.ne'

private theorem sum_remainder_lt (ht : 0 < total) {xs : List α} (hxs : xs ≠ []) :
    (xs.map (remainder weight pool total)).sum < total * xs.length := by
  have hle : (xs.map (remainder weight pool total)).sum ≤ xs.length * (total - 1) := by
    have := List.sum_le_card_nsmul (xs.map (remainder weight pool total)) (total - 1) (by
      intro r hr
      obtain ⟨x, -, rfl⟩ := List.mem_map.mp hr
      have := Int.emod_lt_of_pos (weight x * pool) ht
      unfold remainder
      omega)
    simpa using this
  have hpos : (0 : ℤ) < xs.length := by exact_mod_cast List.length_pos_of_ne_nil hxs
  linarith [mul_comm total (xs.length : ℤ)]

variable {weight pool total}

/-- The floors never exceed the pool. -/
theorem sum_share_le (ht : 0 < total) {xs : List α} (hsum : (xs.map weight).sum = total) :
    (xs.map (share weight pool total)).sum ≤ pool := by
  have hdue := sum_share_add_sum_remainder weight pool total xs
  have hrem := sum_remainder_nonneg weight pool total ht xs
  rw [hsum] at hdue
  have : total * (xs.map (share weight pool total)).sum ≤ total * pool := by linarith
  exact le_of_mul_le_mul_left this ht

/-- The floors fall short of the pool by fewer units than there are claimants. -/
theorem pool_sub_sum_share_lt (ht : 0 < total) {xs : List α} (hxs : xs ≠ [])
    (hsum : (xs.map weight).sum = total) :
    pool - (xs.map (share weight pool total)).sum < xs.length := by
  have hdue := sum_share_add_sum_remainder weight pool total xs
  have hrem := sum_remainder_lt weight pool total ht hxs
  rw [hsum] at hdue
  have : total * (pool - (xs.map (share weight pool total)).sum) < total * xs.length := by
    linarith [mul_sub total pool (xs.map (share weight pool total)).sum]
  exact lt_of_mul_lt_mul_left this ht.le

/-! ## Handing out the units left over -/

/-- An allocation of the whole pool by largest remainders. -/
structure IsLargestRemainder [DecidableEq α] (weight : α → ℤ) (pool total : ℤ) (xs : List α)
    (alloc : α → ℤ) : Prop where
  /-- Everyone gets the floor of the exact share or one unit more. -/
  floor_or_succ : ∀ x ∈ xs, alloc x = share weight pool total x ∨
    alloc x = share weight pool total x + 1
  /-- The whole pool is handed out. -/
  sum_alloc : (xs.map alloc).sum = pool
  /-- As many claimants get an extra unit as the floors leave units over. -/
  count_extra : ((xs.filter fun x => alloc x = share weight pool total x + 1).length : ℤ) =
    pool - (xs.map (share weight pool total)).sum
  /-- The extra units go to the largest remainders. -/
  largest : ∀ x ∈ xs, ∀ y ∈ xs, alloc x = share weight pool total x + 1 →
    alloc y = share weight pool total y →
    remainder weight pool total y ≤ remainder weight pool total x

variable [DecidableEq α]

/-- The allocation that gives one extra unit to each of a list of claimants. -/
def withExtra (weight : α → ℤ) (pool total : ℤ) (extra : List α) (x : α) : ℤ :=
  share weight pool total x + if x ∈ extra then 1 else 0

/-- Exactly the chosen entries get one more than their share. -/
theorem withExtra_eq_succ {extra : List α} {x : α} :
    withExtra weight pool total extra x = share weight pool total x + 1 ↔ x ∈ extra := by
  unfold withExtra
  split_ifs with h <;> simp [h]

theorem withExtra_eq_share {extra : List α} {x : α} :
    withExtra weight pool total extra x = share weight pool total x ↔ x ∉ extra := by
  unfold withExtra
  split_ifs with h <;> simp [h]

private theorem sum_indicator (xs extra : List α) :
    (xs.map fun x => if x ∈ extra then (1 : ℤ) else 0).sum =
      (xs.filter fun x => x ∈ extra).length := by
  induction xs with
  | nil => simp
  | cons x xs ih =>
    by_cases h : x ∈ extra
    · simp [h, ih, add_comm]
    · simp [h, ih]

/-- Of a rearrangement of distinct claimants, a prefix selects as many as it is long. -/
theorem length_filter_mem_take {xs order : List α} (hp : order.Perm xs) (hn : xs.Nodup) (k : ℕ) :
    (xs.filter fun x => x ∈ order.take k).length = min k xs.length := by
  have hperm : (order.filter fun x => x ∈ order.take k).Perm
      (xs.filter fun x => x ∈ order.take k) := hp.filter _
  have hno : order.Nodup := hp.nodup_iff.mpr hn
  have htake : (order.filter fun x => x ∈ order.take k) = order.take k := by
    conv_lhs => rw [← List.take_append_drop k order]
    rw [List.filter_append, List.filter_eq_self.mpr (by simp), List.filter_eq_nil_iff.mpr,
      List.append_nil]
    intro x hx hmem
    have hd := List.disjoint_take_drop hno (le_refl k)
    exact hd (by simpa using hmem) hx
  rw [← hperm.length_eq, htake, List.length_take, hp.length_eq]

/-- Giving the units left over to the front of an order by decreasing remainder is
largest-remainder apportionment. -/
theorem isLargestRemainder_of_order {xs order : List α} (ht : 0 < total) (hxs : xs ≠ [])
    (hsum : (xs.map weight).sum = total) (hn : xs.Nodup) (hp : order.Perm xs)
    (hsorted : order.Pairwise fun x y =>
      remainder weight pool total y ≤ remainder weight pool total x) {k : ℕ}
    (hk : (k : ℤ) = pool - (xs.map (share weight pool total)).sum) :
    IsLargestRemainder weight pool total xs (withExtra weight pool total (order.take k)) := by
  have hlt : pool - (xs.map (share weight pool total)).sum < xs.length :=
    pool_sub_sum_share_lt ht hxs hsum
  have hcount : (xs.filter fun x => x ∈ order.take k).length = k := by
    rw [length_filter_mem_take hp hn, min_eq_left]
    omega
  refine ⟨fun x _ => ?_, ?_, ?_, ?_⟩
  · by_cases h : x ∈ order.take k
    · exact Or.inr (withExtra_eq_succ.mpr h)
    · exact Or.inl (withExtra_eq_share.mpr h)
  · have hsplit : (xs.map (withExtra weight pool total (order.take k))).sum =
        (xs.map (share weight pool total)).sum +
          (xs.map fun x => if x ∈ order.take k then (1 : ℤ) else 0).sum :=
      List.sum_map_add
    rw [hsplit, sum_indicator, hcount, hk]
    ring
  · simp only [withExtra_eq_succ]
    rw [hcount, hk]
  · intro x hx y hy hbumped hplain
    have hxt := withExtra_eq_succ.mp hbumped
    have hyt : y ∈ order.drop k := by
      have hmem : y ∈ order.take k ++ order.drop k := by
        rw [List.take_append_drop]
        exact hp.mem_iff.mpr hy
      exact (List.mem_append.mp hmem).resolve_left (withExtra_eq_share.mp hplain)
    have hcross := (List.pairwise_append.mp
      ((List.take_append_drop k order).symm ▸ hsorted)).2.2
    exact hcross x hxt y hyt

end Apportionment
