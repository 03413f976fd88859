import Mathlib.Algebra.BigOperators.Group.Finset.Piecewise
import Mathlib.Data.Finset.Sort
import Yevow.Core.Collection.Rows
import Yevow.Core.Collection.Treap

/-!
# Collections with a given support

When the keys of a collection are the elements of a finite set, what the collection lists is
determined by the set: rows add up to a sum over it, and an ordered tree lists it sorted.
-/

/-- A sum over a list, one key of its elements after the other. -/
theorem List.sum_map_eq_sum_filter {α κ M : Type} [DecidableEq κ] [AddCommMonoid M] (key : α → κ)
    (f : α → M) {s : Finset κ} {xs : List α} (h : ∀ x ∈ xs, key x ∈ s) :
    (xs.map f).sum = ∑ k ∈ s, ((xs.filter (key · = k)).map f).sum := by
  induction xs with
  | nil => simp
  | cons x xs ih =>
    have hx := h x List.mem_cons_self
    have hstep : ∀ k, (((x :: xs).filter (key · = k)).map f).sum =
        (if key x = k then f x else 0) + ((xs.filter (key · = k)).map f).sum := by
      intro k
      by_cases hk : key x = k
      · simp [hk]
      · simp [hk]
    rw [List.map_cons, List.sum_cons, Finset.sum_congr rfl fun k _ => hstep k,
      Finset.sum_add_distrib, Finset.sum_ite_eq, if_pos hx,
      ih fun y hy => h y (List.mem_cons_of_mem _ hy)]

namespace Rows

variable {κ β M : Type} [DecidableEq κ] [AddCommMonoid M]

/-- Rows that hold a function on a finite set add up to its sum. -/
theorem total_eq_sum (g : β → M) {r : Rows κ β} {s : Finset κ} {f : κ → β}
    (h : ∀ key v, r.get? key = some v ↔ key ∈ s ∧ v = f key) :
    r.total g = ∑ key ∈ s, g (f key) := by
  have hkeys : (r.entries.map Prod.fst).toFinset = s := by
    ext key
    simp only [List.mem_toFinset, List.mem_map, Prod.exists, exists_and_right, exists_eq_right]
    constructor
    · rintro ⟨v, hv⟩
      exact ((h key v).mp (mem_entries_iff.mp hv)).1
    · intro hkey
      exact ⟨f key, mem_entries_iff.mpr ((h key _).mpr ⟨hkey, rfl⟩)⟩
  have hrows : r.entries.map (fun e => g e.2) =
      (r.entries.map Prod.fst).map fun key => g (f key) := by
    rw [List.map_map]
    apply List.map_congr_left
    rintro ⟨key, v⟩ he
    rw [((h key v).mp (mem_entries_iff.mp he)).2]
    rfl
  rw [total, hrows, ← hkeys, List.sum_toFinset _ r.nodup]

/-- The rows of a map with a known support sum over that support. -/
theorem sum_rows {r : Rows κ M} {s : Finset κ} {f : κ → M}
    (h : ∀ key v, r.get? key = some v ↔ key ∈ s ∧ v = f key) : r.rows.sum = ∑ key ∈ s, f key :=
  total_eq_sum id h

end Rows

namespace Treap

variable {κ π : Type} [LinearOrder κ]

private theorem toFinset_keys {t : Treap κ π} {s : Finset κ}
    (hs : ∀ key, key ∈ t.keys ↔ key ∈ s) : t.keys.toFinset = s := by
  ext key
  rw [List.mem_toFinset, hs]

/-- An ordered tree lists the set of its keys in ascending order. -/
theorem Ordered.keys_eq_sort {t : Treap κ π} (h : t.Ordered) {s : Finset κ}
    (hs : ∀ key, key ∈ t.keys ↔ key ∈ s) : t.keys = s.sort (· ≤ ·) := by
  have hnodup : t.keys.Nodup := h.imp fun hlt => hlt.ne
  rw [← toFinset_keys hs, (List.toFinset_sort _ hnodup).mpr (h.imp fun hlt => hlt.le)]

/-- Backwards it lists them in descending order. -/
theorem Ordered.reverse_keys_eq_sort {t : Treap κ π} (h : t.Ordered) {s : Finset κ}
    (hs : ∀ key, key ∈ t.keys ↔ key ∈ s) : t.keys.reverse = s.sort (· ≥ ·) := by
  have hnodup : t.keys.reverse.Nodup :=
    List.nodup_reverse.mpr (h.imp fun hlt => hlt.ne)
  have hpairwise : t.keys.reverse.Pairwise (· ≥ ·) :=
    List.pairwise_reverse.mpr (h.imp fun hlt => hlt.le)
  rw [← toFinset_keys hs, ← List.toFinset_reverse, (List.toFinset_sort _ hnodup).mpr hpairwise]

end Treap
