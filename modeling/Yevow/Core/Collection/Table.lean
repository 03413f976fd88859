import Mathlib.Data.Finmap
import Mathlib.Algebra.BigOperators.Group.Multiset.Basic
import Mathlib.Algebra.Order.BigOperators.Group.Multiset
import Mathlib.Data.Prod.Lex
import Mathlib.Order.WithBot
import Mathlib.Tactic.Abel

/-!
# Keyed tables with totals

A table maps finitely many keys to rows. Two tables are equal when every lookup agrees, so
the order of insertions never matters, and a quantity summed over all rows changes under
an insertion by exactly the difference between the new row and the one it replaces.
-/

/-- A finite table of rows under keys. -/
abbrev Table (κ β : Type) : Type := Finmap fun _ : κ => β

namespace Table

variable {κ β M : Type} [DecidableEq κ]

/-- Lookup after an insertion. -/
theorem lookup_insert (m : Table κ β) (k k' : κ) (v : β) :
    (m.insert k v).lookup k' = if k' = k then some v else m.lookup k' := by
  split_ifs with h
  · subst h
    exact Finmap.lookup_insert m
  · exact Finmap.lookup_insert_of_ne m h

/-- Reinserting the row a table holds changes nothing. -/
theorem insert_of_lookup {m : Table κ β} {k : κ} {v : β} (h : m.lookup k = some v) :
    m.insert k v = m := by
  apply Finmap.ext_lookup
  intro k'
  rw [lookup_insert]
  split_ifs with he
  · rw [he, h]
  · rfl

private theorem insert_erase (m : Table κ β) (k : κ) (v : β) :
    (m.erase k).insert k v = m.insert k v := by
  apply Finmap.ext_lookup
  intro k'
  rw [lookup_insert, lookup_insert]
  split_ifs with he
  · rfl
  · exact Finmap.lookup_erase_ne he

/-- A row written over an existing one leaves the keys alone. -/
theorem keys_insert_of_lookup {m : Table κ β} {k : κ} {old : β} (h : m.lookup k = some old)
    (v : β) : (m.insert k v).keys = m.keys := by
  ext k'
  rw [Finmap.mem_keys, Finmap.mem_keys, Finmap.mem_insert]
  constructor
  · rintro (rfl | hmem)
    · exact Finmap.mem_of_lookup_eq_some h
    · exact hmem
  · exact Or.inr

/-- A row under a new key makes one key more. -/
theorem card_keys_insert {m : Table κ β} {k : κ} (h : m.lookup k = none) (v : β) :
    (m.insert k v).keys.card = m.keys.card + 1 := by
  have hk : k ∉ m.keys := by
    rw [Finmap.mem_keys]
    exact Finmap.lookup_eq_none.mp h
  rw [← Finset.card_insert_of_notMem hk]
  congr 1
  ext k'
  simp [Finmap.mem_keys, Finmap.mem_insert]

/-! ## Tables built from lists -/

section OfList

variable {α : Type} (key : α → κ) (value : α → β)

/-- The table a list of keyed values builds, later rows replacing earlier ones. -/
def ofList (xs : List α) : Table κ β := xs.foldl (fun m x => m.insert (key x) (value x)) ∅

private theorem lookup_foldl_insert_of_notMem {xs : List α} {k : κ}
    (h : ∀ x ∈ xs, key x ≠ k) (m : Table κ β) :
    (xs.foldl (fun m x => m.insert (key x) (value x)) m).lookup k = m.lookup k := by
  induction xs generalizing m with
  | nil => rfl
  | cons x xs ih =>
    rw [List.foldl_cons, ih fun y hy => h y (List.mem_cons_of_mem x hy), lookup_insert,
      if_neg (Ne.symm (h x (List.mem_cons_self ..)))]

private theorem lookup_foldl_insert_of_mem {xs : List α} (hn : (xs.map key).Nodup) {x : α}
    (hx : x ∈ xs) (m : Table κ β) :
    (xs.foldl (fun m x => m.insert (key x) (value x)) m).lookup (key x) = some (value x) := by
  induction xs generalizing m with
  | nil => simp at hx
  | cons y ys ih =>
    obtain ⟨hy, hys⟩ := List.nodup_cons.mp hn
    rw [List.foldl_cons]
    rcases List.mem_cons.mp hx with rfl | hx
    · rw [lookup_foldl_insert_of_notMem key value
        (fun z hz he => hy (List.mem_map.mpr ⟨z, hz, he⟩)),
        lookup_insert, if_pos rfl]
    · exact ih hys hx _

/-- With distinct keys every listed value is found under its own key. -/
theorem lookup_ofList {xs : List α} (hn : (xs.map key).Nodup) {x : α} (hx : x ∈ xs) :
    (ofList key value xs).lookup (key x) = some (value x) :=
  lookup_foldl_insert_of_mem key value hn hx ∅

/-- The last member is found under its key. -/
theorem lookup_ofList_append (xs : List α) (x : α) :
    (ofList key value (xs ++ [x])).lookup (key x) = some (value x) := by
  rw [ofList, List.foldl_append, List.foldl_cons, List.foldl_nil, lookup_insert, if_pos rfl]

private theorem lookup_foldl_insert_eq_some {xs : List α} {m : Table κ β} {k : κ} {v : β}
    (h : (xs.foldl (fun m x => m.insert (key x) (value x)) m).lookup k = some v) :
    (∃ x ∈ xs, key x = k ∧ value x = v) ∨ m.lookup k = some v := by
  induction xs generalizing m with
  | nil => exact Or.inr h
  | cons x xs ih =>
    rcases ih h with ⟨y, hy, hkey⟩ | hm
    · exact Or.inl ⟨y, List.mem_cons_of_mem x hy, hkey⟩
    · rw [lookup_insert] at hm
      split_ifs at hm with hk
      · exact Or.inl ⟨x, List.mem_cons_self .., hk.symm, Option.some.inj hm⟩
      · exact Or.inr hm

/-- Every row of a built table comes from the list. -/
theorem lookup_ofList_eq_some {xs : List α} {k : κ} {v : β}
    (h : (ofList key value xs).lookup k = some v) : ∃ x ∈ xs, key x = k ∧ value x = v := by
  rcases lookup_foldl_insert_eq_some key value h with hx | hempty
  · exact hx
  · exact absurd hempty (by simp)

end OfList

/-! ## The greatest row -/

section Greatest

variable {ρ : Type} [LinearOrder ρ] [LinearOrder κ] (rank : β → Option ρ)

/-- The rank and key of a ranked row, ordered by rank and then by key. -/
private def rankKey (k : κ) (v : β) : WithBot (Lex (ρ × κ)) :=
  match rank v with
  | some r => ((toLex (r, k) : Lex (ρ × κ)) : WithBot (Lex (ρ × κ)))
  | none => ⊥

omit [DecidableEq κ] in
private theorem foldl_max_comm (best : WithBot (Lex (ρ × κ))) (k₁ : κ) (v₁ : β) (k₂ : κ)
    (v₂ : β) : max (max best (rankKey rank k₁ v₁)) (rankKey rank k₂ v₂) =
      max (max best (rankKey rank k₂ v₂)) (rankKey rank k₁ v₁) := max_right_comm _ _ _

private def greatestKey (m : Table κ β) : WithBot (Lex (ρ × κ)) :=
  m.foldl (fun best k v => max best (rankKey rank k v)) (foldl_max_comm rank) ⊥

/-- The row of greatest rank, the greatest key deciding between equal ranks. -/
def greatest (m : Table κ β) : Option β :=
  match greatestKey rank m with
  | some best => m.lookup (ofLex best).2
  | none => none

omit [DecidableEq κ] in
private theorem greatestKey_spec (m : Table κ β) :
    (∀ row ∈ m.entries, rankKey rank row.1 row.2 ≤ greatestKey rank m) ∧
      (greatestKey rank m = ⊥ ∨
        ∃ row ∈ m.entries, greatestKey rank m = rankKey rank row.1 row.2) := by
  have hfold : ∀ (rows : Multiset (Sigma fun _ : κ => β)) (start : WithBot (Lex (ρ × κ)))
      (hcomm : RightCommutative fun best (row : Sigma fun _ : κ => β) =>
        max best (rankKey rank row.1 row.2)),
      start ≤ rows.foldl (fun best row => max best (rankKey rank row.1 row.2)) start ∧
      (∀ row ∈ rows, rankKey rank row.1 row.2 ≤
        rows.foldl (fun best row => max best (rankKey rank row.1 row.2)) start) ∧
      (rows.foldl (fun best row => max best (rankKey rank row.1 row.2)) start = start ∨
        ∃ row ∈ rows, rows.foldl (fun best row => max best (rankKey rank row.1 row.2)) start =
          rankKey rank row.1 row.2) := by
    intro rows start hcomm
    induction rows using Multiset.induction_on generalizing start with
    | empty => simp
    | cons row rows ih =>
      obtain ⟨hstart, hrows, hend⟩ := ih (max start (rankKey rank row.1 row.2))
      rw [Multiset.foldl_cons]
      refine ⟨(le_max_left _ _).trans hstart, fun other hother => ?_, ?_⟩
      · rcases Multiset.mem_cons.mp hother with rfl | hother
        · exact (le_max_right _ _).trans hstart
        · exact hrows other hother
      · rcases hend with hend | ⟨other, hother, hend⟩
        · rcases max_choice start (rankKey rank row.1 row.2) with hmax | hmax
          · exact Or.inl (hend.trans hmax)
          · exact Or.inr ⟨row, Multiset.mem_cons_self _ _, hend.trans hmax⟩
        · exact Or.inr ⟨other, Multiset.mem_cons_of_mem hother, hend⟩
  obtain ⟨-, hrows, hend⟩ :=
    hfold m.entries ⊥ ⟨fun best a b => foldl_max_comm rank best a.1 a.2 b.1 b.2⟩
  exact ⟨hrows, hend⟩

/-- The greatest row is a ranked row of the table. -/
theorem greatest_eq_some {m : Table κ β} {v : β} (h : greatest rank m = some v) :
    ∃ k, m.lookup k = some v ∧ rank v ≠ none := by
  unfold greatest at h
  rcases (greatestKey_spec rank m).2 with hbot | ⟨⟨k, v'⟩, hrow, hbest⟩
  · rw [hbot] at h
    exact absurd h (by simp)
  · rw [hbest] at h
    have hlookup : m.lookup k = some v' := Finmap.lookup_eq_some_iff.mpr hrow
    cases hrank : rank v' with
    | none =>
      simp only [rankKey, hrank] at h
      exact absurd h (by simp)
    | some r =>
      simp only [rankKey, hrank] at h
      have hv : some v' = some v := hlookup.symm.trans h
      obtain rfl := Option.some.inj hv
      exact ⟨k, hlookup, by simp [hrank]⟩

/-- Without a greatest row no row is ranked. -/
theorem greatest_eq_none {m : Table κ β} (h : greatest rank m = none) {k : κ} {v : β}
    (hk : m.lookup k = some v) : rank v = none := by
  unfold greatest at h
  obtain ⟨hle, hend⟩ := greatestKey_spec rank m
  have hbot : greatestKey rank m = ⊥ := by
    rcases hend with hbot | ⟨⟨k', v'⟩, hrow, hbest⟩
    · exact hbot
    · rw [hbest] at h ⊢
      cases hrank : rank v' with
      | none => simp [rankKey, hrank]
      | some r =>
        simp only [rankKey, hrank] at h
        have hlookup : m.lookup k' = some v' := Finmap.lookup_eq_some_iff.mpr hrow
        exact absurd (hlookup.symm.trans h) (by simp)
  have hv := hle ⟨k, v⟩ (Finmap.lookup_eq_some_iff.mp hk)
  rw [hbot] at hv
  cases hrank : rank v with
  | none => rfl
  | some r =>
    simp only [rankKey, hrank] at hv
    exact absurd (le_bot_iff.mp hv) (WithBot.coe_ne_bot)

end Greatest

/-! ## Totals -/

section Total

variable [AddCommMonoid M] (f : κ → β → M)

/-- A quantity summed over all rows. -/
def total (m : Table κ β) : M := (m.entries.map fun row => f row.1 row.2).sum

omit [DecidableEq κ] in
@[simp] theorem total_empty : total f (∅ : Table κ β) = 0 := rfl

/-- A fresh row adds its own quantity. -/
theorem total_insert_of_notMem {m : Table κ β} {k : κ} (h : k ∉ m) (v : β) :
    total f (m.insert k v) = f k v + total f m := by
  simp [total, Finmap.entries_insert_of_notMem h]

/-- A new key adds its value to a total. -/
theorem total_insert_of_lookup_none {m : Table κ β} {k : κ} (h : m.lookup k = none) (v : β) :
    total f (m.insert k v) = f k v + total f m :=
  total_insert_of_notMem f (Finmap.lookup_eq_none.mp h) v

/-- The row under a key contributes its own quantity to the total. -/
theorem total_eq_add_erase {m : Table κ β} {k : κ} {v : β} (h : m.lookup k = some v) :
    total f m = f k v + total f (m.erase k) := by
  rw [← total_insert_of_notMem f Finmap.notMem_erase_self, insert_erase, insert_of_lookup h]

/-- Replacing a row exchanges its quantity for the new one. -/
theorem total_insert_of_lookup {m : Table κ β} {k : κ} {old : β} (h : m.lookup k = some old)
    (v : β) : total f (m.insert k v) + f k old = total f m + f k v := by
  rw [total_eq_add_erase f h, ← insert_erase,
    total_insert_of_notMem f Finmap.notMem_erase_self]
  abel

/-- Only the stored rows matter for a total. -/
theorem total_congr {f g : κ → β → M} {m : Table κ β}
    (h : ∀ k v, m.lookup k = some v → f k v = g k v) : total f m = total g m := by
  unfold total
  congr 1
  refine Multiset.map_congr rfl fun row hrow => ?_
  exact h row.1 row.2 (Finmap.lookup_eq_some_iff.mpr hrow)

/-- A total of nothing but zeros. -/
theorem total_eq_zero {f : κ → β → M} {m : Table κ β}
    (h : ∀ k v, m.lookup k = some v → f k v = 0) : total f m = 0 := by
  rw [total_congr (g := fun _ _ => 0) h]
  simp [total]

end Total

omit [DecidableEq κ] in
theorem total_sub [AddCommGroup M] (f g : κ → β → M) (m : Table κ β) :
    total (fun k v => f k v - g k v) m = total f m - total g m :=
  Multiset.sum_map_sub

/-- Replacing or adding a row, with the replaced quantity read off the lookup. -/
theorem total_insert [AddCommGroup M] (f : κ → β → M) (m : Table κ β) (k : κ) (v : β) :
    total f (m.insert k v) = total f m - (m.lookup k).elim 0 (f k) + f k v := by
  cases h : m.lookup k with
  | none =>
    rw [total_insert_of_lookup_none f h]
    simp [add_comm]
  | some old =>
    rw [Option.elim_some, ← add_sub_cancel_right (total f (m.insert k v)) (f k old),
      total_insert_of_lookup f h]
    abel

/-- A total of non-negative quantities is non-negative. -/
theorem total_nonneg {f : κ → β → ℤ} {m : Table κ β}
    (h : ∀ k v, m.lookup k = some v → 0 ≤ f k v) : 0 ≤ total f m := by
  apply Multiset.sum_nonneg
  intro x hx
  obtain ⟨row, hrow, rfl⟩ := Multiset.mem_map.mp hx
  exact h row.1 row.2 (Finmap.lookup_eq_some_iff.mpr hrow)

/-- One row's quantity is at most a total of non-negative quantities. -/
theorem le_total {f : κ → β → ℤ} {m : Table κ β}
    (h : ∀ k v, m.lookup k = some v → 0 ≤ f k v) {k : κ} {v : β} (hk : m.lookup k = some v) :
    f k v ≤ total f m := by
  rw [total_eq_add_erase f hk]
  have : 0 ≤ total f (m.erase k) := by
    apply total_nonneg
    intro k' v' hk'
    by_cases he : k' = k
    · rw [he, Finmap.lookup_erase] at hk'
      exact absurd hk' (by simp)
    · exact h k' v' (by rwa [Finmap.lookup_erase_ne he] at hk')
  omega

end Table
