import Mathlib.Data.List.Sort

/-!
# Sorting by a comparison function

A comparison function returns a number whose sign orders its arguments. Sorting with it
is stable, so the result is the one insertion sort gives whenever the function is
consistent. What later proofs need is weaker: the result is a permutation, and it is
ordered by every relation the comparison respects.
-/

namespace Sorting

variable {α : Type}

/-- Stable sort by the sign of a comparison. -/
def sortBy (compare : α → α → ℤ) (xs : List α) : List α :=
  xs.insertionSort fun a b => compare a b ≤ 0

/-- Sorting permutes. -/
theorem perm_sortBy (compare : α → α → ℤ) (xs : List α) : (sortBy compare xs).Perm xs :=
  List.perm_insertionSort _ xs

@[simp] theorem length_sortBy (compare : α → α → ℤ) (xs : List α) :
    (sortBy compare xs).length = xs.length := (perm_sortBy compare xs).length_eq

/-- A comparison respects a relation when its sign never contradicts it. -/
structure Respects (compare : α → α → ℤ) (r : α → α → Prop) : Prop where
  of_le : ∀ a b, compare a b ≤ 0 → r a b
  of_pos : ∀ a b, 0 < compare a b → r b a
  trans : ∀ a b c, r a b → r b c → r a c

private theorem pairwise_orderedInsert {compare : α → α → ℤ} {r : α → α → Prop}
    (h : Respects compare r) (a : α) {xs : List α} (hxs : xs.Pairwise r) :
    (xs.orderedInsert (fun a b => compare a b ≤ 0) a).Pairwise r := by
  induction xs with
  | nil => simp
  | cons b xs ih =>
    obtain ⟨hb, htail⟩ := List.pairwise_cons.mp hxs
    by_cases hle : compare a b ≤ 0
    · rw [List.orderedInsert_cons, if_pos hle, List.pairwise_cons]
      refine ⟨fun c hc => ?_, hxs⟩
      rcases List.mem_cons.mp hc with rfl | hc
      · exact h.of_le _ _ hle
      · exact h.trans _ _ _ (h.of_le _ _ hle) (hb c hc)
    · rw [List.orderedInsert_cons, if_neg hle, List.pairwise_cons]
      refine ⟨fun c hc => ?_, ih htail⟩
      rcases (List.mem_orderedInsert _).mp hc with rfl | hc
      · exact h.of_pos _ _ (by omega)
      · exact hb c hc

/-- The sorted list is ordered by every respected relation. -/
theorem pairwise_sortBy {compare : α → α → ℤ} {r : α → α → Prop} (h : Respects compare r)
    (xs : List α) : (sortBy compare xs).Pairwise r := by
  unfold sortBy
  induction xs with
  | nil => simp
  | cons a xs ih =>
    rw [List.insertionSort_cons]
    exact pairwise_orderedInsert h a ih

/-! ## Parts of a sorted list -/

private theorem orderedInsert_congr {r r' : α → α → Prop} [DecidableRel r] [DecidableRel r'] {a : α}
    {xs : List α} (h : ∀ b ∈ xs, r a b ↔ r' a b) :
    xs.orderedInsert r a = xs.orderedInsert r' a := by
  induction xs with
  | nil => rfl
  | cons b xs ih =>
    rw [List.orderedInsert_cons, List.orderedInsert_cons,
      ih fun c hc => h c (List.mem_cons_of_mem _ hc)]
    exact if_congr (h b List.mem_cons_self) rfl rfl

/-- Comparisons that agree on the elements sort them alike. -/
theorem sortBy_congr {compare compare' : α → α → ℤ} {xs : List α}
    (h : ∀ a ∈ xs, ∀ b ∈ xs, compare a b = compare' a b) :
    sortBy compare xs = sortBy compare' xs := by
  induction xs with
  | nil => rfl
  | cons a xs ih =>
    have hxs : sortBy compare xs = sortBy compare' xs :=
      ih fun b hb c hc => h b (List.mem_cons_of_mem _ hb) c (List.mem_cons_of_mem _ hc)
    unfold sortBy at hxs ⊢
    rw [List.insertionSort_cons, List.insertionSort_cons, hxs]
    apply orderedInsert_congr
    intro b hb
    rw [h a List.mem_cons_self b
      (List.mem_cons_of_mem _ ((perm_sortBy compare' xs).mem_iff.mp hb))]

/-- Sorting the images of elements by what the elements are sorted by. -/
theorem map_sortBy {β : Type} {compare : α → α → ℤ} {compare' : β → β → ℤ} {f : α → β} {xs : List α}
    (h : ∀ a ∈ xs, ∀ b ∈ xs, compare a b ≤ 0 ↔ compare' (f a) (f b) ≤ 0) :
    (sortBy compare xs).map f = sortBy compare' (xs.map f) :=
  List.map_insertionSort _ _ f xs h

private theorem filter_orderedInsert {compare : α → α → ℤ}
    (h : Respects compare fun a b => compare a b ≤ 0) (p : α → Bool) (a : α) {xs : List α}
    (hxs : xs.Pairwise fun a b => compare a b ≤ 0) :
    (xs.orderedInsert (fun a b => compare a b ≤ 0) a).filter p =
      if p a then (xs.filter p).orderedInsert (fun a b => compare a b ≤ 0) a
      else xs.filter p := by
  induction xs with
  | nil => simp only [List.orderedInsert_nil, List.filter_cons, List.filter_nil]
  | cons b xs ih =>
    obtain ⟨hb, htail⟩ := List.pairwise_cons.mp hxs
    by_cases hle : compare a b ≤ 0
    · rw [List.orderedInsert_cons, if_pos hle, List.filter_cons]
      split_ifs
      · -- everything that passes the test comes after the inserted element
        cases hrest : (b :: xs).filter p with
        | nil => rfl
        | cons c rest =>
          have hc : c ∈ b :: xs := List.mem_of_mem_filter (hrest ▸ List.mem_cons_self)
          have hac : compare a c ≤ 0 := by
            rcases List.mem_cons.mp hc with rfl | hc
            · exact hle
            · exact h.trans _ _ _ hle (hb c hc)
          rw [List.orderedInsert_cons, if_pos hac]
      · rfl
    · rw [List.orderedInsert_cons, if_neg hle, List.filter_cons, ih htail]
      by_cases hpb : p b = true
      · rw [if_pos hpb, List.filter_cons, if_pos hpb]
        split_ifs
        · rw [List.orderedInsert_cons, if_neg hle]
        · rfl
      · rw [if_neg hpb, List.filter_cons, if_neg hpb]

/-- Sorting keeps apart what a test keeps apart. -/
theorem filter_sortBy {compare : α → α → ℤ} (h : Respects compare fun a b => compare a b ≤ 0)
    (p : α → Bool) (xs : List α) : (sortBy compare xs).filter p = sortBy compare (xs.filter p) := by
  induction xs with
  | nil => rfl
  | cons a xs ih =>
    have hsorted := pairwise_sortBy h xs
    unfold sortBy at ih hsorted ⊢
    rw [List.insertionSort_cons, filter_orderedInsert h p a hsorted, ih, List.filter_cons]
    split_ifs
    · rw [List.insertionSort_cons]
    · rfl

/-- Where a comparison puts the elements of a list in one order, that order is all that is left of
the list. -/
theorem sortBy_eq_of_perm {compare : α → α → ℤ} {xs ys : List α} (hperm : xs.Perm ys)
    (htotal : ∀ a ∈ xs, ∀ b ∈ xs, compare a b ≤ 0 ∨ compare b a ≤ 0)
    (htrans : ∀ a ∈ xs, ∀ b ∈ xs, ∀ c ∈ xs, compare a b ≤ 0 → compare b c ≤ 0 → compare a c ≤ 0)
    (hanti : ∀ a ∈ xs, ∀ b ∈ xs, compare a b ≤ 0 → compare b a ≤ 0 → a = b) :
    sortBy compare xs = sortBy compare ys := by
  have hsorted : ∀ zs : List α, (∀ a ∈ zs, a ∈ xs) →
      (sortBy compare zs).Pairwise fun a b => compare a b ≤ 0 := by
    intro zs hzs
    let le : {a // a ∈ zs} → {a // a ∈ zs} → Prop := fun a b => compare a.1 b.1 ≤ 0
    have htotal' : Std.Total le := ⟨fun a b => htotal _ (hzs _ a.2) _ (hzs _ b.2)⟩
    have htrans' : IsTrans {a // a ∈ zs} le :=
      ⟨fun a b c => htrans _ (hzs _ a.2) _ (hzs _ b.2) _ (hzs _ c.2)⟩
    have hmap : (zs.attach.insertionSort le).map Subtype.val = sortBy compare zs := by
      have := List.map_insertionSort le (fun a b => compare a b ≤ 0) Subtype.val zs.attach
        fun _ _ _ _ => Iff.rfl
      rwa [List.attach_map_subtype_val] at this
    rw [← hmap, List.pairwise_map]
    exact List.pairwise_insertionSort le zs.attach
  have hmem : ∀ a ∈ ys, a ∈ xs := fun a ha => hperm.mem_iff.mpr ha
  have hsame : (sortBy compare xs).Perm (sortBy compare ys) :=
    (perm_sortBy compare xs).trans (hperm.trans (perm_sortBy compare ys).symm)
  apply hsame.eq_of_pairwise _ (hsorted xs fun _ h => h) (hsorted ys hmem)
  intro a b ha hb hab hba
  exact hanti a ((perm_sortBy compare xs).mem_iff.mp ha) b
    (hmem b ((perm_sortBy compare ys).mem_iff.mp hb)) hab hba

/-! ## Consistent comparisons -/

/-- A comparison whose signs make up a preorder of the elements of a list. -/
structure Consistent (compare : α → α → ℤ) (xs : List α) : Prop where
  sign : ∀ a ∈ xs, ∀ b ∈ xs, compare a b < 0 ↔ 0 < compare b a
  trans : ∀ a ∈ xs, ∀ b ∈ xs, ∀ c ∈ xs, compare a b ≤ 0 → compare b c ≤ 0 → compare a c ≤ 0

namespace Consistent

variable {compare compare' : α → α → ℤ} {xs ys : List α}

theorem zero_symm (h : Consistent compare xs) {a b : α} (ha : a ∈ xs) (hb : b ∈ xs)
    (hzero : compare a b = 0) : compare b a = 0 := by
  have hab := h.sign a ha b hb
  have hba := h.sign b hb a ha
  omega

/-- Comparing by what a function reads off the elements. -/
theorem comap {β : Type} {f : β → α} {bs : List β} (h : Consistent compare xs)
    (hmem : ∀ b ∈ bs, f b ∈ xs) : Consistent (fun a b => compare (f a) (f b)) bs where
  sign a ha b hb := h.sign _ (hmem a ha) _ (hmem b hb)
  trans a ha b hb c hc := h.trans _ (hmem a ha) _ (hmem b hb) _ (hmem c hc)

/-- Ties of one comparison are left to another one. -/
theorem lexicographic (h : Consistent compare xs) (h' : Consistent compare' xs) :
    Consistent (fun a b => if compare a b ≠ 0 then compare a b else compare' a b) xs where
  sign a ha b hb := by
    have hab := h.sign a ha b hb
    have hba := h.sign b hb a ha
    have htie := h'.sign a ha b hb
    split_ifs <;> omega
  trans a ha b hb c hc hab hbc := by
    have hle : compare a b ≤ 0 ∧ compare b c ≤ 0 := by
      constructor
      · split_ifs at hab <;> omega
      · split_ifs at hbc <;> omega
    have hac := h.trans a ha b hb c hc hle.1 hle.2
    split_ifs with hne
    · exact hac
    · -- a tie of the ends is a tie of both steps
      push Not at hne
      have hca := h.zero_symm ha hc hne
      have hba := h.trans b hb c hc a ha hle.2 hca.le
      have hcb := h.trans c hc a ha b hb hca.le hle.1
      have hab₀ : compare a b = 0 := by
        have := h.sign a ha b hb
        omega
      have hbc₀ : compare b c = 0 := by
        have := h.sign b hb c hc
        omega
      rw [if_neg (not_not.mpr hab₀)] at hab
      rw [if_neg (not_not.mpr hbc₀)] at hbc
      exact h'.trans a ha b hb c hc hab hbc

/-- Permuted lists without ties are sorted alike. -/
theorem sortBy_eq_of_perm (h : Consistent compare xs) (hperm : xs.Perm ys)
    (hties : ∀ a ∈ xs, ∀ b ∈ xs, compare a b = 0 → a = b) :
    sortBy compare xs = sortBy compare ys := by
  apply Sorting.sortBy_eq_of_perm hperm _ h.trans
  · intro a ha b hb hab hba
    apply hties a ha b hb
    have := h.sign a ha b hb
    omega
  · intro a ha b hb
    have := h.sign b hb a ha
    omega

theorem respects (h : ∀ xs, Consistent compare xs) :
    Respects compare fun a b => compare a b ≤ 0 where
  of_le _ _ hab := hab
  of_pos a b hab := (((h [a, b]).sign b (by simp) a (by simp)).mpr hab).le
  trans a b c hab hbc := (h [a, b, c]).trans a (by simp) b (by simp) c (by simp) hab hbc

end Consistent

/-- The smaller number comes first. -/
theorem consistent_sub (key : α → ℤ) (xs : List α) :
    Consistent (fun a b => key a - key b) xs where
  sign a _ b _ := by omega
  trans a _ b _ c _ hab hbc := by omega

/-- The larger number comes first. -/
theorem consistent_descending (key : α → ℤ) (xs : List α) :
    Consistent (fun a b => if key a ≠ key b then if key a > key b then -1 else 1 else 0) xs where
  sign a _ b _ := by
    split_ifs <;> omega
  trans a _ b _ c _ hab hbc := by
    split_ifs at hab hbc ⊢ <;> omega

/-- Where a test fails for good, an ordered list is split by it. -/
theorem filter_append_filter_not {p : α → Bool} {xs : List α}
    (hxs : xs.Pairwise fun a b => p b = true → p a = true) :
    xs.filter p ++ xs.filter (fun a => !p a) = xs := by
  induction xs with
  | nil => rfl
  | cons a xs ih =>
    obtain ⟨ha, htail⟩ := List.pairwise_cons.mp hxs
    cases hpa : p a with
    | true =>
      rw [List.filter_cons_of_pos hpa, List.filter_cons_of_neg (by simp [hpa]), List.cons_append,
        ih htail]
    | false =>
      have hnone : ∀ b ∈ xs, p b = false := by
        intro b hb
        rw [Bool.eq_false_iff]
        intro hpb
        exact Bool.false_ne_true (hpa.symm.trans (ha b hb hpb))
      rw [List.filter_cons_of_neg (by simp [hpa]), List.filter_cons_of_pos (by simp [hpa]),
        List.filter_eq_nil_iff.mpr (by simpa using hnone),
        List.filter_eq_self.mpr (by simpa using hnone), List.nil_append]

/-- A comparison whose sign orders by a key. -/
theorem respects_of_key {β : Type} [LinearOrder β] {compare : α → α → ℤ} {key : α → β}
    (h : ∀ a b, compare a b ≤ 0 ↔ key a ≤ key b) :
    Respects compare fun a b => compare a b ≤ 0 where
  of_le _ _ hab := hab
  of_pos a b hab := by
    rw [h]
    rcases le_total (key a) (key b) with hle | hle
    · exact absurd hab (not_lt.mpr ((h a b).mpr hle))
    · exact hle
  trans a b c hab hbc := by
    rw [h] at hab hbc ⊢
    exact hab.trans hbc

/-- The first entries of a strictly ordered list are those with few entries before them. -/
theorem mem_take_iff {before : α → α → Prop} [DecidableRel before]
    (hasymm : ∀ a b, before a b → ¬before b a) {xs : List α} (hxs : xs.Pairwise before) (n : ℕ)
    (x : α) :
    x ∈ xs.take n ↔ x ∈ xs ∧ (xs.filter fun a => before a x).length < n := by
  induction xs generalizing n with
  | nil => simp
  | cons a xs ih =>
    obtain ⟨ha, htail⟩ := List.pairwise_cons.mp hxs
    cases n with
    | zero => simp
    | succ n =>
      rw [List.take_succ_cons, List.mem_cons, List.mem_cons, ih htail]
      by_cases hax : x = a
      · subst hax
        have hnone : (x :: xs).filter (fun b => before b x) = [] := by
          rw [List.filter_eq_nil_iff]
          intro b hb
          rw [decide_eq_true_eq]
          rcases List.mem_cons.mp hb with rfl | hb
          · exact fun h => hasymm b b h h
          · exact hasymm x b (ha b hb)
        rw [hnone]
        simp
      · simp only [hax, false_or]
        constructor
        · rintro ⟨hx, hlt⟩
          rw [List.filter_cons, if_pos (decide_eq_true (ha x hx)), List.length_cons]
          exact ⟨hx, by omega⟩
        · rintro ⟨hx, hlt⟩
          rw [List.filter_cons, if_pos (decide_eq_true (ha x hx)), List.length_cons] at hlt
          exact ⟨hx, by omega⟩

end Sorting
