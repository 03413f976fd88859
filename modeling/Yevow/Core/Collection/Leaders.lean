import Yevow.Core.Collection.Rows

/-!
# One leader for each key

A pass over a list keeps for each key the first element of the highest rank. A leader gives way
to a higher rank only, and its place is the one its key was first seen at.
-/

namespace Rows

variable {κ α : Type} [DecidableEq κ] (key : α → κ) (rank : α → ℤ)

/-- Let an element lead its key if nothing of its rank does yet. -/
def keepLeader (r : Rows κ α) (x : α) : Rows κ α :=
  match r.get? (key x) with
  | some y => if rank x > rank y then r.set (key x) x else r
  | none => r.set (key x) x

/-- The leaders of a list. -/
def leaders (xs : List α) : Rows κ α := xs.foldl (keepLeader key rank) empty

/-- No element under the same key ranks higher. -/
def Leading (xs : List α) (x : α) : Prop := ∀ y ∈ xs, key y = key x → rank y ≤ rank x

variable {key rank} {xs ys : List α} {x y : α} {k : κ}

/-- The later of two entries leads only with the higher rank. -/
theorem get?_keepLeader (r : Rows κ α) (x : α) (k : κ) :
    (keepLeader key rank r x).get? k =
      if k = key x then some ((r.get? k).elim x fun y => if rank x > rank y then x else y)
      else r.get? k := by
  unfold keepLeader
  cases hget : r.get? (key x) with
  | none =>
    rw [get?_set]
    split_ifs with hk
    · rw [hk, hget]
      rfl
    · rfl
  | some y =>
    dsimp only
    by_cases hk : k = key x
    · subst hk
      rw [if_pos rfl, hget]
      dsimp only [Option.elim_some]
      split_ifs with hrank
      · rw [get?_set_self]
      · exact hget
    · rw [if_neg hk]
      split_ifs with hrank
      · rw [get?_set, if_neg hk]
      · rfl

private theorem leaders_append (xs : List α) (x : α) :
    leaders key rank (xs ++ [x]) = keepLeader key rank (leaders key rank xs) x := by
  unfold leaders
  rw [List.foldl_append]
  rfl

variable (key rank) in
/-- Every key of the list has a leader. -/
theorem exists_get?_leaders (hx : x ∈ xs) : ∃ y, (leaders key rank xs).get? (key x) = some y := by
  induction xs using List.reverseRecOn with
  | nil => exact absurd hx List.not_mem_nil
  | append_singleton xs z ih =>
    rw [leaders_append, get?_keepLeader]
    split_ifs with hkey
    · exact ⟨_, rfl⟩
    · rcases List.mem_append.mp hx with hmem | hmem
      · exact ih hmem
      · exact absurd (congrArg key (List.mem_singleton.mp hmem)) hkey

omit [DecidableEq κ] in
private theorem leading_append {z : α} (h : Leading key rank xs x)
    (hz : key z = key x → rank z ≤ rank x) : Leading key rank (xs ++ [z]) x := by
  intro y hy hkey
  rcases List.mem_append.mp hy with hmem | hmem
  · exact h y hmem hkey
  · rw [List.mem_singleton.mp hmem] at hkey ⊢
    exact hz hkey

/-- A leader is an element under its key, and no other ranks higher. -/
theorem leading_of_get?_leaders (h : (leaders key rank xs).get? k = some x) :
    x ∈ xs ∧ key x = k ∧ Leading key rank xs x := by
  induction xs using List.reverseRecOn generalizing x with
  | nil => cases h
  | append_singleton xs z ih =>
    rw [leaders_append, get?_keepLeader] at h
    split_ifs at h with hk
    · cases hget : (leaders key rank xs).get? k with
      | none =>
        rw [hget] at h
        change some z = some x at h
        obtain rfl := Option.some.inj h
        refine ⟨by simp, hk.symm, leading_append ?_ fun _ => le_rfl⟩
        intro y hy hkey
        obtain ⟨w, hw⟩ := exists_get?_leaders key rank hy
        rw [hkey, ← hk, hget] at hw
        cases hw
      | some w =>
        obtain ⟨hmem, hkey, hleading⟩ := ih hget
        rw [hget] at h
        change some (if rank z > rank w then z else w) = some x at h
        split_ifs at h with hrank
        · obtain rfl := Option.some.inj h
          refine ⟨by simp, hk.symm, leading_append ?_ fun _ => le_rfl⟩
          intro y hy hykey
          have := hleading y hy (hykey.trans (hk.symm.trans hkey.symm))
          omega
        · obtain rfl := Option.some.inj h
          exact ⟨List.mem_append_left _ hmem, hkey, leading_append hleading fun _ => by omega⟩
    · obtain ⟨hmem, hkey, hleading⟩ := ih h
      refine ⟨List.mem_append_left _ hmem, hkey, leading_append hleading fun hz => ?_⟩
      exact absurd (hkey.symm.trans hz.symm) hk

/-- A row of the leaders is an entry that leads its key. -/
theorem mem_leaders (hx : x ∈ (leaders key rank xs).rows) : x ∈ xs ∧ Leading key rank xs x := by
  obtain ⟨k, hk⟩ := mem_rows_iff.mp hx
  obtain ⟨hmem, -, hleading⟩ := leading_of_get?_leaders hk
  exact ⟨hmem, hleading⟩

variable (key rank) in
/-- Every key of an entry has a leader. -/
theorem exists_mem_leaders (hx : x ∈ xs) : ∃ y ∈ (leaders key rank xs).rows, key y = key x := by
  obtain ⟨y, hy⟩ := exists_get?_leaders key rank hx
  exact ⟨y, mem_rows_iff.mpr ⟨_, hy⟩, (leading_of_get?_leaders hy).2.1⟩

/-- The leaders have different keys. -/
theorem nodup_key_leaders (xs : List α) : ((leaders key rank xs).rows.map key).Nodup := by
  have hkeys : (leaders key rank xs).rows.map key = (leaders key rank xs).entries.map Prod.fst := by
    unfold rows
    rw [List.map_map]
    apply List.map_congr_left
    rintro ⟨k, x⟩ hmem
    exact (leading_of_get?_leaders (mem_entries_iff.mp hmem)).2.1
  rw [hkeys]
  exact (leaders key rank xs).nodup

/-! ## Chosen leaders -/

private theorem entries_leaders_of_nodup (h : (xs.map key).Nodup) :
    (leaders key rank xs).entries = xs.map fun x => (key x, x) := by
  induction xs using List.reverseRecOn with
  | nil => rfl
  | append_singleton xs z ih =>
    rw [List.map_append, List.nodup_append] at h
    obtain ⟨hxs, -, hz⟩ := h
    have hnone : (leaders key rank xs).get? (key z) = none := by
      rw [get?_eq_none_iff, ih hxs, List.map_map]
      intro hmem
      exact hz _ hmem _ (by simp) rfl
    rw [leaders_append, keepLeader, hnone]
    dsimp only
    rw [entries_set_of_get?_eq_none hnone, ih hxs, List.map_append, List.map_singleton]

private theorem leaders_append_of_leading {zs : List α} (hxs : (xs.map key).Nodup)
    (hleading : ∀ x ∈ xs, Leading key rank (xs ++ zs) x) (hzs : ∀ z ∈ zs, key z ∈ xs.map key) :
    leaders key rank (xs ++ zs) = leaders key rank xs := by
  induction zs using List.reverseRecOn with
  | nil => rw [List.append_nil]
  | append_singleton zs z ih =>
    have hrest : leaders key rank (xs ++ zs) = leaders key rank xs := by
      apply ih
      · intro x hx y hy
        exact hleading x hx y (by rw [← List.append_assoc]; exact List.mem_append_left _ hy)
      · exact fun w hw => hzs w (List.mem_append_left _ hw)
    obtain ⟨y, hy, hkey⟩ := List.mem_map.mp (hzs z (by simp))
    have hget : (leaders key rank xs).get? (key z) = some y := by
      rw [← mem_entries_iff, entries_leaders_of_nodup hxs]
      exact List.mem_map.mpr ⟨y, hy, by rw [hkey]⟩
    have hle := hleading y hy z (by simp) hkey.symm
    rw [← List.append_assoc, leaders_append, hrest, keepLeader, hget]
    dsimp only
    rw [if_neg (by omega)]

/-- A list that starts with a leading element for each of its keys keeps these. -/
theorem rows_leaders_of_leading {zs : List α} (hxs : (xs.map key).Nodup)
    (hleading : ∀ x ∈ xs, Leading key rank (xs ++ zs) x) (hzs : ∀ z ∈ zs, key z ∈ xs.map key) :
    (leaders key rank (xs ++ zs)).rows = xs := by
  unfold rows
  rw [leaders_append_of_leading hxs hleading hzs, entries_leaders_of_nodup hxs, List.map_map]
  exact List.map_id xs

end Rows
