import Mathlib.Algebra.Order.BigOperators.Group.List
import Mathlib.Data.List.Induction
import Mathlib.Data.List.Nodup
import Mathlib.Tactic.Abel

/-!
# Rows under unique keys

A collection of rows that keeps the order in which their keys were first written, as a
database table keeps its rows and an object its properties. A row written again keeps its
place.
-/

/-- Rows under distinct keys, oldest first. -/
structure Rows (κ β : Type) where
  entries : List (κ × β)
  nodup : (entries.map Prod.fst).Nodup

namespace Rows

variable {κ β M : Type}

@[ext] theorem ext {r s : Rows κ β} (h : r.entries = s.entries) : r = s := by
  cases r
  cases s
  cases h
  rfl

/-- No rows. -/
def empty : Rows κ β := ⟨[], List.nodup_nil⟩

variable [DecidableEq κ]

/-- The row under a key. -/
def get? (r : Rows κ β) (key : κ) : Option β :=
  (r.entries.find? fun e => e.1 = key).map Prod.snd

/-- The rows without the one under a key. -/
def delete (r : Rows κ β) (key : κ) : Rows κ β :=
  ⟨r.entries.filter fun e => e.1 ≠ key, r.nodup.sublist ((List.filter_sublist).map _)⟩

private def replace (key : κ) (value : β) (e : κ × β) : κ × β :=
  if e.1 = key then (key, value) else e

private theorem fst_replace (key : κ) (value : β) (e : κ × β) :
    (replace key value e).1 = e.1 := by
  unfold replace
  split_ifs with h
  · exact h.symm
  · rfl

/-- Write a row, over the one under its key if there is one. -/
def set (r : Rows κ β) (key : κ) (value : β) : Rows κ β :=
  if h : key ∈ r.entries.map Prod.fst then
    ⟨r.entries.map (replace key value), by
      rw [List.map_map, show Prod.fst ∘ replace key value = Prod.fst from
        funext (fst_replace key value)]
      exact r.nodup⟩
  else
    ⟨r.entries ++ [(key, value)], by
      rw [List.map_append, List.nodup_append]
      refine ⟨r.nodup, List.nodup_singleton _, ?_⟩
      rintro a ha b hb rfl
      rw [List.map_singleton, List.mem_singleton] at hb
      rw [hb] at ha
      exact h ha⟩

private theorem entries_set_of_mem {r : Rows κ β} {key : κ}
    (h : key ∈ r.entries.map Prod.fst) (value : β) :
    (r.set key value).entries = r.entries.map (replace key value) := by
  rw [set, dif_pos h]

private theorem entries_set_of_notMem {r : Rows κ β} {key : κ}
    (h : key ∉ r.entries.map Prod.fst) (value : β) :
    (r.set key value).entries = r.entries ++ [(key, value)] := by
  rw [set, dif_neg h]

@[simp] theorem get?_empty (key : κ) : (empty : Rows κ β).get? key = none := rfl

/-- An entry is stored exactly if it is found under its key. -/
theorem mem_entries_iff {r : Rows κ β} {key : κ} {v : β} :
    (key, v) ∈ r.entries ↔ r.get? key = some v := by
  unfold get?
  constructor
  · intro h
    obtain ⟨⟨k, w⟩, hfind⟩ : ∃ e, r.entries.find? (fun e => e.1 = key) = some e := by
      rw [← Option.isSome_iff_exists, List.find?_isSome]
      exact ⟨(key, v), h, by simp⟩
    have hk : k = key := by simpa using List.find?_some hfind
    subst hk
    have hw := List.inj_on_of_nodup_map r.nodup (List.mem_of_find?_eq_some hfind) h rfl
    rw [hfind, hw]
    rfl
  · intro h
    obtain ⟨⟨k, w⟩, hfind, hw⟩ := Option.map_eq_some_iff.mp h
    have hk : k = key := by simpa using List.find?_some hfind
    subst hk
    subst hw
    exact List.mem_of_find?_eq_some hfind

theorem get?_eq_none_iff {r : Rows κ β} {key : κ} :
    r.get? key = none ↔ key ∉ r.entries.map Prod.fst := by
  rw [Option.eq_none_iff_forall_ne_some]
  constructor
  · intro h hmem
    obtain ⟨⟨k, v⟩, hv, rfl⟩ := List.mem_map.mp hmem
    exact h v (mem_entries_iff.mp hv)
  · intro h v hv
    exact h (List.mem_map.mpr ⟨(key, v), mem_entries_iff.mpr hv, rfl⟩)

/-- A deleted key is gone, and no other. -/
theorem get?_delete (r : Rows κ β) (key k : κ) :
    (r.delete key).get? k = if k = key then none else r.get? k := by
  ext v
  rw [← mem_entries_iff]
  split_ifs with h
  · simp [delete, h]
  · simp [delete, h, mem_entries_iff]

/-- The rows that pass a test. -/
def filter (p : κ → β → Bool) (r : Rows κ β) : Rows κ β :=
  ⟨r.entries.filter fun e => p e.1 e.2, r.nodup.sublist ((List.filter_sublist).map _)⟩

/-- Filtering keeps an entry under its key if it passes. -/
theorem get?_filter (p : κ → β → Bool) (r : Rows κ β) (key : κ) :
    (r.filter p).get? key = (r.get? key).filter (p key) := by
  ext v
  rw [← mem_entries_iff]
  simp [filter, mem_entries_iff, Option.filter_eq_some_iff]

private theorem mem_map_replace {es : List (κ × β)} {key : κ}
    (hmem : key ∈ es.map Prod.fst) (value : β) (k : κ) (v : β) :
    (k, v) ∈ es.map (replace key value) ↔
      if k = key then v = value else (k, v) ∈ es := by
  rw [List.mem_map]
  constructor
  · rintro ⟨⟨k', v'⟩, he, hr⟩
    unfold replace at hr
    split_ifs at hr with hk'
    · obtain ⟨rfl, rfl⟩ := Prod.mk.inj hr
      rw [if_pos rfl]
    · obtain ⟨rfl, rfl⟩ := Prod.mk.inj hr
      rwa [if_neg hk']
  · intro h
    split_ifs at h with hk
    · obtain ⟨⟨k', v'⟩, he, hk'⟩ := List.mem_map.mp hmem
      exact ⟨(k', v'), he, by rw [replace, if_pos hk', hk, h]⟩
    · exact ⟨(k, v), h, by rw [replace, if_neg hk]⟩

/-- A set key holds the value, and no other changes. -/
theorem get?_set (r : Rows κ β) (key k : κ) (value : β) :
    (r.set key value).get? k = if k = key then some value else r.get? k := by
  ext v
  rw [← mem_entries_iff]
  by_cases hmem : key ∈ r.entries.map Prod.fst
  · rw [entries_set_of_mem hmem, mem_map_replace hmem]
    split_ifs with hk
    · rw [Option.some.injEq, eq_comm]
    · exact mem_entries_iff
  · rw [entries_set_of_notMem hmem, List.mem_append, List.mem_singleton, Prod.mk.injEq,
      mem_entries_iff]
    split_ifs with hk
    · subst hk
      simp [get?_eq_none_iff.mpr hmem, eq_comm]
    · simp [hk]

@[simp] theorem get?_set_self (r : Rows κ β) (key : κ) (value : β) :
    (r.set key value).get? key = some value := by
  rw [get?_set, if_pos rfl]

/-- A row that is written as it is stored changes nothing. -/
theorem set_of_get? {r : Rows κ β} {key : κ} {value : β} (h : r.get? key = some value) :
    r.set key value = r := by
  have hmem := mem_entries_iff.mpr h
  apply ext
  rw [entries_set_of_mem (List.mem_map_of_mem hmem)]
  conv_rhs => rw [← List.map_id r.entries]
  apply List.map_congr_left
  rintro ⟨k, v⟩ hkv
  unfold replace
  split_ifs with hk
  · obtain rfl : k = key := hk
    rw [mem_entries_iff, h, Option.some.injEq] at hkv
    rw [hkv]
    rfl
  · rfl

/-- A row with a new key comes last. -/
theorem entries_set_of_get?_eq_none {r : Rows κ β} {key : κ} (h : r.get? key = none) (value : β) :
    (r.set key value).entries = r.entries ++ [(key, value)] :=
  entries_set_of_notMem (get?_eq_none_iff.mp h) value

omit [DecidableEq κ] in
/-- The other rows have other keys. -/
theorem fst_ne_of_append {before behind : List (κ × β)} {key : κ} {value : β}
    (hn : ((before ++ (key, value) :: behind).map Prod.fst).Nodup) :
    ∀ e, e ∈ before ∨ e ∈ behind → e.1 ≠ key := by
  rw [List.map_append, List.map_cons, List.nodup_append] at hn
  obtain ⟨-, hbehind, hbefore⟩ := hn
  rintro e (he | he)
  · exact hbefore e.1 (List.mem_map_of_mem he) key List.mem_cons_self
  · intro hkey
    exact (List.nodup_cons.mp hbehind).1 (List.mem_map.mpr ⟨e, he, hkey⟩)

/-- A row that is written again keeps its place. -/
theorem entries_set_append {r : Rows κ β} {before behind : List (κ × β)} {key : κ} {old : β}
    (h : r.entries = before ++ (key, old) :: behind) (value : β) :
    (r.set key value).entries = before ++ (key, value) :: behind := by
  have hne := fst_ne_of_append (h ▸ r.nodup)
  have hkept : ∀ es : List (κ × β), (∀ e ∈ es, e.1 ≠ key) → es.map (replace key value) = es := by
    intro es hes
    conv_rhs => rw [← List.map_id es]
    apply List.map_congr_left
    intro e he
    rw [replace, if_neg (hes e he), id]
  have hmem : key ∈ r.entries.map Prod.fst := by simp [h]
  rw [entries_set_of_mem hmem, h, List.map_append, List.map_cons,
    hkept before fun e he => hne e (.inl he), hkept behind fun e he => hne e (.inr he), replace,
    if_pos rfl]

/-- The other rows keep their places when one is deleted. -/
theorem entries_delete_append {r : Rows κ β} {before behind : List (κ × β)} {key : κ} {old : β}
    (h : r.entries = before ++ (key, old) :: behind) :
    (r.delete key).entries = before ++ behind := by
  have hne := fst_ne_of_append (h ▸ r.nodup)
  have hkept : ∀ es : List (κ × β), (∀ e ∈ es, e.1 ≠ key) →
      (es.filter fun e => e.1 ≠ key) = es := by
    intro es hes
    rw [List.filter_eq_self]
    intro e he
    exact decide_eq_true (hes e he)
  show r.entries.filter (fun e => e.1 ≠ key) = before ++ behind
  rw [h, List.filter_append, List.filter_cons_of_neg (by simp),
    hkept before fun e he => hne e (.inl he), hkept behind fun e he => hne e (.inr he)]

/-- A row that is set takes the place of the one that had its key. -/
theorem entries_set_perm (r : Rows κ β) (key : κ) (value : β) :
    (r.set key value).entries.Perm ((key, value) :: (r.delete key).entries) := by
  have hkey : (key, value) ∉ (r.delete key).entries := by
    rw [mem_entries_iff, get?_delete, if_pos rfl]
    exact Option.some_ne_none value ∘ Eq.symm
  rw [List.perm_ext_iff_of_nodup (List.Nodup.of_map _ (r.set key value).nodup)
    (List.nodup_cons.mpr ⟨hkey, List.Nodup.of_map _ (r.delete key).nodup⟩)]
  rintro ⟨k, v⟩
  rw [List.mem_cons, mem_entries_iff, mem_entries_iff, get?_set, get?_delete, Prod.mk.injEq]
  by_cases hk : k = key
  · simp only [hk, if_true, Option.some.injEq, true_and, reduceCtorEq, or_false]
    exact eq_comm
  · simp only [hk, if_false, false_and, false_or]

/-- What holds of every row and of a written one holds of every row after the write. -/
theorem forall_set {P : κ → β → Prop} {r : Rows κ β} (hr : ∀ k v, r.get? k = some v → P k v)
    {key : κ} {value : β} (h : P key value) :
    ∀ k v, (r.set key value).get? k = some v → P k v := by
  intro k v hk
  rw [get?_set] at hk
  split_ifs at hk with he
  · obtain rfl := Option.some.inj hk
    rw [he]
    exact h
  · exact hr k v hk

/-- What holds of every row holds of every row that a deletion leaves. -/
theorem forall_delete {P : κ → β → Prop} {r : Rows κ β} (hr : ∀ k v, r.get? k = some v → P k v)
    (key : κ) : ∀ k v, (r.delete key).get? k = some v → P k v := by
  intro k v hk
  rw [get?_delete] at hk
  split_ifs at hk
  exact hr k v hk

/-- A column without duplicates stays so under a row that takes no other's value. -/
theorem unique_set {γ : Type} {f : β → γ} {r : Rows κ β}
    (hr : ∀ k v k' v', r.get? k = some v → r.get? k' = some v' → f v = f v' → k = k')
    {key : κ} {value : β} (h : ∀ k v, r.get? k = some v → f v = f value → k = key) :
    ∀ k v k' v', (r.set key value).get? k = some v → (r.set key value).get? k' = some v' →
      f v = f v' → k = k' := by
  intro k v k' v' hk hk' heq
  rw [get?_set] at hk hk'
  split_ifs at hk hk' with he he'
  · rw [he, he']
  · obtain rfl := Option.some.inj hk
    rw [he]
    exact (h k' v' hk' heq.symm).symm
  · obtain rfl := Option.some.inj hk'
    rw [‹k' = key›]
    exact h k v hk heq
  · exact hr k v k' v' hk hk' heq

/-! ## Rewriting every row -/

section Map

variable {γ : Type}

omit [DecidableEq κ] in
/-- The rows with new values under the same keys. -/
def map (f : κ → β → γ) (r : Rows κ β) : Rows κ γ :=
  ⟨r.entries.map fun e => (e.1, f e.1 e.2), by
    rw [List.map_map]
    exact r.nodup⟩

@[simp] theorem get?_map (f : κ → β → γ) (r : Rows κ β) (key : κ) :
    (r.map f).get? key = (r.get? key).map (f key) := by
  ext w
  rw [← mem_entries_iff, Option.map_eq_some_iff, map, List.mem_map]
  constructor
  · rintro ⟨⟨k, v⟩, hentry, heq⟩
    obtain ⟨rfl, rfl⟩ := Prod.mk.inj heq
    exact ⟨v, mem_entries_iff.mp hentry, rfl⟩
  · rintro ⟨v, hv, rfl⟩
    exact ⟨(key, v), mem_entries_iff.mpr hv, rfl⟩

end Map

/-! ## Totals -/

section Total

variable [AddCommMonoid M] (f : β → M)

/-- A quantity summed over all values. -/
def total (r : Rows κ β) : M := (r.entries.map fun e => f e.2).sum

omit [DecidableEq κ] in
@[simp] theorem total_empty : total f (empty : Rows κ β) = 0 := rfl

private theorem sum_filter_of_notMem {es : List (κ × β)} {key : κ}
    (h : key ∉ es.map Prod.fst) : es.filter (fun e => e.1 ≠ key) = es := by
  rw [List.filter_eq_self]
  rintro e he
  simp only [ne_eq, decide_not, Bool.not_eq_eq_eq_not, Bool.not_true, decide_eq_false_iff_not]
  rintro rfl
  exact h (List.mem_map.mpr ⟨e, he, rfl⟩)

private theorem sum_eq_add_filter {es : List (κ × β)} (hn : (es.map Prod.fst).Nodup)
    {key : κ} {v : β} (h : (key, v) ∈ es) :
    (es.map fun e => f e.2).sum =
      f v + ((es.filter fun e => e.1 ≠ key).map fun e => f e.2).sum := by
  induction es with
  | nil => simp at h
  | cons e es ih =>
    obtain ⟨hnot, hn⟩ := List.nodup_cons.mp hn
    rcases List.mem_cons.mp h with rfl | hmem
    · rw [List.filter_cons_of_neg (by simp), sum_filter_of_notMem hnot]
      simp
    · have hne : e.1 ≠ key := by
        rintro rfl
        exact hnot (List.mem_map.mpr ⟨(e.1, v), hmem, rfl⟩)
      rw [List.filter_cons_of_pos (by simpa using hne)]
      simp only [List.map_cons, List.sum_cons, ih hn hmem]
      abel

/-- The property under a key contributes its own quantity to the total. -/
theorem total_eq_add_delete (r : Rows κ β) (key : κ) :
    r.total f = (r.get? key).elim 0 f + (r.delete key).total f := by
  cases h : r.get? key with
  | none =>
    have hdelete : r.delete key = r := Rows.ext (sum_filter_of_notMem (get?_eq_none_iff.mp h))
    simp [hdelete]
  | some v => exact sum_eq_add_filter f r.nodup (mem_entries_iff.mpr h)

private theorem filter_map_replace (es : List (κ × β)) (key : κ) (value : β) :
    (es.map (replace key value)).filter (fun e => e.1 ≠ key) =
      es.filter fun e => e.1 ≠ key := by
  induction es with
  | nil => rfl
  | cons e es ih =>
    rw [List.map_cons]
    by_cases h : e.1 = key
    · rw [List.filter_cons_of_neg (by simp [fst_replace, h]), List.filter_cons_of_neg (by simp [h]),
        ih]
    · rw [List.filter_cons_of_pos (by simp [fst_replace, h]), List.filter_cons_of_pos (by simp [h]),
        ih, replace, if_neg h]

private theorem delete_set (r : Rows κ β) (key : κ) (value : β) :
    (r.set key value).delete key = r.delete key := by
  apply Rows.ext
  show (r.set key value).entries.filter _ = r.entries.filter _
  by_cases h : key ∈ r.entries.map Prod.fst
  · rw [entries_set_of_mem h]
    exact filter_map_replace r.entries key value
  · rw [entries_set_of_notMem h]
    simp

/-- A written property replaces the quantity of the one it overwrites. -/
theorem total_set (r : Rows κ β) (key : κ) (value : β) :
    (r.set key value).total f = f value + (r.delete key).total f := by
  rw [total_eq_add_delete f (r.set key value) key, get?_set_self, delete_set, Option.elim_some]

/-- A new row adds its value to a total. -/
theorem total_set_of_get?_eq_none {r : Rows κ β} {key : κ} (h : r.get? key = none) (value : β) :
    (r.set key value).total f = f value + r.total f := by
  rw [total_set, total_eq_add_delete f r key, h, Option.elim_none, zero_add]

/-- A total of nothing but zeros. -/
theorem total_eq_zero {f : β → M} {r : Rows κ β}
    (h : ∀ key v, r.get? key = some v → f v = 0) : r.total f = 0 := by
  apply List.sum_eq_zero
  intro x hx
  obtain ⟨⟨key, v⟩, he, rfl⟩ := List.mem_map.mp hx
  exact h key v (mem_entries_iff.mp he)

/-- Only the stored rows matter for a total. -/
theorem total_congr {f g : β → M} {r : Rows κ β}
    (h : ∀ key v, r.get? key = some v → f v = g v) : r.total f = r.total g := by
  unfold total
  congr 1
  apply List.map_congr_left
  rintro ⟨key, v⟩ he
  exact h key v (mem_entries_iff.mp he)

omit [DecidableEq κ] in
theorem total_add (g : β → M) (r : Rows κ β) :
    (r.total fun v => f v + g v) = r.total f + r.total g := List.sum_map_add

omit [DecidableEq κ] in
theorem total_map {γ : Type} (g : κ → β → γ) (f : γ → M) (r : Rows κ β) :
    (r.map g).total f = (r.entries.map fun e => f (g e.1 e.2)).sum := by
  rw [total, map, List.map_map]
  rfl

end Total

section Order

variable [AddCommMonoid M] [PartialOrder M] [IsOrderedAddMonoid M] {f : β → M} {r : Rows κ β}

omit [DecidableEq κ] in
theorem total_nonneg (h : ∀ v, 0 ≤ f v) : 0 ≤ r.total f := by
  apply List.sum_nonneg
  intro x hx
  obtain ⟨e, -, rfl⟩ := List.mem_map.mp hx
  exact h e.2

/-- Where nothing is negative, a row contributes at most the total. -/
theorem le_total (h : ∀ v, 0 ≤ f v) {key : κ} {v : β} (hv : r.get? key = some v) :
    f v ≤ r.total f := by
  rw [total_eq_add_delete f r key, hv, Option.elim_some]
  exact le_add_of_nonneg_right (total_nonneg h)

end Order

section Difference

variable [AddCommGroup M] (f : β → M)

/-- A deletion takes the quantity of the row under its key off the total. -/
theorem total_delete (r : Rows κ β) (key : κ) :
    (r.delete key).total f = r.total f - (r.get? key).elim 0 f := by
  rw [total_eq_add_delete f r key, add_sub_cancel_left]

/-- A write exchanges the quantity of the row under its key for the new one. -/
theorem total_set_eq_sub (r : Rows κ β) (key : κ) (value : β) :
    (r.set key value).total f = r.total f - (r.get? key).elim 0 f + f value := by
  rw [total_set, total_delete, add_comm]

end Difference

/-! ## Insertion that leaves an existing row alone -/

/-- Add a row unless its key is taken. -/
def insertIfAbsent (r : Rows κ β) (key : κ) (value : β) : Rows κ β :=
  if (r.get? key).isSome then r else r.set key value

theorem insertIfAbsent_of_get? {r : Rows κ β} {key : κ} {v : β} (h : r.get? key = some v)
    (value : β) : r.insertIfAbsent key value = r := by
  simp [insertIfAbsent, h]

theorem insertIfAbsent_of_get?_eq_none {r : Rows κ β} {key : κ} (h : r.get? key = none)
    (value : β) : r.insertIfAbsent key value = r.set key value := by
  simp [insertIfAbsent, h]

/-- An insertion keeps what is stored under the key. -/
theorem get?_insertIfAbsent (r : Rows κ β) (key k : κ) (value : β) :
    (r.insertIfAbsent key value).get? k =
      if k = key then some ((r.get? key).getD value) else r.get? k := by
  cases h : r.get? key with
  | none =>
    rw [insertIfAbsent_of_get?_eq_none h, get?_set]
    rfl
  | some v =>
    rw [insertIfAbsent_of_get? h]
    split_ifs with hk
    · rw [hk, h]
      rfl
    · rfl

/-! ## The rows as a list -/

/-- The rows, oldest first. -/
def rows (r : Rows κ β) : List β := r.entries.map Prod.snd

/-- A row is stored under some key. -/
theorem mem_rows_iff {r : Rows κ β} {v : β} : v ∈ r.rows ↔ ∃ key, r.get? key = some v := by
  unfold rows
  rw [List.mem_map]
  constructor
  · rintro ⟨⟨key, w⟩, he, rfl⟩
    exact ⟨key, mem_entries_iff.mp he⟩
  · rintro ⟨key, hkey⟩
    exact ⟨(key, v), mem_entries_iff.mpr hkey, rfl⟩

/-- The row that a property without duplicates leads to. -/
theorem find?_rows_eq_some {r : Rows κ β} {f : β → Prop} [DecidablePred f]
    (hunique : ∀ key v key' v', r.get? key = some v → r.get? key' = some v' → f v → f v' →
      key = key') {v : β} :
    r.rows.find? (fun v => f v) = some v ↔ f v ∧ ∃ key, r.get? key = some v := by
  constructor
  · intro h
    exact ⟨by simpa using List.find?_some h, mem_rows_iff.mp (List.mem_of_find?_eq_some h)⟩
  · rintro ⟨hf, key, hkey⟩
    obtain ⟨w, hw⟩ : ∃ w, r.rows.find? (fun v => f v) = some w := by
      rw [← Option.isSome_iff_exists, List.find?_isSome]
      exact ⟨v, mem_rows_iff.mpr ⟨key, hkey⟩, by simpa using hf⟩
    obtain ⟨key', hkey'⟩ := mem_rows_iff.mp (List.mem_of_find?_eq_some hw)
    have hfw : f w := by simpa using List.find?_some hw
    obtain rfl := hunique key v key' w hkey hkey' hf hfw
    rw [hw, ← hkey, ← hkey']

omit [DecidableEq κ] in
private theorem length_filter_rows (p : β → Prop) [DecidablePred p] (r : Rows κ β) :
    (r.rows.filter fun v => p v).length = r.total fun v => if p v then 1 else 0 := by
  unfold rows total
  induction r.entries with
  | nil => rfl
  | cons e es ih =>
    simp only [List.map_cons, List.sum_cons, ← ih]
    by_cases h : p e.2
    · rw [List.filter_cons_of_pos (by simpa using h), List.length_cons, if_pos h, add_comm]
    · rw [List.filter_cons_of_neg (by simpa using h), if_neg h, zero_add]

/-- Where only one key can have a row of a kind, there is one such row or none. -/
theorem length_filter_rows_eq {p : β → Prop} [DecidablePred p] {r : Rows κ β} {key : κ}
    (h : ∀ k v, r.get? k = some v → p v → k = key) :
    (r.rows.filter fun v => p v).length =
      (r.get? key).elim 0 fun v => if p v then 1 else 0 := by
  rw [length_filter_rows, total_eq_add_delete _ r key]
  rw [total_eq_zero, add_zero]
  intro k v hv
  rw [get?_delete] at hv
  split_ifs at hv with hk
  exact if_neg fun hp => hk (h k v hv hp)

/-! ## Rows written one after another -/

/-- A write adds at most one row. -/
theorem length_set_le (r : Rows κ β) (key : κ) (value : β) :
    (r.set key value).entries.length ≤ r.entries.length + 1 := by
  by_cases h : key ∈ r.entries.map Prod.fst
  · rw [entries_set_of_mem h, List.length_map]
    omega
  · rw [entries_set_of_notMem h, List.length_append, List.length_singleton]

/-- Each write adds at most one entry. -/
theorem length_foldl_set_le (l : List (κ × β)) (r : Rows κ β) :
    (l.foldl (fun r e => r.set e.1 e.2) r).entries.length ≤ r.entries.length + l.length := by
  induction l generalizing r with
  | nil => simp
  | cons e l ih =>
    rw [List.foldl_cons, List.length_cons]
    have hset := length_set_le r e.1 e.2
    have hrest := ih (r.set e.1 e.2)
    omega

/-- Writing rows under distinct keys leaves exactly these rows. -/
theorem get?_foldl_set {l : List (κ × β)} (hnodup : (l.map Prod.fst).Nodup) (key : κ) (v : β) :
    (l.foldl (fun r e => r.set e.1 e.2) empty).get? key = some v ↔ (key, v) ∈ l := by
  induction l using List.reverseRecOn with
  | nil => simp
  | append_singleton l e ih =>
    rw [List.map_append, List.nodup_append] at hnodup
    obtain ⟨hrest, -, hfresh⟩ := hnodup
    rw [List.foldl_append, List.foldl_cons, List.foldl_nil, get?_set, List.mem_append,
      List.mem_singleton, ← ih hrest]
    split_ifs with hkey
    · subst hkey
      have hnone : (l.foldl (fun r e => r.set e.1 e.2) empty).get? e.1 ≠ some v := by
        intro hold
        have hmem := (ih hrest).mp hold
        exact hfresh e.1 (List.mem_map.mpr ⟨_, hmem, rfl⟩) e.1 (by simp) rfl
      constructor
      · intro hv
        right
        rw [Option.some.injEq] at hv
        rw [← hv]
      · rintro (hold | hnew)
        · exact absurd hold hnone
        · rw [← hnew]
    · constructor
      · exact Or.inl
      · rintro (hold | hnew)
        · exact hold
        · exact absurd (congrArg Prod.fst hnew) hkey

end Rows
