import Yevow.Core.Collection.Rows
import Yevow.Core.Collection.Sorting

/-!
# Objects used as maps

An object keeps its own properties in the order in which they were created; a property
written again keeps its place. Enumeration puts the array indices first, in numeric order.
-/

namespace JavaScript

/-- The own properties of an object, oldest first. A lookup under a key that the object
inherits is not modelled. -/
abbrev Record (β : Type) : Type := Rows String β

/-- The number of an array index, the keys that enumeration sorts. -/
def arrayIndex? (key : String) : Option ℕ :=
  match key.toNat? with
  | some n => if toString n = key ∧ n < 2 ^ 32 - 1 then some n else none
  | none => none

/-- Enumeration order of two keys: indices by number, before all other keys. -/
def comparePropertyKeys (a b : String) : ℤ :=
  match arrayIndex? a, arrayIndex? b with
  | some i, some j => (i : ℤ) - j
  | some _, none => -1
  | none, some _ => 1
  | none, none => 0

namespace Record

variable {β M : Type}

/-- `Object.entries(record)`. -/
def enumeration (r : Record β) : List (String × β) :=
  Sorting.sortBy (fun a b => comparePropertyKeys a.1 b.1) r.entries

/-- `Object.values(record)`. -/
def values (r : Record β) : List β :=
  (Sorting.sortBy (fun a b => comparePropertyKeys a.1 b.1) r.entries).map Prod.snd

/-- A value is stored under some key. -/
theorem mem_values_iff {r : Record β} {v : β} : v ∈ r.values ↔ ∃ key, r.get? key = some v := by
  unfold values
  rw [List.mem_map]
  constructor
  · rintro ⟨⟨k, w⟩, he, rfl⟩
    exact ⟨k, Rows.mem_entries_iff.mp ((Sorting.perm_sortBy _ _).mem_iff.mp he)⟩
  · rintro ⟨k, hk⟩
    exact ⟨(k, v), (Sorting.perm_sortBy _ _).mem_iff.mpr (Rows.mem_entries_iff.mpr hk), rfl⟩

/-- Enumeration order does not matter for a sum. -/
theorem sum_values [AddCommMonoid M] (f : β → M) (r : Record β) :
    (r.values.map f).sum = r.total f := by
  unfold values Rows.total
  rw [List.map_map]
  exact ((Sorting.perm_sortBy _ _).map _).sum_eq

/-- `{ ...base, ...update }`. -/
def spread (base update : Record β) : Record β :=
  update.entries.foldl (fun r e => r.set e.1 e.2) base

/-- `Object.fromEntries(entries)`. -/
def fromEntries (entries : List (String × β)) : Record β :=
  entries.foldl (fun r e => r.set e.1 e.2) Rows.empty

private theorem get?_foldl_set {f : String → β} {keys : List String} {r : Record β}
    {key : String} :
    ((keys.map fun k => (k, f k)).foldl (fun r e => r.set e.1 e.2) r).get? key =
      if key ∈ keys then some (f key) else r.get? key := by
  induction keys generalizing r with
  | nil => simp
  | cons k keys ih =>
    simp only [List.map_cons, List.foldl_cons, ih, List.mem_cons]
    by_cases hmem : key ∈ keys
    · simp [hmem]
    · by_cases hk : key = k
      · subst hk
        simp [hmem]
      · simp [hmem, hk, Rows.get?_set]

/-- An object made by a function on keys holds its values under those keys only. -/
theorem get?_fromEntries (f : String → β) (keys : List String) (key : String) :
    (fromEntries (keys.map fun k => (k, f k))).get? key =
      if key ∈ keys then some (f key) else none := by
  unfold fromEntries
  rw [get?_foldl_set, Rows.get?_empty]

end Record

end JavaScript
