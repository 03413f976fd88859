import Yevow.Core.Collection.Rows
import Yevow.Core.Collection.Table

/-!
# Maps that agree off some keys

What a program may have changed is a set of keys: before and after it, the map agrees off
them. Two runs that start from different maps write the same when each key holds the same
in both afterwards, or was left alone by both.
-/

variable {κ β : Type}

/-- The maps agree off the keys. -/
def AgreeOff (keys : κ → Prop) (f g : κ → Option β) : Prop := ∀ k, ¬keys k → g k = f k

/-- From `f` to `f'` and from `g` to `g'` the same is written. -/
def WritesAlike (f f' g g' : κ → Option β) : Prop :=
  ∀ k, (f' k = f k ∧ g' k = g k) ∨ g' k = f' k

namespace AgreeOff

variable {keys own : κ → Prop} {f f' g g' : κ → Option β}

theorem refl (keys : κ → Prop) (f : κ → Option β) : AgreeOff keys f f := fun _ _ => rfl

theorem trans {h : κ → Option β} (hfg : AgreeOff keys f g) (hgh : AgreeOff keys g h) :
    AgreeOff keys f h := by
  intro k hk
  rw [hgh k hk, hfg k hk]

/-- Runs whose own keys are not those their maps differ on write the same. -/
theorem writesAlike (hdisjoint : ∀ k, keys k → ¬own k) (hf : AgreeOff own f f')
    (hg : AgreeOff own g g') (hrest : AgreeOff keys f' g') : WritesAlike f f' g g' := by
  intro k
  by_cases hk : keys k
  · exact Or.inl ⟨hf k (hdisjoint k hk), hg k (hdisjoint k hk)⟩
  · exact Or.inr (hrest k hk)

end AgreeOff

theorem WritesAlike.refl (f f' : κ → Option β) : WritesAlike f f' f f' := fun _ => Or.inr rfl

/-- Two operations that write nothing write alike. -/
theorem WritesAlike.unchanged (f g : κ → Option β) : WritesAlike f f g g :=
  fun _ => Or.inl ⟨rfl, rfl⟩

section Writes

variable [DecidableEq κ] {keys : κ → Prop} {key : κ} {v : β}

namespace Rows

variable {r r' : Rows κ β}

/-- Writing under a key that is left out changes nothing elsewhere. -/
theorem agreeOff_set (hkey : keys key) : AgreeOff keys r.get? (r.set key v).get? := by
  intro k hk
  rw [get?_set, if_neg]
  rintro rfl
  exact hk hkey

theorem agreeOff_insertIfAbsent (hkey : keys key) :
    AgreeOff keys r.get? (r.insertIfAbsent key v).get? := by
  intro k hk
  rw [get?_insertIfAbsent, if_neg]
  rintro rfl
  exact hk hkey

/-- The same write keeps two collections agreeing. -/
theorem agreeOff_set_set (h : AgreeOff keys r.get? r'.get?) :
    AgreeOff keys (r.set key v).get? (r'.set key v).get? := by
  intro k hk
  rw [get?_set, get?_set, h k hk]

theorem agreeOff_insertIfAbsent_insertIfAbsent (h : AgreeOff keys r.get? r'.get?) :
    AgreeOff keys (r.insertIfAbsent key v).get? (r'.insertIfAbsent key v).get? := by
  intro k hk
  rw [get?_insertIfAbsent, get?_insertIfAbsent, h k hk]
  split_ifs with he
  · subst he
    rw [h k hk]
  · rfl

end Rows

namespace Table

variable {m m' : Table κ β}

theorem agreeOff_insert (hkey : keys key) : AgreeOff keys m.lookup (m.insert key v).lookup := by
  intro k hk
  show (m.insert key v).lookup k = m.lookup k
  rw [lookup_insert, if_neg]
  rintro rfl
  exact hk hkey

theorem agreeOff_insert_insert (h : AgreeOff keys m.lookup m'.lookup) :
    AgreeOff keys (m.insert key v).lookup (m'.insert key v).lookup := by
  intro k hk
  have hlookup : m'.lookup k = m.lookup k := h k hk
  show (m'.insert key v).lookup k = (m.insert key v).lookup k
  rw [lookup_insert, lookup_insert, hlookup]

end Table

end Writes
