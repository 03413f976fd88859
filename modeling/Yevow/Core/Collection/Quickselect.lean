import Mathlib.Data.List.Sort

/-!
# Selection in place

A list is rearranged around pivots until the element of a given rank stands at its place. All
reads and writes may miss the list, and then nothing is returned; within the bounds of the list
they never do, and what is selected is what the sorted list has at that place.
-/

namespace Quickselect

variable {α : Type}

section Definitions

variable [LT α] [DecidableLT α]

/-- Exchange two elements. -/
def swap (values : List α) (left right : ℕ) : Option (List α) := do
  let temp ← values[left]?
  let value ← values[right]?
  pure ((values.set left value).set right temp)

/-- So many steps of the loop that moves what is below the pivot to the front. -/
def partitionFrom (pivotValue : α) : ℕ → ℕ → ℕ → List α → Option (ℕ × List α)
  | 0, _, storeIndex, values => some (storeIndex, values)
  | steps + 1, index, storeIndex, values => do
    let value ← values[index]?
    if value < pivotValue then
      partitionFrom pivotValue steps (index + 1) (storeIndex + 1) (← swap values storeIndex index)
    else partitionFrom pivotValue steps (index + 1) storeIndex values

/-- Partition around the pivot at an index, and the place it gets. -/
def partition (values : List α) (left right pivotIndex : ℕ) : Option (ℕ × List α) := do
  let pivotValue ← values[pivotIndex]?
  let values ← swap values pivotIndex right
  let (storeIndex, values) ← partitionFrom pivotValue (right - left) left left values
  let values ← swap values right storeIndex
  pure (storeIndex, values)

/-- The pivot ends among the places that were scanned. -/
theorem partitionFrom_bounds {pivotValue : α} {steps index storeIndex p : ℕ}
    {values values' : List α}
    (h : partitionFrom pivotValue steps index storeIndex values = some (p, values')) :
    storeIndex ≤ p ∧ p ≤ storeIndex + steps := by
  induction steps generalizing index storeIndex values with
  | zero =>
    obtain ⟨rfl, -⟩ := Prod.mk.inj (Option.some.inj h)
    omega
  | succ steps ih =>
    simp only [partitionFrom, Option.bind_eq_bind, Option.bind_eq_some_iff] at h
    obtain ⟨value, -, h⟩ := h
    split_ifs at h
    · obtain ⟨swapped, -, h⟩ := Option.bind_eq_some_iff.mp h
      have := ih h
      omega
    · have := ih h
      omega

/-- The pivot gets a place between the ends. -/
theorem partition_bounds {values values' : List α} {left right pivotIndex p : ℕ}
    (h : partition values left right pivotIndex = some (p, values')) (hle : left ≤ right) :
    left ≤ p ∧ p ≤ right := by
  simp only [partition, Option.bind_eq_bind, Option.bind_eq_some_iff] at h
  obtain ⟨pivotValue, -, swapped, -, ⟨storeIndex, stored⟩, hfrom, last, -, h⟩ := h
  obtain ⟨rfl, -⟩ := Prod.mk.inj (Option.some.inj h)
  have := partitionFrom_bounds hfrom
  omega

/-- Narrow the bounds around the target until the pivot stands there. -/
def quickSelect (values : List α) (low high target : ℕ) : Option α :=
  if _hlow : low < high then
    match hpartition : partition values low high ((low + high) / 2) with
    | none => none
    | some (pivotIndex, values) =>
      if target = pivotIndex then values[target]?
      else if target < pivotIndex then quickSelect values low (pivotIndex - 1) target
      else quickSelect values (pivotIndex + 1) high target
  else values[target]?
termination_by high - low
decreasing_by
  · have := partition_bounds hpartition _hlow.le
    omega
  · have := partition_bounds hpartition _hlow.le
    omega

/-- Selection goes on in the half that holds the target. -/
theorem quickSelect_of_partition {values values' : List α} {low high target p : ℕ}
    (hlow : low < high)
    (hpartition : partition values low high ((low + high) / 2) = some (p, values')) :
    quickSelect values low high target =
      if target = p then values'[target]?
      else if target < p then quickSelect values' low (p - 1) target
      else quickSelect values' (p + 1) high target := by
  rw [quickSelect, dif_pos hlow]
  split
  case h_1 hnone =>
    rw [hpartition] at hnone
    cases hnone
  case h_2 hsome =>
    rw [hpartition] at hsome
    obtain ⟨rfl, rfl⟩ := Prod.mk.inj (Option.some.inj hsome)
    rfl

theorem quickSelect_of_not_lt {values : List α} {low high target : ℕ} (h : ¬low < high) :
    quickSelect values low high target = values[target]? := by
  rw [quickSelect, dif_neg h]

end Definitions

/-! ## Rearrangements -/

/-- The elements of a range are exchanged among each other, and the others keep their places. -/
structure Rearranged (left right : ℕ) (xs ys : List α) : Prop where
  perm : ys.Perm xs
  source : ∀ k, ∃ j, ys[k]? = xs[j]? ∧ (k = j ∨ left ≤ k ∧ k ≤ right ∧ left ≤ j ∧ j ≤ right)

variable {left right i j : ℕ} {xs ys zs : List α}

theorem Rearranged.refl (left right : ℕ) (xs : List α) : Rearranged left right xs xs :=
  ⟨.rfl, fun k => ⟨k, rfl, .inl rfl⟩⟩

theorem Rearranged.trans (h : Rearranged left right xs ys) (h' : Rearranged left right ys zs) :
    Rearranged left right xs zs := by
  refine ⟨h'.perm.trans h.perm, fun k => ?_⟩
  obtain ⟨j, hj, hplace⟩ := h'.source k
  obtain ⟨i, hi, hplace'⟩ := h.source j
  exact ⟨i, hj.trans hi, by omega⟩

/-- Two elements of a list can be exchanged. -/
theorem swap_spec (hi : i < xs.length) (hj : j < xs.length) :
    ∃ ys, swap xs i j = some ys ∧ ys.Perm xs ∧
      ∀ k, ys[k]? = if k = j then xs[i]? else if k = i then xs[j]? else xs[k]? := by
  refine ⟨(xs.set i xs[j]).set j xs[i], ?_, List.set_set_perm hi hj, ?_⟩
  · simp [swap, List.getElem?_eq_getElem hi, List.getElem?_eq_getElem hj]
  · intro k
    rw [List.getElem?_set, List.getElem?_set, List.length_set]
    by_cases hkj : j = k
    · subst hkj
      rw [if_pos rfl, if_pos hj, if_pos rfl, List.getElem?_eq_getElem hi]
    · rw [if_neg hkj, if_neg (Ne.symm hkj)]
      by_cases hki : i = k
      · subst hki
        rw [if_pos rfl, if_pos hi, if_pos rfl, List.getElem?_eq_getElem hj]
      · rw [if_neg hki, if_neg (Ne.symm hki)]

/-- A swap within the bounds rearranges within them. -/
theorem Rearranged.swap (h : Rearranged left right xs ys) (hi : left ≤ i ∧ i ≤ right)
    (hj : left ≤ j ∧ j ≤ right) (hperm : zs.Perm ys)
    (hzs : ∀ k, zs[k]? = if k = j then ys[i]? else if k = i then ys[j]? else ys[k]?) :
    Rearranged left right xs zs := by
  refine h.trans ⟨hperm, fun k => ?_⟩
  rw [hzs k]
  split_ifs with hkj hki
  · exact ⟨i, rfl, by omega⟩
  · exact ⟨j, rfl, by omega⟩
  · exact ⟨k, rfl, .inl rfl⟩

/-! ## Partitions -/

section Order

variable [LinearOrder α] {pivotValue : α}

/-- Below the place that is filled next are smaller elements, and up to the index the others. -/
structure Zones (pivotValue : α) (left storeIndex index : ℕ) (xs : List α) : Prop where
  below : ∀ k v, left ≤ k → k < storeIndex → xs[k]? = some v → v < pivotValue
  above : ∀ k v, storeIndex ≤ k → k < index → xs[k]? = some v → pivotValue ≤ v

/-- An element below the pivot is exchanged with the first one of the others. -/
theorem Zones.swap {storeIndex index : ℕ} (h : Zones pivotValue left storeIndex index ys)
    (hstore : storeIndex ≤ index) {value : α} (hvalue : ys[index]? = some value)
    (hlt : value < pivotValue)
    (hzs : ∀ k, zs[k]? = if k = index then ys[storeIndex]? else
      if k = storeIndex then ys[index]? else ys[k]?) :
    Zones pivotValue left (storeIndex + 1) (index + 1) zs := by
  constructor
  · intro k v hleft hk hv
    by_cases hkeq : k = storeIndex
    · have hmoved : zs[k]? = ys[index]? := by
        rw [hzs]
        split_ifs with hkindex
        · rw [← hkindex, hkeq]
        · rfl
      rw [hmoved, hvalue] at hv
      rwa [← Option.some.inj hv]
    · rw [hzs, if_neg (by omega), if_neg hkeq] at hv
      exact h.below k v hleft (by omega) hv
  · intro k v hk hkindex hv
    by_cases hkeq : k = index
    · rw [hzs, if_pos hkeq] at hv
      exact h.above storeIndex v le_rfl (by omega) hv
    · rw [hzs, if_neg hkeq, if_neg (by omega)] at hv
      exact h.above k v (by omega) (by omega) hv

/-- Another element stays where it is. -/
theorem Zones.keep {storeIndex index : ℕ} (h : Zones pivotValue left storeIndex index ys)
    {value : α} (hvalue : ys[index]? = some value) (hnot : ¬value < pivotValue) :
    Zones pivotValue left storeIndex (index + 1) ys := by
  refine ⟨h.below, fun k v hk hkindex hv => ?_⟩
  by_cases hkeq : k = index
  · rw [hkeq, hvalue] at hv
    rw [← Option.some.inj hv]
    exact not_lt.mp hnot
  · exact h.above k v hk (by omega) hv

/-- The loop sorts the elements into the zones and leaves the pivot at the end. -/
theorem partitionFrom_spec {steps index storeIndex : ℕ} (hlength : right < ys.length)
    (hsteps : index + steps = right) (hleft : left ≤ storeIndex) (hstore : storeIndex ≤ index)
    (hrearranged : Rearranged left right xs ys) (hpivot : ys[right]? = some pivotValue)
    (hzones : Zones pivotValue left storeIndex index ys) :
    ∃ p zs, partitionFrom pivotValue steps index storeIndex ys = some (p, zs) ∧
      left ≤ p ∧ p ≤ right ∧ Rearranged left right xs zs ∧ zs[right]? = some pivotValue ∧
      Zones pivotValue left p right zs := by
  induction steps generalizing index storeIndex ys with
  | zero =>
    obtain rfl : index = right := hsteps
    exact ⟨storeIndex, ys, rfl, hleft, hstore, hrearranged, hpivot, hzones⟩
  | succ steps ih =>
    have hindex : index < ys.length := by omega
    have hvalue : ys[index]? = some ys[index] := List.getElem?_eq_getElem hindex
    simp only [partitionFrom, hvalue, Option.bind_eq_bind, Option.bind_some]
    split_ifs with hlt
    · obtain ⟨zs, hswap, hperm, hzs⟩ := swap_spec (by omega : storeIndex < ys.length) hindex
      rw [hswap]
      apply ih
      · rw [hperm.length_eq]
        exact hlength
      · omega
      · omega
      · omega
      · exact hrearranged.swap (by omega) (by omega) hperm hzs
      · rw [hzs, if_neg (by omega), if_neg (by omega)]
        exact hpivot
      · exact hzones.swap hstore hvalue hlt hzs
    · exact ih hlength (by omega) hleft (by omega) hrearranged hpivot (hzones.keep hvalue hlt)

/-- The pivot is placed between smaller elements and the others. -/
theorem partition_spec {pivotIndex : ℕ} (hlength : right < xs.length) (hleft : left ≤ pivotIndex)
    (hright : pivotIndex ≤ right) :
    ∃ p zs, partition xs left right pivotIndex = some (p, zs) ∧ left ≤ p ∧ p ≤ right ∧
      Rearranged left right xs zs ∧ ∃ pivotValue, zs[p]? = some pivotValue ∧
        Zones pivotValue left p (right + 1) zs := by
  have hpivot : pivotIndex < xs.length := by omega
  obtain ⟨ys, hswap, hperm, hys⟩ := swap_spec hpivot hlength
  have hend : ys[right]? = some xs[pivotIndex] := by
    rw [hys, if_pos rfl]
    exact List.getElem?_eq_getElem hpivot
  have hlength' : right < ys.length := by rwa [hperm.length_eq]
  have hsteps : left + (right - left) = right := by omega
  obtain ⟨p, zs, hfrom, hp, hp', hzs, hlast, hzones⟩ := partitionFrom_spec hlength' hsteps
    le_rfl le_rfl
    ((Rearranged.refl left right xs).swap ⟨hleft, hright⟩ (by omega) hperm hys) hend
    ⟨fun k v hk hk' => by omega, fun k v hk hk' => by omega⟩
  have hp'' : p < zs.length := by
    rw [hzs.perm.length_eq]
    omega
  obtain ⟨us, hplace, hperm', hus⟩ := swap_spec (i := right) (by rwa [hzs.perm.length_eq]) hp''
  refine ⟨p, us, ?_, hp, hp', hzs.swap (by omega) ⟨hp, hp'⟩ hperm' hus, xs[pivotIndex], ?_, ?_, ?_⟩
  · simp [partition, List.getElem?_eq_getElem hpivot, hswap, hfrom, hplace]
  · rw [hus, if_pos rfl, hlast]
  · intro k v hk hkp hv
    rw [hus, if_neg (by omega), if_neg (by omega)] at hv
    exact hzones.below k v hk hkp hv
  · intro k v hk hkright hv
    rw [hus] at hv
    split_ifs at hv with hkp hkend
    · rw [hlast] at hv
      exact (Option.some.inj hv).le
    · exact hzones.above p v le_rfl (by omega) hv
    · exact hzones.above k v hk (by omega) hv

/-! ## Selection -/

/-- No element before the cut is above one behind it. -/
def Split (cut : ℕ) (xs : List α) : Prop :=
  ∀ i j a b, i < cut → cut ≤ j → xs[i]? = some a → xs[j]? = some b → a ≤ b

/-- Exchanges on one side of a cut keep it. -/
theorem Split.rearranged {cut : ℕ} (h : Split cut xs) (hys : Rearranged left right xs ys)
    (hcut : cut ≤ left ∨ right < cut) : Split cut ys := by
  intro i j a b hi hj ha hb
  obtain ⟨i', hsource, hplace⟩ := hys.source i
  obtain ⟨j', hsource', hplace'⟩ := hys.source j
  rw [hsource] at ha
  rw [hsource'] at hb
  exact h i' j' a b (by omega) (by omega) ha hb

/-- A partition splits the list before its pivot and behind it. -/
theorem split_pivot {p : ℕ} (hlow : Split left xs) (hhigh : Split (right + 1) xs)
    (hp : left ≤ p) (hp' : p ≤ right) (hpivot : xs[p]? = some pivotValue)
    (hzones : Zones pivotValue left p (right + 1) xs) : Split p xs ∧ Split (p + 1) xs := by
  have hbelow : ∀ i a, i ≤ p → xs[i]? = some a → a ≤ pivotValue := by
    intro i a hi ha
    rcases lt_or_eq_of_le hi with hlt | rfl
    · by_cases hleft : left ≤ i
      · exact (hzones.below i a hleft hlt ha).le
      · exact hlow i p a pivotValue (by omega) hp ha hpivot
    · rw [hpivot] at ha
      exact (Option.some.inj ha).ge
  have habove : ∀ j b, p ≤ j → xs[j]? = some b → pivotValue ≤ b := by
    intro j b hj hb
    by_cases hright : j < right + 1
    · exact hzones.above j b hj hright hb
    · exact hhigh p j pivotValue b (by omega) (by omega) hpivot hb
  constructor
  · intro i j a b hi hj ha hb
    exact (hbelow i a hi.le ha).trans (habove j b hj hb)
  · intro i j a b hi hj ha hb
    exact (hbelow i a (by omega) ha).trans (habove j b (by omega) hb)

/-- Between two cuts stands what the sorted list has there. -/
theorem getElem?_of_split {target : ℕ} (hlength : target < xs.length) (hbefore : Split target xs)
    (hbehind : Split (target + 1) xs) :
    xs[target]? = (xs.insertionSort (· ≤ ·))[target]? := by
  have htarget := List.getElem?_eq_getElem hlength
  have hsorted : xs.insertionSort (· ≤ ·) = (xs.take target).insertionSort (· ≤ ·) ++
      xs[target] :: (xs.drop (target + 1)).insertionSort (· ≤ ·) := by
    have hperm : xs.Perm ((xs.take target).insertionSort (· ≤ ·) ++
        xs[target] :: (xs.drop (target + 1)).insertionSort (· ≤ ·)) := by
      calc xs = xs.take target ++ xs[target] :: xs.drop (target + 1) := by
            rw [List.getElem_cons_drop, List.take_append_drop]
        List.Perm _ _ := ((List.perm_insertionSort _ _).symm).append
            ((List.perm_insertionSort _ _).symm.cons _)
    refine List.Perm.eq_of_pairwise' (List.pairwise_insertionSort _ _) ?_
      ((List.perm_insertionSort _ _).trans hperm)
    rw [List.pairwise_append, List.pairwise_cons]
    refine ⟨List.pairwise_insertionSort _ _, ⟨?_, List.pairwise_insertionSort _ _⟩, ?_⟩
    · intro b hb
      obtain ⟨j, hj⟩ := List.mem_iff_getElem?.mp ((List.mem_insertionSort _).mp hb)
      rw [List.getElem?_drop] at hj
      exact hbehind target _ _ b (by omega) (by omega) htarget hj
    · intro a ha b hb
      obtain ⟨i, hi⟩ := List.mem_iff_getElem?.mp ((List.mem_insertionSort _).mp ha)
      rw [List.getElem?_take] at hi
      split_ifs at hi with hlt
      rcases List.mem_cons.mp hb with rfl | hb
      · exact hbefore i target a _ hlt le_rfl hi htarget
      · obtain ⟨j, hj⟩ := List.mem_iff_getElem?.mp ((List.mem_insertionSort _).mp hb)
        rw [List.getElem?_drop] at hj
        exact hbefore i _ a b hlt (by omega) hi hj
  rw [hsorted, List.getElem?_append_right (by simp), List.length_insertionSort,
    List.length_take, min_eq_left hlength.le, Nat.sub_self, List.getElem?_cons_zero, htarget]

/-- Quickselect finds what the sorted list has at the target. -/
theorem quickSelect_eq {low high target : ℕ} (hlow : low ≤ target) (hhigh : target ≤ high)
    (hlength : high < xs.length) (hsplit : Split low xs) (hsplit' : Split (high + 1) xs) :
    quickSelect xs low high target = (xs.insertionSort (· ≤ ·))[target]? := by
  induction hwidth : high - low using Nat.strong_induction_on generalizing xs low high with
  | h width ih =>
    by_cases hlt : low < high
    · obtain ⟨p, zs, hpartition, hp, hp', hzs, pivotValue, hpivot, hzones⟩ :=
        partition_spec hlength (by omega : low ≤ (low + high) / 2) (by omega)
      have hlow' := hsplit.rearranged hzs (.inl le_rfl)
      have hhigh' := hsplit'.rearranged hzs (.inr (by omega))
      obtain ⟨hbefore, hbehind⟩ := split_pivot hlow' hhigh' hp hp' hpivot hzones
      have hlengths : zs.length = xs.length := hzs.perm.length_eq
      have hsorted : zs.insertionSort (· ≤ ·) = xs.insertionSort (· ≤ ·) :=
        List.Perm.eq_of_pairwise' (List.pairwise_insertionSort _ _)
          (List.pairwise_insertionSort _ _) (((List.perm_insertionSort _ _).trans hzs.perm).trans
            (List.perm_insertionSort _ _).symm)
      rw [quickSelect_of_partition hlt hpartition, ← hsorted]
      split_ifs with heq hless
      · rw [← heq] at hbefore hbehind
        exact getElem?_of_split (by omega) hbefore hbehind
      · have hcut : p - 1 + 1 = p := by omega
        exact ih _ (by omega) hlow (by omega) (by omega) hlow' (by rwa [hcut]) rfl
      · exact ih _ (by omega) (by omega) hhigh (by omega) hbehind hhigh' rfl
    · obtain rfl : low = target := by omega
      obtain rfl : high = low := by omega
      rw [quickSelect_of_not_lt hlt]
      exact getElem?_of_split hlength hsplit hsplit'

/-- Over a whole list that is not empty, quickselect finds the element of any rank. -/
theorem quickSelect_eq_getElem? {target : ℕ} (htarget : target < xs.length) :
    quickSelect xs 0 (xs.length - 1) target = (xs.insertionSort (· ≤ ·))[target]? := by
  apply quickSelect_eq (Nat.zero_le _) (by omega) (by omega)
  · intro i j a b hi
    omega
  · intro i j a b hi hj ha hb
    rw [List.getElem?_eq_none (by omega)] at hb
    cases hb

end Order

end Quickselect
