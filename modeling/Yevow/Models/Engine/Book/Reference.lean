import Mathlib.Data.Finsupp.Basic
import Yevow.Core.Collection.Support
import Yevow.Core.Control.Except
import Yevow.Models.Engine.Book.SortedBookSide

/-!
# The reference of a book side

What a side is meant to hold is a finitely supported map from raw prices, counted in units
of `0.00000001`, to sizes. Its levels are the prices grouped to the tick, in the order of the
side, with the sum of the sizes of each group. The sorted side represents such a map when
prices are exact multiples of the unit and nothing is rounded.
-/

namespace Yevow.Engine

open Arithmetic (mathRound)

/-! ## Grouping -/

/-- The price grouped down to the tick for bids and up for asks. -/
def groupPrice (tickSize : ℚ) (side : OrderBookSide) (price : ℚ) : ℚ :=
  if tickSize ≤ 0 then price
  else match side with
    | .bid => ⌊price / tickSize⌋ * tickSize
    | .ask => ⌈price / tickSize⌉ * tickSize

/-- The group of a raw price; both are counted in units. -/
def groupKey (tickSize : ℚ) (side : OrderBookSide) (units : ℤ) : ℤ :=
  mathRound (groupPrice tickSize side (units / 10 ^ 8) * 10 ^ 8)

/-- The price is a whole number of units. -/
def InUnits (price : ℚ) (units : ℤ) : Prop := price = units / 10 ^ 8

theorem mathRound_intCast (n : ℤ) : mathRound n = n := by
  unfold mathRound
  rw [Int.floor_eq_iff]
  constructor
  · linarith
  · linarith

namespace ReferenceSide

variable (tickSize : ℚ) (side : OrderBookSide) (reference : ℤ →₀ ℚ)

/-- The groups that hold a size. -/
def groups : Finset ℤ := reference.support.image (groupKey tickSize side)

/-- The size of the raw prices that share a level. -/
def groupSize (key : ℤ) : ℚ :=
  ∑ units ∈ reference.support with groupKey tickSize side units = key, reference units

/-- The groups in the order of the side: descending for bids, ascending for asks. -/
def keys : List ℤ :=
  match side with
  | .bid => (groups tickSize side reference).sort (· ≥ ·)
  | .ask => (groups tickSize side reference).sort (· ≤ ·)

/-- The price and the size of each level. -/
def levels : List (ℚ × ℚ) :=
  (keys tickSize side reference).map fun (key : ℤ) =>
    ((key : ℚ) / 10 ^ 8, groupSize tickSize side reference key)

variable {tickSize side reference}

private theorem mem_groups {key : ℤ} : key ∈ groups tickSize side reference ↔
    ∃ units, reference units ≠ 0 ∧ groupKey tickSize side units = key := by
  simp [groups]

/-- A new size at a price leaves the groups of the other prices alone. -/
theorem mem_groups_update_of_ne {units key : ℤ} {size : ℚ}
    (hkey : groupKey tickSize side units ≠ key) :
    key ∈ groups tickSize side (reference.update units size) ↔
      key ∈ groups tickSize side reference := by
  rw [mem_groups, mem_groups]
  refine exists_congr fun raw => and_congr_left fun hraw => ?_
  have hne : raw ≠ units := by
    rintro rfl
    exact hkey hraw
  rw [Finsupp.coe_update, Function.update_of_ne hne]

end ReferenceSide

/-! ## Representation -/

open ReferenceSide

/-- A node of the index shows one group of the reference. -/
structure NodeRepresents (tickSize : ℚ) (side : OrderBookSide) (reference : ℤ →₀ ℚ) (key : ℤ)
    (node : BookNode) : Prop where
  price : node.level.price = key / 10 ^ 8
  size : node.level.size = node.rawSizes.rows.sum
  raw : ∀ units size, node.rawSizes.get? units = some size ↔
    (reference units ≠ 0 ∧ groupKey tickSize side units = key) ∧ size = reference units

/-- A side holds a reference: its index has a node for each group, its tree the keys of the
index in order. -/
structure Represents (tickSize : ℚ) (book : SortedBookSide) (reference : ℤ →₀ ℚ) : Prop where
  ordered : book.root.Ordered
  keys : ∀ key, key ∈ book.root.keys ↔ key ∈ groups tickSize book.side reference
  present : ∀ key, key ∈ groups tickSize book.side reference ↔
    ∃ node, book.nodes.get? key = some node
  node : ∀ key node, book.nodes.get? key = some node →
    NodeRepresents tickSize book.side reference key node

private theorem sumRawSizes_unrounded (rawSizes : Rows ℤ ℚ) :
    sumRawSizes .unrounded rawSizes = rawSizes.rows.sum :=
  List.sum_eq_foldl.symm

section Represents

variable {tickSize : ℚ} {side : OrderBookSide} {reference : ℤ →₀ ℚ} {book : SortedBookSide}

/-- The size of a level is the sum of the sizes of its group. -/
theorem NodeRepresents.size_eq {key : ℤ} {node : BookNode}
    (h : NodeRepresents tickSize side reference key node) :
    node.level.size = groupSize tickSize side reference key := by
  rw [h.size]
  apply Rows.sum_rows
  intro units size
  rw [h.raw, Finset.mem_filter, Finsupp.mem_support_iff]

/-- A new size at a price leaves the nodes of the other groups alone. -/
theorem NodeRepresents.update_of_ne {units key : ℤ} {size : ℚ} {node : BookNode}
    (h : NodeRepresents tickSize side reference key node)
    (hkey : groupKey tickSize side units ≠ key) :
    NodeRepresents tickSize side (reference.update units size) key node := by
  refine ⟨h.price, h.size, fun raw s => ?_⟩
  rw [h.raw, Finsupp.coe_update]
  by_cases hraw : raw = units
  · subst hraw
    simp [hkey]
  · rw [Function.update_of_ne hraw]

/-- The empty side holds nothing. -/
theorem represents_empty (tickSize : ℚ) (side : OrderBookSide) :
    Represents tickSize (.empty side) 0 where
  ordered := Treap.ordered_leaf
  keys key := by simp [SortedBookSide.empty, groups]
  present key := by simp [SortedBookSide.empty, groups]
  node key node h := by simp [SortedBookSide.empty] at h

/-- A side whose changed node shows its group again holds the changed reference. -/
private theorem Represents.setNode (h : Represents tickSize book reference) {units : ℤ}
    {size : ℚ} {node : BookNode} {root : Treap ℤ UInt32}
    (hgroup : groupKey tickSize book.side units ∈
      groups tickSize book.side (reference.update units size))
    (hnode : NodeRepresents tickSize book.side (reference.update units size)
      (groupKey tickSize book.side units) node)
    (hordered : root.Ordered)
    (hkeys : ∀ key, key ∈ root.keys ↔
      key = groupKey tickSize book.side units ∨ key ∈ book.root.keys) :
    Represents tickSize
      { book with root := root, nodes := book.nodes.set (groupKey tickSize book.side units) node }
      (reference.update units size) where
  ordered := hordered
  keys key := by
    rw [hkeys, h.keys]
    by_cases hk : groupKey tickSize book.side units = key
    · subst hk
      simpa using hgroup
    · rw [mem_groups_update_of_ne hk]
      simp [Ne.symm hk]
  present key := by
    simp only [Rows.get?_set]
    by_cases hk : groupKey tickSize book.side units = key
    · subst hk
      simpa using hgroup
    · rw [mem_groups_update_of_ne hk, h.present, if_neg (Ne.symm hk)]
  node key n hn := by
    simp only [Rows.get?_set] at hn
    split_ifs at hn with hk
    · obtain rfl := Option.some.inj hn
      rw [hk]
      exact hnode
    · exact (h.node key n hn).update_of_ne (Ne.symm hk)

/-- A side without a group that has become empty holds the changed reference. -/
private theorem Represents.deleteNode (h : Represents tickSize book reference) {units : ℤ}
    {size : ℚ}
    (hgroup : groupKey tickSize book.side units ∉
      groups tickSize book.side (reference.update units size)) :
    Represents tickSize
      { book with
        root := book.root.delete (groupKey tickSize book.side units)
        nodes := book.nodes.delete (groupKey tickSize book.side units) }
      (reference.update units size) where
  ordered := h.ordered.delete _
  keys key := by
    rw [h.ordered.keys_delete, List.mem_filter, h.keys]
    by_cases hk : groupKey tickSize book.side units = key
    · subst hk
      simpa using hgroup
    · rw [mem_groups_update_of_ne hk]
      simp [Ne.symm hk]
  present key := by
    simp only [Rows.get?_delete]
    by_cases hk : groupKey tickSize book.side units = key
    · subst hk
      simpa using hgroup
    · rw [mem_groups_update_of_ne hk, h.present, if_neg (Ne.symm hk)]
  node key n hn := by
    simp only [Rows.get?_delete] at hn
    split_ifs at hn with hk
    exact (h.node key n hn).update_of_ne (Ne.symm hk)

private theorem raw_set {rawSizes : Rows ℤ ℚ} {units : ℤ} {size : ℚ}
    (h : ∀ raw s, rawSizes.get? raw = some s ↔ (reference raw ≠ 0 ∧
      groupKey tickSize side raw = groupKey tickSize side units) ∧ s = reference raw)
    (hsize : size ≠ 0) (raw : ℤ) (s : ℚ) :
    (rawSizes.set units size).get? raw = some s ↔
      (reference.update units size raw ≠ 0 ∧
        groupKey tickSize side raw = groupKey tickSize side units) ∧
        s = reference.update units size raw := by
  rw [Rows.get?_set, Finsupp.coe_update]
  by_cases hraw : raw = units
  · subst hraw
    simp [hsize, eq_comm]
  · rw [if_neg hraw, h, Function.update_of_ne hraw]

private theorem raw_delete {rawSizes : Rows ℤ ℚ} {units : ℤ}
    (h : ∀ raw s, rawSizes.get? raw = some s ↔ (reference raw ≠ 0 ∧
      groupKey tickSize side raw = groupKey tickSize side units) ∧ s = reference raw)
    (raw : ℤ) (s : ℚ) :
    (rawSizes.delete units).get? raw = some s ↔
      (reference.update units 0 raw ≠ 0 ∧
        groupKey tickSize side raw = groupKey tickSize side units) ∧
        s = reference.update units 0 raw := by
  rw [Rows.get?_delete, Finsupp.coe_update]
  by_cases hraw : raw = units
  · subst hraw
    simp
  · rw [if_neg hraw, h, Function.update_of_ne hraw]

private theorem keys_of_present (h : Represents tickSize book reference) {key : ℤ}
    {node : BookNode} (hnode : book.nodes.get? key = some node) (k : ℤ) :
    k ∈ book.root.keys ↔ k = key ∨ k ∈ book.root.keys := by
  constructor
  · exact Or.inr
  · rintro (rfl | hk)
    · exact (h.keys _).mpr ((h.present _).mpr ⟨node, hnode⟩)
    · exact hk

/-- Deleting a raw level sets its size to zero in the reference. -/
theorem Represents.deleteRawLevel (h : Represents tickSize book reference) (units : ℤ) :
    Represents tickSize
      (book.deleteRawLevel .unrounded (groupKey tickSize book.side units) units)
      (reference.update units 0) := by
  unfold SortedBookSide.deleteRawLevel
  split
  · next hnone =>
    have hzero : reference units = 0 := by
      by_contra hne
      obtain ⟨node, hnode⟩ := (h.present _).mp (mem_groups.mpr ⟨units, hne, rfl⟩)
      exact absurd (hnone.symm.trans hnode) (by simp)
    have hsame : reference.update units 0 = reference := by
      rw [← hzero, Finsupp.update_self]
    rwa [hsame]
  · next existing hnode =>
    have hold := h.node _ existing hnode
    have hraw := @raw_delete tickSize book.side reference existing.rawSizes units hold.raw
    simp only
    split_ifs with hrows
    · obtain ⟨s, hs⟩ := List.exists_mem_of_length_pos hrows
      obtain ⟨raw, hs⟩ := Rows.mem_rows_iff.mp hs
      have hgroup := ((hraw raw s).mp hs).1
      exact h.setNode (mem_groups.mpr ⟨raw, hgroup⟩)
        ⟨hold.price, sumRawSizes_unrounded _, hraw⟩ h.ordered (keys_of_present h hnode)
    · apply h.deleteNode
      intro hmem
      obtain ⟨raw, hgroup⟩ := mem_groups.mp hmem
      have hs := (hraw raw _).mpr ⟨hgroup, rfl⟩
      have hpos := List.length_pos_of_mem (Rows.mem_rows_iff.mpr ⟨raw, hs⟩)
      exact hrows hpos

private theorem priceKey_unrounded {price : ℚ} {key : ℤ} (h : priceKey .unrounded price = .ok key) :
    key = mathRound (price * 10 ^ 8) := by
  unfold priceKey at h
  split_ifs at h
  exact (Except.ok.inj h).symm

private theorem bucketPrice_unrounded (price tickSize : ℚ) (side : OrderBookSide) :
    bucketPrice .unrounded price tickSize side = groupPrice tickSize side price := by
  unfold bucketPrice groupPrice
  split_ifs
  · rfl
  · cases side <;> rfl

/-- An `upsert` that does not throw sets the size of its price in the reference. -/
theorem Represents.upsert (h : Represents tickSize book reference) {price size : ℚ} {units : ℤ}
    (hprice : InUnits price units) {updatedAt : String} {book' : SortedBookSide}
    (hok : book.upsert .unrounded price size updatedAt tickSize = .ok book') :
    Represents tickSize book' (reference.update units size) ∧ book'.side = book.side := by
  unfold SortedBookSide.upsert at hok
  by_cases hneg : size < 0
  · rw [if_pos hneg] at hok
    cases hok
  rw [if_neg hneg] at hok
  obtain ⟨key, hkey, hok⟩ := Except.bind_eq_ok.mp hok
  obtain ⟨rawKey, hrawKey, hok⟩ := Except.bind_eq_ok.mp hok
  have hraw : rawKey = units := by
    rw [priceKey_unrounded hrawKey, hprice, div_mul_cancel₀ _ (by norm_num), mathRound_intCast]
  have hgroup : key = groupKey tickSize book.side units := by
    rw [priceKey_unrounded hkey, bucketPrice_unrounded, hprice]
    rfl
  subst hraw hgroup
  by_cases hsize : size = 0
  · subst hsize
    simp only [if_true, Except.pure_eq_ok, Except.ok.injEq] at hok
    subst hok
    refine ⟨h.deleteRawLevel rawKey, ?_⟩
    unfold SortedBookSide.deleteRawLevel
    split
    · rfl
    · simp only
      split_ifs <;> rfl
  · simp only [if_neg hsize] at hok
    have hmem : groupKey tickSize book.side rawKey ∈
        groups tickSize book.side (reference.update rawKey size) :=
      mem_groups.mpr ⟨rawKey, by simpa using hsize, rfl⟩
    split at hok
    · next existing hnode =>
      obtain rfl := Except.ok.inj hok
      have hold := h.node _ existing hnode
      exact ⟨h.setNode hmem ⟨hold.price, sumRawSizes_unrounded _, raw_set hold.raw hsize⟩
        h.ordered (keys_of_present h hnode), rfl⟩
    · next hnone =>
      obtain rfl := Except.ok.inj hok
      have hempty : ∀ raw s, (Rows.empty : Rows ℤ ℚ).get? raw = some s ↔
          (reference raw ≠ 0 ∧ groupKey tickSize book.side raw =
            groupKey tickSize book.side rawKey) ∧ s = reference raw := by
        intro raw s
        constructor
        · intro hs
          simp at hs
        · rintro ⟨hin, -⟩
          obtain ⟨node, hnode⟩ := (h.present _).mp (mem_groups.mpr ⟨raw, hin⟩)
          exact absurd (hnone.symm.trans hnode) (by simp)
      refine ⟨h.setNode hmem ⟨rfl, ?_, raw_set hempty hsize⟩ (h.ordered.insert _ _)
        fun k => Treap.mem_keys_insert, rfl⟩
      show size = (Rows.empty.set rawKey size).rows.sum
      simp [Rows.set, Rows.empty, Rows.rows]

/-! ## The levels of a side -/

/-- The keys of a tree in the order of a side. -/
def keysInOrder (side : OrderBookSide) (root : Treap ℤ UInt32) : List ℤ :=
  match side with
  | .bid => root.keys.reverse
  | .ask => root.keys

/-- The elements of a list that still fit below a limit, appended to an output. -/
private def fill (limit : ℕ) (output keys : List ℤ) : List ℤ :=
  output ++ keys.take (limit - output.length)

private theorem fill_fill (limit : ℕ) (output first second : List ℤ) :
    fill limit (fill limit output first) second = fill limit output (first ++ second) := by
  unfold fill
  rw [List.take_append, List.append_assoc, List.length_append, List.length_take]
  congr 3
  omega

private theorem fill_singleton (limit : ℕ) (output : List ℤ) (key : ℤ) :
    fill limit output [key] = if output.length < limit then output ++ [key] else output := by
  unfold fill
  split_ifs with h
  · rw [List.take_of_length_le (by simp; omega)]
  · simp [Nat.sub_eq_zero_of_le (not_lt.mp h)]

/-- Collecting levels lists the tree's keys in the order of the side, up to the limit. -/
private theorem collectTopLevels_eq (side : OrderBookSide) (limit : ℕ)
    (root : Treap ℤ UInt32) (output : List ℤ) :
    collectTopLevels side limit root output = fill limit output (keysInOrder side root) := by
  induction root generalizing output with
  | leaf => cases side <;> simp [collectTopLevels, keysInOrder, fill]
  | node left key priority right ihl ihr =>
    unfold collectTopLevels
    by_cases hfull : limit ≤ output.length
    · simp [fill, hfull, Nat.sub_eq_zero_of_le hfull]
    · rw [if_neg hfull]
      cases side with
      | bid =>
        simp only [ihl, ihr, ← fill_singleton, fill_fill]
        simp [keysInOrder]
      | ask =>
        simp only [ihl, ihr, ← fill_singleton, fill_fill]
        simp [keysInOrder]

/-- The first levels of a side are those of the first keys of its tree. -/
theorem SortedBookSide.top_eq_filterMap (book : SortedBookSide) (limit : ℕ) :
    book.top limit = ((keysInOrder book.side book.root).take limit).filterMap fun key =>
      (book.nodes.get? key).map BookNode.level := by
  rw [SortedBookSide.top, collectTopLevels_eq, fill, List.nil_append, List.length_nil,
    Nat.sub_zero]

/-- The tree of a side lists the groups of the reference in the order of the side. -/
theorem Represents.keysInOrder_eq (h : Represents tickSize book reference) :
    keysInOrder book.side book.root = ReferenceSide.keys tickSize book.side reference := by
  have hkeys := h.keys
  unfold keysInOrder ReferenceSide.keys
  generalize book.side = side at hkeys
  cases side with
  | bid => exact h.ordered.reverse_keys_eq_sort hkeys
  | ask => exact h.ordered.keys_eq_sort hkeys

private theorem ReferenceSide.mem_keys {key : ℤ} :
    key ∈ ReferenceSide.keys tickSize side reference ↔ key ∈ groups tickSize side reference := by
  unfold ReferenceSide.keys
  cases side <;> simp

private theorem Represents.levels_of_keys (h : Represents tickSize book reference)
    {keys : List ℤ} (hkeys : ∀ key ∈ keys, key ∈ groups tickSize book.side reference) :
    (keys.filterMap fun key => (book.nodes.get? key).map BookNode.level).map
        (fun level => (level.price, level.size)) =
      keys.map fun (key : ℤ) =>
        ((key : ℚ) / 10 ^ 8, groupSize tickSize book.side reference key) := by
  induction keys with
  | nil => rfl
  | cons key keys ih =>
    obtain ⟨node, hnode⟩ := (h.present key).mp (hkeys key List.mem_cons_self)
    have hshown := h.node key node hnode
    rw [List.filterMap_cons_some (by rw [hnode]; rfl), List.map_cons, List.map_cons,
      ih fun k hk => hkeys k (List.mem_cons_of_mem _ hk), hshown.price, hshown.size_eq]

/-- The first levels of a side are those of its reference. -/
theorem Represents.top_eq (h : Represents tickSize book reference) (limit : ℕ) :
    (book.top limit).map (fun level => (level.price, level.size)) =
      (levels tickSize book.side reference).take limit := by
  rw [SortedBookSide.top_eq_filterMap, h.keysInOrder_eq,
    h.levels_of_keys fun key hkey => mem_keys.mp (List.mem_of_mem_take hkey), levels,
    List.map_take]

private theorem price_lt {a b : ℤ} (h : a < b) : (a : ℚ) / 10 ^ 8 < (b : ℚ) / 10 ^ 8 :=
  div_lt_div_of_pos_right (by exact_mod_cast h) (by norm_num)

/-- The levels of the bids descend strictly in price. -/
theorem ReferenceSide.levels_descend (tickSize : ℚ) (reference : ℤ →₀ ℚ) :
    ((levels tickSize .bid reference).map Prod.fst).Pairwise (· > ·) := by
  rw [levels, List.map_map, List.pairwise_map]
  exact (Finset.sortedGT_sort (groups tickSize .bid reference)).pairwise.imp price_lt

/-- The levels of the asks ascend strictly in price. -/
theorem ReferenceSide.levels_ascend (tickSize : ℚ) (reference : ℤ →₀ ℚ) :
    ((levels tickSize .ask reference).map Prod.fst).Pairwise (· < ·) := by
  rw [levels, List.map_map, List.pairwise_map]
  exact (Finset.sortedLT_sort (groups tickSize .ask reference)).pairwise.imp price_lt

/-- The prices of the first levels are those of the reference. -/
theorem Represents.prices_eq (h : Represents tickSize book reference) (limit : ℕ) :
    (book.top limit).map PriceLevel.price =
      ((levels tickSize book.side reference).map Prod.fst).take limit := by
  rw [← List.map_take, ← h.top_eq, List.map_map]
  rfl

/-- The size that a side keeps at a raw price. -/
def rawSize? (tickSize : ℚ) (book : SortedBookSide) (units : ℤ) : Option ℚ :=
  (book.nodes.get? (groupKey tickSize book.side units)).bind fun node => node.rawSizes.get? units

/-- A side keeps the sizes of its reference at every raw price. -/
theorem Represents.rawSize?_eq (h : Represents tickSize book reference) (units : ℤ) :
    rawSize? tickSize book units =
      if reference units = 0 then none else some (reference units) := by
  unfold rawSize?
  split_ifs with hzero
  · rw [Option.bind_eq_none_iff]
    intro node hnode
    rw [Option.eq_none_iff_forall_ne_some]
    intro size hsize
    exact (((h.node _ node hnode).raw units size).mp hsize).1.1 hzero
  · obtain ⟨node, hnode⟩ := (h.present _).mp (mem_groups.mpr ⟨units, hzero, rfl⟩)
    rw [hnode]
    exact ((h.node _ node hnode).raw units _).mpr ⟨⟨hzero, rfl⟩, rfl⟩

end Represents

end Yevow.Engine
