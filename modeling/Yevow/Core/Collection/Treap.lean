import Mathlib.Data.List.Perm.Basic
import Mathlib.Order.Lattice

/-!
# Treaps

A search tree whose nodes carry a priority that decides its shape. Rotations and merges keep
the in-order list of keys; on an ordered tree an insertion adds its key to that list and a
deletion removes it, whatever the priorities are.
-/

/-- A binary tree whose nodes carry a priority. -/
inductive Treap (κ π : Type)
  | leaf
  | node (left : Treap κ π) (key : κ) (priority : π) (right : Treap κ π)
  deriving DecidableEq

namespace Treap

variable {κ π : Type}

/-- The keys in order. -/
def keys : Treap κ π → List κ
  | leaf => []
  | node left key _ right => left.keys ++ key :: right.keys

@[simp] theorem keys_leaf : (leaf : Treap κ π).keys = [] := rfl

@[simp] theorem keys_node (left right : Treap κ π) (key : κ) (priority : π) :
    (node left key priority right).keys = left.keys ++ key :: right.keys := rfl

/-! ## Shape -/

/-- The left child becomes the root. -/
def rotateRight : Treap κ π → Treap κ π
  | node (node left pivot pivotPriority middle) key priority right =>
    node left pivot pivotPriority (node middle key priority right)
  | root => root

/-- The right child becomes the root. -/
def rotateLeft : Treap κ π → Treap κ π
  | node left key priority (node middle pivot pivotPriority right) =>
    node (node left key priority middle) pivot pivotPriority right
  | root => root

/-- A rotation keeps the keys in order. -/
@[simp] theorem keys_rotateRight (t : Treap κ π) : t.rotateRight.keys = t.keys := by
  cases t with
  | leaf => rfl
  | node left key priority right =>
    cases left with
    | leaf => rfl
    | node left pivot pivotPriority middle => simp [rotateRight]

@[simp] theorem keys_rotateLeft (t : Treap κ π) : t.rotateLeft.keys = t.keys := by
  cases t with
  | leaf => rfl
  | node left key priority right =>
    cases right with
    | leaf => rfl
    | node middle pivot pivotPriority right => simp [rotateLeft]

/-- The root of the tree has a priority below the given one. -/
def rootBelow [LT π] [DecidableLT π] (priority : π) : Treap κ π → Bool
  | leaf => false
  | node _ _ rootPriority _ => rootPriority < priority

section merge

variable [LT π] [DecidableLT π]

/-- The merge of a node, whose right subtree `mergeRest` merges, with a tree to its right. -/
def mergeNode (mergeRest : Treap κ π → Treap κ π) (left : Treap κ π) (key : κ) (priority : π)
    (rest : Treap κ π) : Treap κ π → Treap κ π
  | leaf => node left key priority rest
  | node left' key' priority' right' =>
    if priority < priority' then
      node left key priority (mergeRest (node left' key' priority' right'))
    else node (mergeNode mergeRest left key priority rest left') key' priority' right'

/-- The merge of two trees, all keys of the first before those of the second. -/
def merge : Treap κ π → Treap κ π → Treap κ π
  | leaf, right => right
  | node left key priority rest, right => mergeNode (merge rest) left key priority rest right

private theorem keys_mergeNode {mergeRest : Treap κ π → Treap κ π} {left rest : Treap κ π}
    {key : κ} {priority : π} (h : ∀ t, (mergeRest t).keys = rest.keys ++ t.keys)
    (right : Treap κ π) :
    (mergeNode mergeRest left key priority rest right).keys =
      left.keys ++ key :: rest.keys ++ right.keys := by
  induction right with
  | leaf => simp [mergeNode]
  | node left' key' priority' right' ihl _ =>
    rw [mergeNode]
    split
    · simp [h]
    · simp [ihl]

/-- A merge appends the keys. -/
@[simp] theorem keys_merge (left right : Treap κ π) :
    (merge left right).keys = left.keys ++ right.keys := by
  induction left generalizing right with
  | leaf => rfl
  | node left key priority rest _ ih =>
    rw [merge, keys_mergeNode ih, keys_node]

end merge

/-! ## Search order -/

variable [LinearOrder κ]

/-- The keys are in strictly ascending order. -/
def Ordered (t : Treap κ π) : Prop := t.keys.Pairwise (· < ·)

theorem ordered_leaf : (leaf : Treap κ π).Ordered := List.Pairwise.nil

private theorem pairwise_append_cons_iff {left right : List κ} {key : κ} :
    (left ++ key :: right).Pairwise (· < ·) ↔
      left.Pairwise (· < ·) ∧ right.Pairwise (· < ·) ∧ (∀ k ∈ left, k < key) ∧
        ∀ k ∈ right, key < k := by
  rw [List.pairwise_append, List.pairwise_cons]
  constructor
  · rintro ⟨hleft, ⟨hkey, hright⟩, hcross⟩
    exact ⟨hleft, hright, fun k hk => hcross k hk key List.mem_cons_self, hkey⟩
  · rintro ⟨hleft, hright, hbelow, habove⟩
    refine ⟨hleft, ⟨habove, hright⟩, fun a ha b hb => ?_⟩
    rcases List.mem_cons.mp hb with rfl | hb
    · exact hbelow a ha
    · exact (hbelow a ha).trans (habove b hb)

/-- A node is ordered if its subtrees are, on either side of its key. -/
theorem ordered_node_iff {left right : Treap κ π} {key : κ} {priority : π} :
    (node left key priority right).Ordered ↔
      left.Ordered ∧ right.Ordered ∧ (∀ k ∈ left.keys, k < key) ∧ ∀ k ∈ right.keys, key < k := by
  exact pairwise_append_cons_iff

section edit

variable [LT π] [DecidableLT π]

/-- A key goes to its place and up by its priority. -/
def insert (key : κ) (priority : π) : Treap κ π → Treap κ π
  | leaf => node leaf key priority leaf
  | node left rootKey rootPriority right =>
    if key < rootKey then
      let left' := insert key priority left
      if left'.rootBelow rootPriority then (node left' rootKey rootPriority right).rotateRight
      else node left' rootKey rootPriority right
    else if rootKey < key then
      let right' := insert key priority right
      if right'.rootBelow rootPriority then (node left rootKey rootPriority right').rotateLeft
      else node left rootKey rootPriority right'
    else node left rootKey rootPriority right

/-- A node gives way to its merged subtrees. -/
def delete (key : κ) : Treap κ π → Treap κ π
  | leaf => leaf
  | node left rootKey rootPriority right =>
    if key < rootKey then node (delete key left) rootKey rootPriority right
    else if rootKey < key then node left rootKey rootPriority (delete key right)
    else merge left right

private theorem keys_insert_node (key : κ) (priority : π) (left right : Treap κ π) (rootKey : κ)
    (rootPriority : π) :
    (insert key priority (node left rootKey rootPriority right)).keys =
      if key < rootKey then (insert key priority left).keys ++ rootKey :: right.keys
      else if rootKey < key then left.keys ++ rootKey :: (insert key priority right).keys
      else left.keys ++ rootKey :: right.keys := by
  rw [insert]
  by_cases hlt : key < rootKey
  · rw [if_pos hlt, if_pos hlt]
    dsimp only
    split <;> simp
  · rw [if_neg hlt, if_neg hlt]
    by_cases hgt : rootKey < key
    · rw [if_pos hgt, if_pos hgt]
      dsimp only
      split <;> simp
    · rw [if_neg hgt, if_neg hgt, keys_node]

/-- An insertion adds its key and no other. -/
theorem mem_keys_insert {key k : κ} {priority : π} {t : Treap κ π} :
    k ∈ (insert key priority t).keys ↔ k = key ∨ k ∈ t.keys := by
  induction t with
  | leaf => simp [insert]
  | node left rootKey rootPriority right ihl ihr =>
    rw [keys_insert_node, keys_node]
    split_ifs with hlt hgt
    · simp only [List.mem_append, List.mem_cons, ihl]
      tauto
    · simp only [List.mem_append, List.mem_cons, ihr]
      tauto
    · have hsame : key = rootKey := le_antisymm (not_lt.mp hgt) (not_lt.mp hlt)
      subst hsame
      simp only [List.mem_append, List.mem_cons]
      tauto

/-- An insertion keeps the order. -/
theorem Ordered.insert {t : Treap κ π} (h : t.Ordered) (key : κ) (priority : π) :
    (insert key priority t).Ordered := by
  induction t with
  | leaf => simp [Treap.insert, Ordered]
  | node left rootKey rootPriority right ihl ihr =>
    obtain ⟨hleft, hright, hbelow, habove⟩ := ordered_node_iff.mp h
    unfold Ordered
    rw [keys_insert_node]
    split_ifs with hlt hgt
    · refine pairwise_append_cons_iff.mpr ⟨ihl hleft, hright, ?_, habove⟩
      intro k hk
      rcases mem_keys_insert.mp hk with rfl | hk
      · exact hlt
      · exact hbelow k hk
    · refine pairwise_append_cons_iff.mpr ⟨hleft, ihr hright, hbelow, ?_⟩
      intro k hk
      rcases mem_keys_insert.mp hk with rfl | hk
      · exact hgt
      · exact habove k hk
    · exact h

/-- A deletion removes its key and nothing else. -/
theorem Ordered.keys_delete {t : Treap κ π} (h : t.Ordered) (key : κ) :
    (delete key t).keys = t.keys.filter (· ≠ key) := by
  induction t with
  | leaf => rfl
  | node left rootKey rootPriority right ihl ihr =>
    obtain ⟨hleft, hright, hbelow, habove⟩ := ordered_node_iff.mp h
    have hkeepLeft : ∀ k, rootKey ≤ k → left.keys.filter (· ≠ k) = left.keys := by
      intro k hk
      rw [List.filter_eq_self]
      intro a ha
      simpa using ((hbelow a ha).trans_le hk).ne
    have hkeepRight : ∀ k, k ≤ rootKey → right.keys.filter (· ≠ k) = right.keys := by
      intro k hk
      rw [List.filter_eq_self]
      intro a ha
      simpa using (hk.trans_lt (habove a ha)).ne'
    rw [delete, keys_node, List.filter_append, List.filter_cons]
    rcases lt_trichotomy key rootKey with hlt | rfl | hgt
    · rw [if_pos hlt, keys_node, ihl hleft, hkeepRight key hlt.le,
        if_pos (decide_eq_true hlt.ne')]
    · rw [if_neg (lt_irrefl key), if_neg (lt_irrefl key), keys_merge, hkeepLeft key le_rfl,
        hkeepRight key le_rfl, if_neg (by simp)]
    · rw [if_neg hgt.asymm, if_pos hgt, keys_node, ihr hright, hkeepLeft key hgt.le,
        if_pos (decide_eq_true hgt.ne)]

/-- A deletion keeps the order. -/
theorem Ordered.delete {t : Treap κ π} (h : t.Ordered) (key : κ) : (delete key t).Ordered := by
  unfold Ordered
  rw [h.keys_delete]
  exact h.filter _

end edit

end Treap
