import Yevow.Models.Engine.Book.Reference

/-!
# A side of an order book under changing tick sizes

Every call of `upsert` brings its own tick size, and the level a raw price belongs to is
found with the tick size of that call alone. The levels show the latest sizes of the raw
prices as long as no raw price changes its level while a size of it stands.
-/

namespace Yevow.Engine

open Arithmetic (mathRound)

namespace EngineArithmetic

/-- Amounts stay apart from zero: a stored amount is zero or at least some amount, and no sum of
such amounts falls below it. -/
structure Apart (ar : EngineArithmetic) : Prop where
  number_nonneg : ∀ {q}, 0 ≤ q → 0 ≤ ar.number q
  roundCrypto_nonneg : ∀ {q}, 0 ≤ q → 0 ≤ ar.roundCrypto q
  roundCrypto_zero : ar.roundCrypto 0 = 0
  least : ∃ amount, 0 < amount ∧ (∀ q, 0 < ar.roundCrypto q → amount ≤ ar.roundCrypto q) ∧
    (∀ q, amount ≤ q → amount ≤ ar.number q) ∧ ∀ q, amount ≤ q → ar.roundCrypto q ≠ 0

/-- No stored amount of binary64 is positive and below `2 ^ -27`. -/
theorem apart_binary64 : binary64.Apart where
  number_nonneg h := Arithmetic.double.fraction_nonneg h
  roundCrypto_nonneg {q} h := by
    have hscaled := Arithmetic.double.fraction_nonneg (show 0 ≤ q * 10 ^ 8 by positivity)
    have hround : (0 : ℚ) ≤ Arithmetic.mathRound (Arithmetic.double.fraction (q * 10 ^ 8)) := by
      exact_mod_cast Arithmetic.mathRound_nonneg hscaled
    exact Arithmetic.double.fraction_nonneg (div_nonneg hround (by norm_num))
  roundCrypto_zero := by decide +kernel
  least := by
    have hkeeps : ∀ q : ℚ, 2 ^ (-27 : ℤ) ≤ q → 2 ^ (-27 : ℤ) ≤ Arithmetic.double.fraction q :=
      fun q h => Rounding.zpow_le_roundRational (by decide) (by decide) h
    -- A whole number of units that is not zero is at least the power of two below one unit.
    have hunits : ∀ n : ℤ, 1 ≤ n → (2 : ℚ) ^ (-27 : ℤ) ≤ n / 10 ^ 8 := by
      intro n hn
      have hcast : (1 : ℚ) ≤ n := by exact_mod_cast hn
      rw [le_div_iff₀ (by norm_num)]
      norm_num at *
      linarith
    refine ⟨2 ^ (-27 : ℤ), by positivity, fun q hq => ?_, hkeeps, fun q hq => ?_⟩
    · apply hkeeps
      apply hunits
      by_contra hnone
      have hle : (Arithmetic.mathRound (Arithmetic.double.fraction (q * 10 ^ 8)) : ℚ) ≤ 0 := by
        exact_mod_cast (show Arithmetic.mathRound (Arithmetic.double.fraction (q * 10 ^ 8)) ≤ 0 by
          omega)
      have hzero := Rounding.roundRational_nonpos 53 (-1074)
        (div_nonpos_of_nonpos_of_nonneg hle (by norm_num : (0 : ℚ) ≤ 10 ^ 8))
      exact absurd hq (not_lt.mpr hzero)
    · have hscaled : (2 : ℚ) ^ (-1 : ℤ) ≤ Arithmetic.double.fraction (q * 10 ^ 8) := by
        apply Rounding.zpow_le_roundRational (by decide) (by decide)
        have := mul_le_mul_of_nonneg_right hq (show (0 : ℚ) ≤ 10 ^ 8 by norm_num)
        refine le_trans ?_ this
        norm_num
      have hround : 1 ≤ Arithmetic.mathRound (Arithmetic.double.fraction (q * 10 ^ 8)) := by
        unfold Arithmetic.mathRound
        rw [Int.le_floor]
        norm_num at *
        linarith
      have hpos : (0 : ℚ) < 2 ^ (-27 : ℤ) := by positivity
      exact (hpos.trans_le (hkeeps _ (hunits _ hround))).ne'

/-- Sums of amounts are exact, and an amount has eight decimals. -/
structure AddsUp (ar : EngineArithmetic) : Prop where
  add : ∀ a b, ar.add a b = a + b
  units : ∀ q, ∃ n : ℤ, ar.roundCrypto q = n / 10 ^ 8
  roundCrypto_units : ∀ n : ℤ, ar.roundCrypto (n / 10 ^ 8) = n / 10 ^ 8

end EngineArithmetic

variable (ar : EngineArithmetic)

/-- The arguments of one call of `upsert`. -/
structure LevelUpsert where
  price : ℚ
  size : ℚ
  updatedAt : String
  tickSize : ℚ

namespace LevelUpsert

/-- The calls that `upsert` does not reject. -/
def IsValid (call : LevelUpsert) : Prop := 0 ≤ call.price ∧ 0 ≤ call.size

instance (call : LevelUpsert) : Decidable call.IsValid :=
  inferInstanceAs (Decidable (_ ∧ _))

/-- The raw price, in units of `0.00000001`. -/
def rawKey (call : LevelUpsert) : ℤ := mathRound (ar.mul call.price (10 ^ 8))

/-- The level of the raw price under the tick size of the call. -/
def levelKey (side : OrderBookSide) (call : LevelUpsert) : ℤ :=
  mathRound (ar.mul (bucketPrice ar call.price call.tickSize side) (10 ^ 8))

/-- The size in the eight decimals a side keeps. -/
def roundedSize (call : LevelUpsert) : ℚ := ar.roundCrypto call.size

end LevelUpsert

/-! ## What was announced -/

/-- The latest size of a raw price, and the level the call that announced it meant. -/
structure Announcement where
  size : ℚ
  level : ℤ

/-- A call takes the place of the earlier announcement at its raw price. A size of zero, in
the decimals a side keeps, announces that nothing stands there. -/
def announce (side : OrderBookSide) (latest : Rows ℤ Announcement) (call : LevelUpsert) :
    Rows ℤ Announcement :=
  if call.IsValid then
    if call.roundedSize ar = 0 then latest.delete (call.rawKey ar)
    else latest.set (call.rawKey ar) ⟨call.roundedSize ar, call.levelKey ar side⟩
  else latest

/-- The announcements that stand after a run of calls on a new side. -/
def announced (side : OrderBookSide) (calls : List LevelUpsert) : Rows ℤ Announcement :=
  calls.foldl (announce ar side) Rows.empty

/-- A level shows its only size, or the sum of its sizes as a side computes it. -/
def BookNode.ShowsSizes (node : BookNode) : Prop :=
  node.level.size = sumRawSizes ar node.rawSizes ∨ node.rawSizes.rows = [node.level.size]

namespace SortedBookSide

/-- The side after a call. One that throws has changed nothing. -/
def afterUpsert (book : SortedBookSide) (call : LevelUpsert) : SortedBookSide :=
  match book.upsert ar call.price call.size call.updatedAt call.tickSize with
  | .ok book' => book'
  | .error _ => book

/-- A new side after a run of calls. -/
def afterUpserts (side : OrderBookSide) (calls : List LevelUpsert) : SortedBookSide :=
  calls.foldl (afterUpsert ar) (empty side)

/-- What a raw price contributes to a level. -/
def contribution (book : SortedBookSide) (key raw : ℤ) : Option ℚ :=
  (book.nodes.get? key).bind fun node => node.rawSizes.get? raw

/-- The sum of everything the raw prices contribute. -/
def rawTotal (book : SortedBookSide) : ℚ := book.nodes.total fun node => node.rawSizes.total id

/-- Every level of the side, best first. -/
def levels (book : SortedBookSide) : List PriceLevel := book.top book.size

/-- The levels of a side show the latest size of every raw price, each in one place. -/
structure SizesKept (book : SortedBookSide) (latest : Rows ℤ Announcement) : Prop where
  contributes : ∀ raw announcement, latest.get? raw = some announcement →
    ∃ key, ∀ k size, book.contribution k raw = some size ↔ k = key ∧ size = announcement.size
  removed : ∀ raw, latest.get? raw = none → ∀ key, book.contribution key raw = none
  shown : ∀ key node, book.nodes.get? key = some node →
    node.level ∈ book.levels ∧ node.ShowsSizes ar
  nonzero : ∀ level ∈ book.levels, level.size ≠ 0
  rawTotal : book.rawTotal = latest.total Announcement.size
  total : ar.AddsUp → (book.levels.map PriceLevel.size).sum = latest.total Announcement.size

end SortedBookSide

/-- A call leaves the raw price in the level where its size stands, and its size is zero only
where it says so. -/
def LevelUpsert.Continues (side : OrderBookSide) (latest : Rows ℤ Announcement)
    (call : LevelUpsert) : Prop :=
  (∀ standing ∈ latest.get? (call.rawKey ar), standing.level = call.levelKey ar side) ∧
    (call.roundedSize ar = 0 → call.size = 0)

instance (side : OrderBookSide) (latest : Rows ℤ Announcement) (call : LevelUpsert) :
    Decidable (call.Continues ar side latest) :=
  inferInstanceAs (Decidable ((∀ standing ∈ latest.get? (call.rawKey ar), _) ∧ (_ → _)))

/-! ## The calls as writes of raw sizes -/

namespace SortedBookSide

/-- Write the size of a raw price into a level, opening the level if need be. -/
def setRawLevel (book : SortedBookSide) (key rawKey : ℤ) (size : ℚ) (updatedAt : String) :
    SortedBookSide :=
  match book.nodes.get? key with
  | some existing =>
    let rawSizes := existing.rawSizes.set rawKey size
    { book with
      nodes := book.nodes.set key
        ⟨{ existing.level with
            size := sumRawSizes ar rawSizes
            updatedAt := updatedAt }, rawSizes⟩ }
  | none =>
    { book with
      nodes := book.nodes.set key
        ⟨⟨priceFromKey ar key, size, updatedAt⟩, Rows.empty.set rawKey size⟩
      root := book.root.insert key (priorityForKey key) }

end SortedBookSide

variable {ar}

private theorem Apart.bucketPrice_nonneg (har : ar.Apart) {price : ℚ} (h : 0 ≤ price)
    (tickSize : ℚ) (side : OrderBookSide) : 0 ≤ bucketPrice ar price tickSize side := by
  unfold bucketPrice
  split_ifs with htick
  · exact har.roundCrypto_nonneg h
  · have hticks : 0 ≤ ar.div price tickSize :=
      har.number_nonneg (div_nonneg h (not_le.mp htick).le)
    apply har.roundCrypto_nonneg
    apply har.number_nonneg
    apply mul_nonneg _ (not_le.mp htick).le
    cases side with
    | bid =>
      have hfloor : 0 ≤ ⌊ar.div price tickSize⌋ := Int.floor_nonneg.mpr hticks
      exact_mod_cast hfloor
    | ask =>
      have hceil : 0 ≤ ⌈ar.div price tickSize⌉ := Int.ceil_nonneg hticks
      exact_mod_cast hceil

private theorem priceKey_of_nonneg {price : ℚ} (h : 0 ≤ price) :
    priceKey ar price = .ok (mathRound (ar.mul price (10 ^ 8))) := if_neg (not_lt.mpr h)

namespace SortedBookSide

/-- A valid call writes or deletes the size of its raw price in the level it means. -/
theorem afterUpsert_of_valid (har : ar.Apart) (book : SortedBookSide) {call : LevelUpsert}
    (h : call.IsValid) :
    book.afterUpsert ar call =
      if call.size = 0 then book.deleteRawLevel ar (call.levelKey ar book.side) (call.rawKey ar)
      else book.setRawLevel ar (call.levelKey ar book.side) (call.rawKey ar) (call.roundedSize ar)
        call.updatedAt := by
  obtain ⟨hprice, hsize⟩ := h
  unfold afterUpsert upsert
  simp only [if_neg (not_lt.mpr hsize), priceKey_of_nonneg hprice,
    priceKey_of_nonneg (Apart.bucketPrice_nonneg har hprice _ _), Except.bind_ok]
  split_ifs with hzero
  · rfl
  · unfold setRawLevel LevelUpsert.levelKey LevelUpsert.rawKey
    cases book.nodes.get? (mathRound
      (ar.mul (bucketPrice ar call.price call.tickSize book.side) (10 ^ 8))) with
    | none => rfl
    | some existing => rfl

/-- A call that is not valid throws and leaves the side as it was. -/
theorem afterUpsert_of_not_valid (book : SortedBookSide) {call : LevelUpsert}
    (h : ¬call.IsValid) : book.afterUpsert ar call = book := by
  unfold afterUpsert upsert
  by_cases hsize : call.size < 0
  · rw [if_pos hsize]
  · have hprice : call.price < 0 := by
      by_contra hnonneg
      exact h ⟨not_lt.mp hnonneg, not_lt.mp hsize⟩
    have hraw : priceKey ar call.price = .error "INVALID_ORDER_BOOK_PRICE" := by
      rw [priceKey, if_pos hprice]
    rw [if_neg hsize, hraw]
    cases priceKey ar (bucketPrice ar call.price call.tickSize book.side) with
    | error e => rfl
    | ok key => rfl

/-! ### What a write leaves of the contributions -/

private theorem contribution_setRawLevel (book : SortedBookSide) (key rawKey : ℤ) (size : ℚ)
    (updatedAt : String) (k raw : ℤ) :
    (book.setRawLevel ar key rawKey size updatedAt).contribution k raw =
      if k = key ∧ raw = rawKey then some size else book.contribution k raw := by
  unfold contribution setRawLevel
  cases hnode : book.nodes.get? key with
  | none =>
    simp only [Rows.get?_set]
    by_cases hk : k = key
    · subst hk
      simp [hnode, Rows.get?_set]
    · simp [hk]
  | some existing =>
    simp only [Rows.get?_set]
    by_cases hk : k = key
    · subst hk
      simp [hnode, Rows.get?_set]
    · simp [hk]

private theorem get?_of_no_rows {rows : Rows ℤ ℚ} (h : ¬0 < rows.rows.length) (raw : ℤ) :
    rows.get? raw = none := by
  rw [Option.eq_none_iff_forall_ne_some]
  intro size hsize
  exact h (List.length_pos_of_mem (Rows.mem_rows_iff.mpr ⟨raw, hsize⟩))

private theorem contribution_deleteRawLevel (book : SortedBookSide) (key rawKey k raw : ℤ) :
    (book.deleteRawLevel ar key rawKey).contribution k raw =
      if k = key ∧ raw = rawKey then none else book.contribution k raw := by
  cases hnode : book.nodes.get? key with
  | none =>
    have hnothing : book.contribution key raw = none := by
      rw [contribution, hnode, Option.bind_none]
    rw [deleteRawLevel, hnode]
    split_ifs with hk
    · rw [hk.1, hnothing]
    · rfl
  | some existing =>
    have hlevel : (book.deleteRawLevel ar key rawKey).contribution k raw =
        if k = key then (existing.rawSizes.delete rawKey).get? raw
        else book.contribution k raw := by
      unfold deleteRawLevel contribution
      simp only [hnode]
      split_ifs with hrows hk hk
      · rw [Rows.get?_set, if_pos hk]
        rfl
      · rw [Rows.get?_set, if_neg hk]
      · rw [Rows.get?_delete, if_pos hk, get?_of_no_rows hrows]
        rfl
      · rw [Rows.get?_delete, if_neg hk]
    rw [hlevel, Rows.get?_delete]
    by_cases hk : k = key
    · subst hk
      simp only [true_and, if_true, contribution, hnode, Option.bind_some]
    · simp only [hk, false_and, if_false]

/-! ### What a write leaves of the total -/

private theorem rawTotal_setRawLevel (book : SortedBookSide) (key rawKey : ℤ) (size : ℚ)
    (updatedAt : String) :
    (book.setRawLevel ar key rawKey size updatedAt).rawTotal =
      book.rawTotal - (book.contribution key rawKey).getD 0 + size := by
  unfold rawTotal setRawLevel contribution
  cases hnode : book.nodes.get? key with
  | none => simp [Rows.total_set_eq_sub, hnode]
  | some existing =>
    simp only [Rows.total_set_eq_sub, hnode, Option.elim_some, Option.bind_some]
    cases existing.rawSizes.get? rawKey with
    | none =>
      simp only [Option.elim_none, Option.getD_none, id]
      ring
    | some earlier =>
      simp only [Option.elim_some, Option.getD_some, id]
      ring

private theorem rawTotal_deleteRawLevel (book : SortedBookSide) (key rawKey : ℤ) :
    (book.deleteRawLevel ar key rawKey).rawTotal =
      book.rawTotal - (book.contribution key rawKey).getD 0 := by
  unfold rawTotal deleteRawLevel contribution
  cases hnode : book.nodes.get? key with
  | none => simp
  | some existing =>
    have hrest : (existing.rawSizes.delete rawKey).total id =
        existing.rawSizes.total id - (existing.rawSizes.get? rawKey).getD 0 := by
      rw [Rows.total_delete]
      cases existing.rawSizes.get? rawKey with
      | none => rfl
      | some earlier => rfl
    simp only [Option.bind_some]
    split_ifs with hrows
    · rw [Rows.total_set_eq_sub, hnode, Option.elim_some, hrest]
      ring
    · have hnone : (existing.rawSizes.delete rawKey).total id = 0 :=
        Rows.total_eq_zero fun raw size hsize => by
          rw [get?_of_no_rows hrows] at hsize
          cases hsize
      rw [Rows.total_delete, hnode, Option.elim_some]
      linarith

end SortedBookSide

/-! ## Sides whose levels add up -/

variable (ar) in
/-- A level keeps stored sizes, and shows them. -/
structure BookNode.WellFormed (node : BookNode) : Prop where
  filled : 0 < node.rawSizes.rows.length
  stored : ∀ raw size, node.rawSizes.get? raw = some size → ∃ value, size = ar.roundCrypto value
  shown : node.ShowsSizes ar

variable (ar) in
/-- The tree of a side holds the keys of its index, whose levels add up. -/
structure SortedBookSide.WellFormed (book : SortedBookSide) : Prop where
  ordered : book.root.Ordered
  keys : ∀ key, key ∈ book.root.keys ↔ ∃ node, book.nodes.get? key = some node
  node : ∀ key node, book.nodes.get? key = some node → node.WellFormed ar

private theorem sum_units {sizes : List ℚ} (h : ∀ size ∈ sizes, ∃ n : ℤ, size = n / 10 ^ 8) :
    ∃ n : ℤ, sizes.sum = n / 10 ^ 8 := by
  induction sizes with
  | nil => exact ⟨0, by simp⟩
  | cons size sizes ih =>
    obtain ⟨m, hm⟩ := h size List.mem_cons_self
    obtain ⟨n, hn⟩ := ih fun s hs => h s (List.mem_cons_of_mem _ hs)
    refine ⟨m + n, ?_⟩
    rw [List.sum_cons, hm, hn]
    push_cast
    ring

/-- Where sums are exact a level shows the sum of its sizes. -/
private theorem BookNode.WellFormed.size_eq {node : BookNode} (h : node.WellFormed ar)
    (hadds : ar.AddsUp) : node.level.size = node.rawSizes.total id := by
  have hsum : node.rawSizes.total id = node.rawSizes.rows.sum := rfl
  rcases h.shown with hshown | hshown
  · obtain ⟨n, hn⟩ : ∃ n : ℤ, node.rawSizes.rows.sum = n / 10 ^ 8 := by
      apply sum_units
      intro size hsize
      obtain ⟨raw, hraw⟩ := Rows.mem_rows_iff.mp hsize
      obtain ⟨value, rfl⟩ := h.stored raw size hraw
      exact hadds.units value
    have hadd : ar.add = (· + ·) := by
      funext a b
      exact hadds.add a b
    have hfold : node.rawSizes.rows.foldl ar.add 0 = node.rawSizes.rows.sum := by
      rw [hadd]
      exact List.sum_eq_foldl.symm
    rw [hshown, sumRawSizes, hfold, hsum, hn, hadds.roundCrypto_units]
  · rw [hsum, hshown, List.sum_singleton]

/-- A sum of amounts is at least one of them. -/
private theorem le_foldl_add {amount : ℚ} (hkeeps : ∀ q, amount ≤ q → amount ≤ ar.number q)
    (hpos : 0 < amount) {sizes : List ℚ} (hsizes : ∀ size ∈ sizes, amount ≤ size) {start : ℚ}
    (hstart : amount ≤ start) : amount ≤ sizes.foldl ar.add start := by
  induction sizes generalizing start with
  | nil => exact hstart
  | cons size sizes ih =>
    refine ih (fun s hs => hsizes s (List.mem_cons_of_mem _ hs)) (hkeeps _ ?_)
    have hsize := hsizes size List.mem_cons_self
    linarith

/-- A level whose sizes are not zero does not show zero. -/
private theorem BookNode.WellFormed.size_ne_zero {node : BookNode} (h : node.WellFormed ar)
    (har : ar.Apart) (hpos : ∀ raw size, node.rawSizes.get? raw = some size → 0 < size) :
    node.level.size ≠ 0 := by
  rcases h.shown with hshown | hshown
  · obtain ⟨amount, hamount, hstored, hkeeps, hrounds⟩ := har.least
    have hsizes : ∀ size ∈ node.rawSizes.rows, amount ≤ size := by
      intro size hsize
      obtain ⟨raw, hraw⟩ := Rows.mem_rows_iff.mp hsize
      obtain ⟨value, rfl⟩ := h.stored raw size hraw
      exact hstored value (hpos raw _ hraw)
    rw [hshown, sumRawSizes]
    apply hrounds
    have hfilled := h.filled
    cases hrows : node.rawSizes.rows with
    | nil => simp [hrows] at hfilled
    | cons size sizes =>
      rw [hrows] at hsizes
      refine le_foldl_add hkeeps hamount (fun s hs => hsizes s (List.mem_cons_of_mem _ hs)) ?_
      apply hkeeps
      rw [zero_add]
      exact hsizes size List.mem_cons_self
  · obtain ⟨raw, hraw⟩ := Rows.mem_rows_iff.mp (hshown ▸ List.mem_singleton_self node.level.size)
    exact (hpos raw _ hraw).ne'

private theorem rows_pos_of_get? {rows : Rows ℤ ℚ} {raw : ℤ} {size : ℚ}
    (h : rows.get? raw = some size) : 0 < rows.rows.length :=
  List.length_pos_of_mem (Rows.mem_rows_iff.mpr ⟨raw, h⟩)

namespace SortedBookSide

private theorem wellFormed_empty (side : OrderBookSide) : (empty side).WellFormed ar where
  ordered := Treap.ordered_leaf
  keys key := by simp [empty]
  node key node h := by cases h

private theorem WellFormed.mem_keys_of_present {book : SortedBookSide} (h : book.WellFormed ar)
    {key : ℤ} {node : BookNode} (hnode : book.nodes.get? key = some node) (k : ℤ) :
    k ∈ book.root.keys ↔ k = key ∨ k ∈ book.root.keys := by
  constructor
  · exact Or.inr
  · rintro (rfl | hk)
    · exact (h.keys _).mpr ⟨node, hnode⟩
    · exact hk

private theorem WellFormed.keys_set {book : SortedBookSide} (h : book.WellFormed ar) {key : ℤ}
    {root : Treap ℤ UInt32} (hroot : ∀ k, k ∈ root.keys ↔ k = key ∨ k ∈ book.root.keys)
    (node : BookNode) (k : ℤ) :
    k ∈ root.keys ↔ ∃ n, (book.nodes.set key node).get? k = some n := by
  rw [hroot, h.keys, Rows.get?_set]
  split_ifs with hk
  · simp [hk]
  · simp [hk]

private theorem WellFormed.setRawLevel {book : SortedBookSide} (h : book.WellFormed ar)
    (key rawKey : ℤ)
    (value : ℚ) (updatedAt : String) :
    (book.setRawLevel ar key rawKey (ar.roundCrypto value) updatedAt).WellFormed ar := by
  unfold SortedBookSide.setRawLevel
  cases hnode : book.nodes.get? key with
  | none =>
    have hnothing : ∀ (raw : ℤ) (size : ℚ), Rows.empty.get? raw = some size →
        ∃ value, size = ar.roundCrypto value := by simp
    have hstored : ∀ (raw : ℤ) (size : ℚ),
        (Rows.empty.set rawKey (ar.roundCrypto value)).get? raw = some size →
          ∃ value, size = ar.roundCrypto value := Rows.forall_set hnothing ⟨value, rfl⟩
    exact
      { ordered := h.ordered.insert _ _
        keys := h.keys_set (fun _ => Treap.mem_keys_insert) _
        node := Rows.forall_set h.node
          ⟨rows_pos_of_get? (Rows.get?_set_self _ _ _), hstored, Or.inr rfl⟩ }
  | some existing =>
    have hold := h.node key existing hnode
    have hstored : ∀ raw size, (existing.rawSizes.set rawKey (ar.roundCrypto value)).get? raw =
        some size → ∃ value, size = ar.roundCrypto value :=
      Rows.forall_set hold.stored ⟨value, rfl⟩
    exact
      { ordered := h.ordered
        keys := h.keys_set (h.mem_keys_of_present hnode) _
        node := Rows.forall_set h.node
          ⟨rows_pos_of_get? (Rows.get?_set_self _ _ _), hstored, Or.inl rfl⟩ }

private theorem WellFormed.deleteRawLevel {book : SortedBookSide} (h : book.WellFormed ar)
    (key rawKey : ℤ) : (book.deleteRawLevel ar key rawKey).WellFormed ar := by
  unfold SortedBookSide.deleteRawLevel
  cases hnode : book.nodes.get? key with
  | none => exact h
  | some existing =>
    have hold := h.node key existing hnode
    simp only
    split_ifs with hrows
    · exact
        { ordered := h.ordered
          keys := h.keys_set (h.mem_keys_of_present hnode) _
          node := Rows.forall_set h.node
            ⟨hrows, Rows.forall_delete hold.stored rawKey, Or.inl rfl⟩ }
    · exact
        { ordered := h.ordered.delete _
          keys := by
            intro k
            rw [h.ordered.keys_delete, List.mem_filter, h.keys, Rows.get?_delete]
            by_cases hk : k = key
            · simp [hk]
            · simp [hk]
          node := Rows.forall_delete h.node _ }

/-- The levels a side lists are those of its index. -/
theorem WellFormed.levels_perm {book : SortedBookSide} (h : book.WellFormed ar) :
    book.levels.Perm (book.nodes.rows.map BookNode.level) := by
  have hkeys : (keysInOrder book.side book.root).Perm (book.nodes.entries.map Prod.fst) := by
    have hnodup : book.root.keys.Nodup := h.ordered.imp fun hlt => hlt.ne
    have htree : book.root.keys.Perm (book.nodes.entries.map Prod.fst) := by
      rw [List.perm_ext_iff_of_nodup hnodup book.nodes.nodup]
      intro key
      rw [h.keys, ← not_iff_not, ← Rows.get?_eq_none_iff, not_exists,
        Option.eq_none_iff_forall_ne_some]
    unfold keysInOrder
    cases book.side with
    | bid => exact (List.reverse_perm _).trans htree
    | ask => exact htree
  have hlength : (keysInOrder book.side book.root).length ≤ book.size := by
    rw [hkeys.length_eq, size, Rows.rows, List.length_map, List.length_map]
  rw [levels, top_eq_filterMap, List.take_of_length_le hlength]
  apply (hkeys.filterMap _).trans
  rw [List.filterMap_map, Rows.rows, List.map_map]
  apply List.Perm.of_eq
  rw [← List.filterMap_eq_map]
  apply List.filterMap_congr
  rintro ⟨key, node⟩ hentry
  simp [Rows.mem_entries_iff.mp hentry]

private theorem side_afterUpsert (har : ar.Apart) (book : SortedBookSide) (call : LevelUpsert) :
    (book.afterUpsert ar call).side = book.side := by
  by_cases hvalid : call.IsValid
  · rw [afterUpsert_of_valid har book hvalid]
    split_ifs
    · unfold deleteRawLevel
      cases book.nodes.get? (call.levelKey ar book.side) with
      | none => rfl
      | some existing =>
        simp only
        split_ifs <;> rfl
    · unfold setRawLevel
      cases book.nodes.get? (call.levelKey ar book.side) <;> rfl
  · rw [afterUpsert_of_not_valid book hvalid]

private theorem contribution_afterUpsert (har : ar.Apart) (book : SortedBookSide)
    {call : LevelUpsert}
    (hvalid : call.IsValid) (key raw : ℤ) :
    (book.afterUpsert ar call).contribution key raw =
      if key = call.levelKey ar book.side ∧ raw = call.rawKey ar then
        if call.size = 0 then none else some (call.roundedSize ar)
      else book.contribution key raw := by
  rw [afterUpsert_of_valid har book hvalid]
  by_cases hzero : call.size = 0
  · rw [if_pos hzero, if_pos hzero, contribution_deleteRawLevel]
  · rw [if_neg hzero, if_neg hzero, contribution_setRawLevel]

private theorem WellFormed.afterUpsert (har : ar.Apart)
    {book : SortedBookSide} (h : book.WellFormed ar)
    (call : LevelUpsert) : (book.afterUpsert ar call).WellFormed ar := by
  by_cases hvalid : call.IsValid
  · rw [afterUpsert_of_valid har book hvalid]
    split_ifs
    · exact h.deleteRawLevel _ _
    · exact h.setRawLevel _ _ _ _
  · rwa [afterUpsert_of_not_valid book hvalid]

private theorem rawTotal_afterUpsert (har : ar.Apart) (book : SortedBookSide) {call : LevelUpsert}
    (hvalid : call.IsValid) :
    (book.afterUpsert ar call).rawTotal =
      book.rawTotal - (book.contribution (call.levelKey ar book.side) (call.rawKey ar)).getD 0 +
        (call.roundedSize ar) := by
  rw [afterUpsert_of_valid har book hvalid]
  split_ifs with hzero
  · rw [rawTotal_deleteRawLevel, LevelUpsert.roundedSize, hzero, har.roundCrypto_zero, add_zero]
  · exact rawTotal_setRawLevel book _ _ _ _

private theorem WellFormed.sum_levels {book : SortedBookSide} (h : book.WellFormed ar)
    (hadds : ar.AddsUp) : (book.levels.map PriceLevel.size).sum = book.rawTotal := by
  rw [(h.levels_perm.map PriceLevel.size).sum_eq, List.map_map, Rows.rows, List.map_map]
  apply Rows.total_congr
  intro key node hnode
  exact (h.node key node hnode).size_eq hadds

end SortedBookSide

/-! ## Runs of calls -/

variable (ar) in
/-- A side holds the announcements that stand. -/
structure Shows (side : OrderBookSide) (book : SortedBookSide) (latest : Rows ℤ Announcement) :
    Prop where
  side_eq : book.side = side
  wellFormed : book.WellFormed ar
  contribution : ∀ key raw size, book.contribution key raw = some size ↔
    latest.get? raw = some ⟨size, key⟩
  positive : ∀ raw announcement, latest.get? raw = some announcement → 0 < announcement.size
  total : book.rawTotal = latest.total Announcement.size

namespace Shows

variable {side : OrderBookSide} {book : SortedBookSide} {latest : Rows ℤ Announcement}

private theorem start (side : OrderBookSide) : Shows ar side (.empty side) Rows.empty where
  side_eq := rfl
  wellFormed := SortedBookSide.wellFormed_empty side
  contribution key raw size := by simp [SortedBookSide.contribution, SortedBookSide.empty]
  positive raw announcement h := by cases h
  total := rfl

/-- What stands at a raw price is what the price contributes to the level a call means. -/
private theorem standing (h : Shows ar side book latest) {call : LevelUpsert}
    (hlevel : ∀ a, latest.get? (call.rawKey ar) = some a → a.level = call.levelKey ar side) :
    (book.contribution (call.levelKey ar side) (call.rawKey ar)).getD 0 =
      (latest.get? (call.rawKey ar)).elim 0 Announcement.size := by
  cases hlatest : latest.get? (call.rawKey ar) with
  | none =>
    have hnone : book.contribution (call.levelKey ar side) (call.rawKey ar) = none := by
      rw [Option.eq_none_iff_forall_ne_some]
      intro size hsize
      rw [h.contribution, hlatest] at hsize
      cases hsize
    rw [hnone]
    rfl
  | some a =>
    obtain ⟨size, level⟩ := a
    obtain rfl : level = call.levelKey ar side := hlevel _ hlatest
    rw [(h.contribution _ _ _).mpr hlatest]
    rfl

private theorem roundedSize_of_size (har : ar.Apart) {call : LevelUpsert} (h : call.size = 0) :
    call.roundedSize ar = 0 := by
  rw [LevelUpsert.roundedSize, h, har.roundCrypto_zero]

/-- A call that continues what stands is shown as announced. -/
theorem step (har : ar.Apart) (h : Shows ar side book latest) {call : LevelUpsert}
    (hcall : call.IsValid → call.Continues ar side latest) :
    Shows ar side (book.afterUpsert ar call) (announce ar side latest call) := by
  by_cases hvalid : call.IsValid
  case neg =>
    rwa [SortedBookSide.afterUpsert_of_not_valid book hvalid, announce, if_neg hvalid]
  obtain ⟨hlevel, hdust⟩ := hcall hvalid
  have hzero : call.roundedSize ar = 0 ↔ call.size = 0 := ⟨hdust, roundedSize_of_size har⟩
  -- What stands at the raw price is in the level of the call, or nothing stands there.
  have hmoved : ∀ key size, key ≠ call.levelKey ar side →
      latest.get? (call.rawKey ar) ≠ some ⟨size, key⟩ := by
    intro key size hne hstands
    exact hne (hlevel _ hstands)
  refine
    { side_eq := (SortedBookSide.side_afterUpsert har book call).trans h.side_eq
      wellFormed := h.wellFormed.afterUpsert har call
      contribution := ?_, positive := ?_, total := ?_ }
  · intro key raw size
    rw [SortedBookSide.contribution_afterUpsert har book hvalid, h.side_eq, announce, if_pos hvalid]
    by_cases hraw : raw = call.rawKey ar
    · subst hraw
      by_cases hkey : key = call.levelKey ar side
      · subst hkey
        by_cases hs : call.size = 0
        · simp [hs, hzero.mpr hs, Rows.get?_delete]
        · simp [hs, mt hzero.mp hs]
      · rw [if_neg (by simp [hkey]), h.contribution]
        by_cases hs : call.size = 0
        · simp [hzero.mpr hs, Rows.get?_delete, hmoved key size hkey]
        · simp [mt hzero.mp hs, hmoved key size hkey, Ne.symm hkey]
    · rw [if_neg (by simp [hraw]), h.contribution]
      split_ifs
      · rw [Rows.get?_delete, if_neg hraw]
      · rw [Rows.get?_set, if_neg hraw]
  · intro raw announcement hget
    rw [announce, if_pos hvalid] at hget
    split_ifs at hget with hs
    · exact Rows.forall_delete h.positive _ raw announcement hget
    · have hpos : 0 < call.roundedSize ar :=
        lt_of_le_of_ne (har.roundCrypto_nonneg hvalid.2) (Ne.symm hs)
      exact Rows.forall_set (P := fun _ a => 0 < a.size) h.positive hpos raw announcement hget
  · rw [SortedBookSide.rawTotal_afterUpsert har book hvalid, h.side_eq, h.standing hlevel, h.total,
      announce, if_pos hvalid]
    split_ifs with hs
    · rw [Rows.total_delete, hs, add_zero]
    · rw [Rows.total_set_eq_sub]

/-- A side that holds what stands keeps the sizes. -/
theorem sizesKept (har : ar.Apart) (h : Shows ar side book latest) : book.SizesKept ar latest where
  contributes := by
    rintro raw ⟨size, level⟩ hlatest
    refine ⟨level, fun key s => ?_⟩
    rw [h.contribution, hlatest, Option.some.injEq, Announcement.mk.injEq]
    constructor
    · rintro ⟨rfl, rfl⟩
      exact ⟨rfl, rfl⟩
    · rintro ⟨rfl, rfl⟩
      exact ⟨rfl, rfl⟩
  removed := by
    intro raw hlatest key
    rw [Option.eq_none_iff_forall_ne_some]
    intro size hsize
    rw [h.contribution, hlatest] at hsize
    cases hsize
  shown := by
    intro key node hnode
    refine ⟨h.wellFormed.levels_perm.mem_iff.mpr ?_, (h.wellFormed.node key node hnode).shown⟩
    exact List.mem_map_of_mem (Rows.mem_rows_iff.mpr ⟨key, hnode⟩)
  nonzero := by
    intro level hlevel
    obtain ⟨node, hrow, rfl⟩ := List.mem_map.mp (h.wellFormed.levels_perm.mem_iff.mp hlevel)
    obtain ⟨key, hnode⟩ := Rows.mem_rows_iff.mp hrow
    apply (h.wellFormed.node key node hnode).size_ne_zero har
    intro raw size hraw
    have hcontribution : book.contribution key raw = some size := by
      rw [SortedBookSide.contribution, hnode]
      exact hraw
    exact h.positive raw _ ((h.contribution key raw size).mp hcontribution)
  rawTotal := h.total
  total hadds := (h.wellFormed.sum_levels hadds).trans h.total

/-- Where a call does not continue what stands, the side loses a size or shows one of zero. -/
theorem continues_of_sizesKept (har : ar.Apart) (h : Shows ar side book latest) {call : LevelUpsert}
    (hvalid : call.IsValid)
    (hkept : (book.afterUpsert ar call).SizesKept ar (announce ar side latest call)) :
    call.Continues ar side latest := by
  have hwritten := SortedBookSide.contribution_afterUpsert har book hvalid
  rw [h.side_eq] at hwritten
  have hannounced : announce ar side latest call = if call.roundedSize ar = 0 then
      latest.delete (call.rawKey ar)
    else latest.set (call.rawKey ar) ⟨call.roundedSize ar, call.levelKey ar side⟩ := if_pos hvalid
  rw [hannounced] at hkept
  constructor
  · rintro ⟨size, level⟩ hstands
    by_contra hne
    -- The earlier size is still in its old level.
    have hold : (book.afterUpsert ar call).contribution level (call.rawKey ar) = some size := by
      rw [hwritten, if_neg (by simp [hne]), h.contribution, hstands]
    by_cases hs : call.roundedSize ar = 0
    · have hnone : (latest.delete (call.rawKey ar)).get? (call.rawKey ar) = none := by
        rw [Rows.get?_delete, if_pos rfl]
      rw [if_pos hs] at hkept
      rw [hkept.removed _ hnone level] at hold
      cases hold
    · have hsize : call.size ≠ 0 := mt (roundedSize_of_size har) hs
      have hnew : (book.afterUpsert ar call).contribution (call.levelKey ar side) (call.rawKey ar) =
          some (call.roundedSize ar) := by
        rw [hwritten, if_pos ⟨rfl, rfl⟩, if_neg hsize]
      rw [if_neg hs] at hkept
      obtain ⟨key, hkey⟩ := hkept.contributes (call.rawKey ar) _ (Rows.get?_set_self _ _ _)
      have holdKey := ((hkey _ _).mp hold).1
      have hnewKey := ((hkey _ _).mp hnew).1
      exact hne (holdKey.trans hnewKey.symm)
  · intro hs
    by_contra hsize
    have hdust : (book.afterUpsert ar call).contribution (call.levelKey ar side) (call.rawKey ar) =
        some (call.roundedSize ar) := by
      rw [hwritten, if_pos ⟨rfl, rfl⟩, if_neg hsize]
    have hnone : (latest.delete (call.rawKey ar)).get? (call.rawKey ar) = none := by
      rw [Rows.get?_delete, if_pos rfl]
    rw [if_pos hs] at hkept
    rw [hkept.removed _ hnone] at hdust
    cases hdust

end Shows

variable (ar) in
/-- Every call of a run continues what stands before it. -/
def ContinuesThrough (side : OrderBookSide) (calls : List LevelUpsert) : Prop :=
  ∀ earlier call later, earlier ++ call :: later = calls → call.IsValid →
    call.Continues ar side (announced ar side earlier)

namespace ContinuesThrough

variable {side : OrderBookSide} {calls earlier later : List LevelUpsert}

private theorem of_append (h : ContinuesThrough ar side calls) (hcalls : earlier ++ later = calls) :
    ContinuesThrough ar side earlier := by
  rintro before call after rfl
  exact h before call (after ++ later) (by simp [← hcalls])

private theorem shows (har : ar.Apart) (h : ContinuesThrough ar side calls) :
    Shows ar side (.afterUpserts ar side calls) (announced ar side calls) := by
  induction calls using List.reverseRecOn with
  | nil => exact Shows.start side
  | append_singleton calls call ih =>
    have hstep := (ih (h.of_append rfl)).step har (h calls call [] rfl)
    rw [SortedBookSide.afterUpserts, announced, List.foldl_concat, List.foldl_concat]
    exact hstep

/-- One more call that continues what stands. -/
private theorem concat (h : ContinuesThrough ar side calls) {call : LevelUpsert}
    (hcall : call.IsValid → call.Continues ar side (announced ar side calls)) :
    ContinuesThrough ar side (calls ++ [call]) := by
  intro earlier current later hcalls hvalid
  rcases List.eq_nil_or_concat later with rfl | ⟨later, last, rfl⟩
  · obtain ⟨rfl, hlast⟩ := List.append_inj' hcalls rfl
    obtain rfl := (List.cons.inj hlast).1
    exact hcall hvalid
  · have hsplit : (earlier ++ current :: later) ++ [last] = calls ++ [call] := by
      rw [← hcalls]
      simp
    exact h earlier current later (List.append_inj' hsplit rfl).1 hvalid

private theorem of_sizesKept (har : ar.Apart) (hkept : ∀ earlier later, earlier ++ later = calls →
    (SortedBookSide.afterUpserts ar side earlier).SizesKept ar (announced ar side earlier)) :
    ContinuesThrough ar side calls := by
  induction calls using List.reverseRecOn with
  | nil =>
    intro earlier call later hcalls
    simp at hcalls
  | append_singleton calls last ih =>
    have hbefore : ContinuesThrough ar side calls := by
      apply ih
      rintro earlier later rfl
      exact hkept earlier (later ++ [last]) (by simp)
    refine hbefore.concat fun hvalid => ?_
    have hafter := hkept (calls ++ [last]) [] (by simp)
    rw [SortedBookSide.afterUpserts, announced, List.foldl_concat, List.foldl_concat] at hafter
    exact (hbefore.shows har).continues_of_sizesKept har hvalid hafter

end ContinuesThrough

end Yevow.Engine
