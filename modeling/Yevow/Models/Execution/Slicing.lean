import Mathlib.Algebra.BigOperators.Group.List.Basic
import Mathlib.Tactic.FieldSimp
import Mathlib.Tactic.Linarith
import Mathlib.Algebra.Order.Floor.Ring
import Mathlib.Data.Rat.Floor
import Yevow.Core.JavaScript.Reference
import Yevow.Core.Text.Separator
import Yevow.Models.Execution.Intent

/-!
# The slices of an order

What the child orders of an intent add up to, and the client ids they are sent under. Sizes are
counted in units of `10 ^ -8`, and the arithmetic is exact but for the rounding to units. Every
slice is the whole divided by the number of slices, rounded on its own. A client id keeps 32
hexadecimal digits of an intent's id, which for a long id are those of its parent.
-/

namespace Yevow.Execution

open JavaScript (Runtime)

/-- A size of some units. -/
def units (m : ℕ) : ℚ := m / 10 ^ 8

/-- The least number of chunks that hold a notional, at least one. -/
def chunkCount (notional perChunk : ℚ) : ℕ := max 1 ⌈notional / perChunk⌉.toNat

/-- The notional of a chunk: the configured one, or enough for the whole order. -/
def chunkNotional (config : TwapSliceConfig) (notional : ℚ) : ℚ :=
  (positiveOrNull config.sliceNotionalPerChunk).getD (max notional 1)

private theorem chunkNotional_pos (config : TwapSliceConfig) (notional : ℚ) :
    0 < chunkNotional config notional := by
  unfold chunkNotional
  cases hchunk : positiveOrNull config.sliceNotionalPerChunk with
  | none => exact lt_max_of_lt_right one_pos
  | some chunk =>
    unfold positiveOrNull at hchunk
    split at hchunk
    · split_ifs at hchunk with hpos
      obtain rfl := Option.some.inj hchunk
      exact hpos
    · cases hchunk
    · cases hchunk

private theorem chunkCount_pos (notional perChunk : ℚ) : 0 < chunkCount notional perChunk :=
  lt_max_of_lt_left one_pos

/-- The count is the one number of chunks that hold the notional when one chunk less does not. -/
theorem chunkCount_eq_iff {notional perChunk : ℚ} (hnotional : 0 < notional) (hchunk : 0 < perChunk)
    {c : ℕ} (hc : 0 < c) :
    chunkCount notional perChunk = c ↔
      ((c : ℚ) - 1) * perChunk < notional ∧ notional ≤ c * perChunk := by
  have hpos : (0 : ℤ) < ⌈notional / perChunk⌉ := Int.ceil_pos.mpr (div_pos hnotional hchunk)
  have hcount : chunkCount notional perChunk = c ↔ ⌈notional / perChunk⌉ = c := by
    unfold chunkCount
    omega
  rw [hcount, Int.ceil_eq_iff, lt_div_iff₀ hchunk, div_le_iff₀ hchunk]
  push_cast
  rfl

section Exact

variable (js : Runtime) {intent : TradeIntent} {config : TwapSliceConfig} {size price : ℚ}

/-- What a slice of an order becomes. -/
def sliceIntent (intent : TradeIntent) (count : ℕ) (sliceSize : ℚ) (index : ℕ) : TradeIntent :=
  { intent with
    intentId := intent.intentId ++ "-slice-" ++ toString (index + 1)
    executionStyle := some .takerIoc
    orderType := .ioc
    postOnly := false
    timeInForce := .ioc
    requestedSize := .finite sliceSize
    approvedSize := some (.finite sliceSize)
    rationale := intent.rationale ++ " sliced_twap_child=" ++ toString (index + 1) ++ "/" ++
      toString count }

/-- Every slice has the same share, the last one too. -/
theorem buildTwapSlices_exact (hsize : intent.size = .finite size) (hpos : 0 < size)
    (hprice : intent.expectedPrice = .finite price) (hprice_pos : 0 < price) :
    let count := chunkCount (size * price) (chunkNotional config (size * price))
    (buildTwapSlices (js.withArithmetic .exact) intent config).map TwapSlice.intent =
      (List.range count).map
        (sliceIntent intent count (roundOrderSize (js.withArithmetic .exact) (size / count))) := by
  intro count
  have hcount : (0 : ℚ) < count := by exact_mod_cast chunkCount_pos _ _
  have hshare : 0 < size / count := div_pos hpos hcount
  have hslice : ∀ index : ℕ,
      (if index = count - 1 then size - size / count * (index : ℚ) else size / count) =
        size / count := by
    intro index
    split_ifs with hlast
    · have hindex : (index : ℚ) = count - 1 := by
        rw [hlast, Nat.cast_sub (chunkCount_pos _ _), Nat.cast_one]
      rw [hindex]
      field_simp
      ring
    · rfl
  have hsome : positiveOrNull intent.size = some size := by rw [hsize]; exact if_pos hpos
  have hprice? : positiveOrNull intent.expectedPrice = some price := by
    rw [hprice]
    exact if_pos hprice_pos
  have hunfold : buildTwapSlices (js.withArithmetic .exact) intent config =
      (List.range count).filterMap fun index =>
        if (if index = count - 1 then size - size / count * (index : ℚ) else size / count) ≤ 0
        then none
        else
          some
            ⟨sliceIntent intent count (roundOrderSize (js.withArithmetic .exact)
                (if index = count - 1 then size - size / count * (index : ℚ) else size / count))
                  index,
              if index = 0 then 0
              else twapDelay (js.withArithmetic .exact) config.sliceIntervalMs config.sliceJitterMs
                index⟩ := by
    unfold buildTwapSlices
    rw [hsome, hprice?]
    rfl
  rw [hunfold, List.map_filterMap, ← List.filterMap_eq_map']
  apply List.filterMap_congr
  intro index _
  rw [hslice, if_neg (not_le.mpr hshare)]
  rfl

/-- A size of whole units is not rounded. -/
theorem roundOrderSize_units (m : ℕ) :
    roundOrderSize (js.withArithmetic .exact) (units m) = units m := by
  have hround : Arithmetic.mathRound (units m * 10 ^ 8) = m := by
    have hunits : units m * 10 ^ 8 = ((m : ℤ) : ℚ) := by
      unfold units
      push_cast
      field_simp
    rw [hunits, Arithmetic.mathRound, Int.floor_eq_iff]
    constructor
    · linarith
    · linarith
  unfold roundOrderSize
  split_ifs
  · rfl
  · rw [hround]
    rfl

/-- The sizes of the children. -/
theorem sizes_buildTwapSlices (hsize : intent.size = .finite size) (hpos : 0 < size)
    (hprice : intent.expectedPrice = .finite price) (hprice_pos : 0 < price) :
    let count := chunkCount (size * price) (chunkNotional config (size * price))
    ((buildTwapSlices (js.withArithmetic .exact) intent config).map TwapSlice.intent).map
        TradeIntent.size =
      List.replicate count
        (.finite (roundOrderSize (js.withArithmetic .exact) (size / count))) := by
  intro count
  rw [buildTwapSlices_exact js hsize hpos hprice hprice_pos, List.map_map, List.eq_replicate_iff]
  constructor
  · rw [List.length_map, List.length_range]
  · intro child hchild
    obtain ⟨index, -, rfl⟩ := List.mem_map.mp hchild
    rfl

private theorem toString_injective {m n : ℕ} (h : toString m = toString n) : m = n := by
  have hdigits : Nat.toDigits 10 m = Nat.toDigits 10 n := by
    rw [← Nat.toList_repr, ← Nat.toList_repr]
    exact congrArg String.toList h
  have hvalue := congrArg (fun digits => Nat.ofDigitChars 10 digits 0) hdigits
  simpa only [Nat.ofDigitChars_ten_toDigits] using hvalue

/-- The ids of the children differ in the number at their end. -/
theorem nodup_intentIds (hsize : intent.size = .finite size) (hpos : 0 < size)
    (hprice : intent.expectedPrice = .finite price) (hprice_pos : 0 < price) :
    (((buildTwapSlices (js.withArithmetic .exact) intent config).map TwapSlice.intent).map
      TradeIntent.intentId).Nodup := by
  rw [buildTwapSlices_exact js hsize hpos hprice hprice_pos, List.map_map]
  apply List.nodup_range.map
  intro index index' h
  have hnumber : index + 1 = index' + 1 := toString_injective (Text.append_left_inj h)
  omega

/-- Sizes of whole units that are all one value are a multiple of it. -/
theorem dvd_of_sizes {sizes : List ℕ} {c n : ℕ} {v : ℚ}
    (hsizes : List.replicate c (Number.finite v) = sizes.map fun m => .finite (units m))
    (hsum : sizes.sum = n) : c ∣ n := by
  have hlength : sizes.length = c := by
    have := congrArg List.length hsizes
    rw [List.length_replicate, List.length_map] at this
    exact this.symm
  have hvalue : ∀ m ∈ sizes, units m = v := by
    intro m hm
    have hmem : Number.finite (units m) ∈ List.replicate c (Number.finite v) := by
      rw [hsizes]
      exact List.mem_map_of_mem hm
    exact Number.finite.inj (List.eq_of_mem_replicate hmem)
  cases sizes with
  | nil =>
    rw [← hsum]
    exact dvd_zero c
  | cons first rest =>
    have hsame : ∀ m ∈ first :: rest, m = first := by
      intro m hm
      have hunits := (hvalue m hm).trans (hvalue first (List.mem_cons_self ..)).symm
      unfold units at hunits
      have hcast : (m : ℚ) = first := by linarith
      exact_mod_cast hcast
    rw [List.eq_replicate_of_mem hsame, hlength, List.sum_replicate, nsmul_eq_mul,
      Nat.cast_id] at hsum
    exact ⟨first, hsum.symm⟩

/-- The slices of an order of whole units conserve it exactly where the number of chunks that hold
its notional divides it. -/
theorem slices_conserve_iff (config : TwapSliceConfig) {n : ℕ} (hn : 0 < n)
    (hsize : intent.size = .finite (units n)) (hprice : intent.expectedPrice = .finite price)
    (hpos : 0 < price) :
    let children := (buildTwapSlices (js.withArithmetic .exact) intent config).map TwapSlice.intent
    let chunk := chunkNotional config (units n * price)
    ((children.map TradeIntent.intentId).Nodup ∧
      (∀ child ∈ children, child.expectedPrice = .finite price) ∧
      ∃ sizes : List ℕ, children.map TradeIntent.size = sizes.map (fun m => .finite (units m)) ∧
        sizes.sum = n ∧ ∀ m ∈ sizes, 0 < m ∧ units m * price ≤ chunk + units 1 * price) ↔
    ∃ c : ℕ, 0 < c ∧ c ∣ n ∧ ((c : ℚ) - 1) * chunk < units n * price ∧
      units n * price ≤ c * chunk := by
  intro children chunk
  have hunits : 0 < units n := div_pos (by exact_mod_cast hn) (by norm_num)
  have hnotional : 0 < units n * price := mul_pos hunits hpos
  have hchunk : 0 < chunk := chunkNotional_pos _ _
  have hsizes : children.map TradeIntent.size = List.replicate (chunkCount (units n * price) chunk)
      (.finite (roundOrderSize (js.withArithmetic .exact)
        (units n / chunkCount (units n * price) chunk))) :=
    sizes_buildTwapSlices js hsize hunits hprice hpos
  have hcount := chunkCount_pos (units n * price) chunk
  constructor
  · rintro ⟨-, -, sizes, hmap, hsum, -⟩
    have hdvd := dvd_of_sizes (hsizes.symm.trans hmap) hsum
    obtain ⟨hlow, hhigh⟩ := (chunkCount_eq_iff hnotional hchunk hcount).mp rfl
    exact ⟨_, hcount, hdvd, hlow, hhigh⟩
  · rintro ⟨c, hc, ⟨m, rfl⟩, hlow, hhigh⟩
    have hcountEq : chunkCount (units (c * m) * price) chunk = c :=
      (chunkCount_eq_iff hnotional hchunk hc).mpr ⟨hlow, hhigh⟩
    have hcast : (c : ℚ) ≠ 0 := by exact_mod_cast hc.ne'
    have hshare : units (c * m) / c = units m := by
      unfold units
      push_cast
      field_simp
    refine ⟨nodup_intentIds js hsize hunits hprice hpos, ?_, List.replicate c m, ?_, ?_, ?_⟩
    · intro child hchild
      show child.expectedPrice = _
      rw [show children = _ from buildTwapSlices_exact js hsize hunits hprice hpos] at hchild
      obtain ⟨index, -, rfl⟩ := List.mem_map.mp hchild
      exact hprice
    · rw [hsizes, hcountEq, hshare, roundOrderSize_units, List.map_replicate]
    · rw [List.sum_replicate, nsmul_eq_mul, Nat.cast_id]
    · intro k hk
      obtain rfl := List.eq_of_mem_replicate hk
      have hk_pos : 0 < k := Nat.pos_of_mul_pos_left hn
      refine ⟨hk_pos, ?_⟩
      have hwhole : units (c * k) * price = c * (units k * price) := by
        unfold units
        push_cast
        ring
      rw [hwhole] at hhigh
      have hle : units k * price ≤ chunk := le_of_mul_le_mul_left hhigh (by exact_mod_cast hc)
      have hunit : 0 ≤ units 1 * price := mul_nonneg (by norm_num [units]) hpos.le
      linarith

end Exact

/-! ### Orders of a few units -/

private def anIntent (intentId : String) (size price : ℚ) : TradeIntent where
  schemaVersion := "trade-intent.v1"
  intentId
  traceId := ""
  instrumentCode := "BTC"
  sourceExchange := some "hyperliquid"
  executionStyle := some .slicedTwap
  action := .buy
  orderType := .ioc
  postOnly := false
  timeInForce := .ioc
  expectedPrice := .finite price
  requestedSize := .finite size
  approvedSize := none
  maxSlippageBps := .finite 10
  rationale := ""
  targetSubaccount := none

private def chunksOf (sliceNotionalPerChunk : ℚ) : TwapSliceConfig :=
  ⟨.finite sliceNotionalPerChunk, .finite 0, .finite 0⟩

private def unitsOf (slices : List TwapSlice) : List Number :=
  slices.map fun slice => slice.intent.size.mul id (.finite (10 ^ 8))

/-- One coin loses a unit, two units become three, and a single one becomes three orders of none. -/
theorem slices_lose_and_add_units :
    unitsOf (buildTwapSlices (JavaScript.reference .exact) (anIntent "a" 1 1) (chunksOf (2 / 5))) =
        [.finite 33333333, .finite 33333333, .finite 33333333] ∧
      unitsOf (buildTwapSlices (JavaScript.reference .exact) (anIntent "a" (2 / 10 ^ 8) (10 ^ 8))
        (chunksOf (7 / 10))) = [.finite 1, .finite 1, .finite 1] ∧
      unitsOf (buildTwapSlices (JavaScript.reference .exact) (anIntent "a" (1 / 10 ^ 8) (10 ^ 8))
        (chunksOf (2 / 5))) = [.finite 0, .finite 0, .finite 0] := by
  refine ⟨?_, ?_, ?_⟩
  · decide +kernel
  · decide +kernel
  · decide +kernel

/-- Ten coins in chunks of three hundred make four slices of two and a half. -/
theorem slices_conserve_ten_coins :
    ∃ sizes : List ℕ, ((buildTwapSlices ((JavaScript.reference .exact).withArithmetic .exact)
        (anIntent "twap-parent" (units 1000000000) 100) (chunksOf 300)).map TwapSlice.intent).map
          TradeIntent.size = sizes.map (fun m => .finite (units m)) ∧ sizes.sum = 1000000000 := by
  have hconserved := (slices_conserve_iff (JavaScript.reference .exact) (chunksOf 300)
    (by decide : 0 < 1000000000)
    (rfl : (anIntent "twap-parent" (units 1000000000) 100).size = _) rfl
    (by norm_num)).mpr ⟨4, by decide, by decide, by norm_num [units, chunkNotional, chunksOf,
      positiveOrNull], by norm_num [units, chunkNotional, chunksOf, positiveOrNull]⟩
  obtain ⟨-, -, sizes, hsizes, hsum, -⟩ := hconserved
  exact ⟨sizes, hsizes, hsum⟩

/-! ## Client order ids -/

/-- A character that `/[^0-9a-fA-F]/` does not match. -/
def isHexDigit (c : Char) : Bool :=
  c.isDigit || ('a' ≤ c && c ≤ 'f') || ('A' ≤ c && c ≤ 'F')

/-- The hexadecimal digits of a text, in order. -/
def hexDigits (value : String) : List Char := value.toList.filter isHexDigit

/-- `hex.padEnd(32, "0").slice(0, 32)`. -/
def padded32 (hex : List Char) : List Char :=
  (hex ++ List.replicate (32 - hex.length) '0').take 32

/-- The order id that an identifier is sent as. -/
def hyperliquidCloid (value : String) : String := "0x" ++ String.ofList (padded32 (hexDigits value))

/-- An identifier that is an order id already is kept. -/
def normalizeHyperliquidCloid (value : String) : String :=
  if "0x".toList <+: value.toList then value else hyperliquidCloid value

/-- The orders that an intent may send: its own, its slices and the retry of a stop. -/
def orderIds (js : Runtime) (intent : TradeIntent) (config : TwapSliceConfig) : List String :=
  intent.intentId :: (buildTwapSlices js intent config).map (fun slice => slice.intent.intentId) ++
    [intent.intentId ++ "-stop-retry"]

/-- No two of the orders share a client id, and the id that one is cancelled by is no other's. -/
def HaveOwnCloids (ids : List String) : Prop :=
  (ids.map hyperliquidCloid).Nodup ∧
    ∀ id ∈ ids, ∀ other ∈ ids, id ≠ other → normalizeHyperliquidCloid id ≠ hyperliquidCloid other

/-! ### Padding -/

private theorem length_padded32 (hex : List Char) : (padded32 hex).length = 32 := by
  rw [padded32, List.length_take, List.length_append, List.length_replicate]
  omega

private theorem getElem?_padded32 (hex : List Char) {i : ℕ} (hi : i < 32) :
    (padded32 hex)[i]? = some (hex.getD i '0') := by
  rw [padded32, List.getElem?_take_of_lt hi, List.getD_eq_getElem?_getD]
  by_cases hlt : i < hex.length
  · rw [List.getElem?_append_left hlt, List.getElem?_eq_getElem hlt, Option.getD_some]
  · rw [List.getElem?_append_right (by omega), List.getElem?_replicate, if_pos (by omega),
      List.getElem?_eq_none (by omega), Option.getD_none]

/-- Padded texts with a common beginning agree where what follows it agrees. -/
theorem padded32_append_inj {hex a b : List Char} :
    padded32 (hex ++ a) = padded32 (hex ++ b) ↔
      ∀ i, hex.length + i < 32 → a.getD i '0' = b.getD i '0' := by
  have hget : ∀ (tail : List Char) (i : ℕ), (hex ++ tail).getD (hex.length + i) '0' =
      tail.getD i '0' := by
    intro tail i
    rw [List.getD_eq_getElem?_getD, List.getElem?_append_right (by omega), Nat.add_sub_cancel_left,
      ← List.getD_eq_getElem?_getD]
  constructor
  · intro h i hi
    have hi' := congrArg (fun l : List Char => l[hex.length + i]?) h
    simp only [getElem?_padded32 _ hi, Option.some.injEq, hget] at hi'
    exact hi'
  · intro h
    apply List.ext_getElem?
    intro i
    by_cases hi : i < 32
    · rw [getElem?_padded32 _ hi, getElem?_padded32 _ hi]
      by_cases hlt : i < hex.length
      · rw [List.getD_eq_getElem?_getD, List.getD_eq_getElem?_getD, List.getElem?_append_left hlt,
          List.getElem?_append_left hlt]
      · obtain ⟨k, rfl⟩ := Nat.exists_eq_add_of_le (not_lt.mp hlt)
        rw [hget, hget, h k hi]
    · rw [List.getElem?_eq_none (by rw [length_padded32]; omega),
        List.getElem?_eq_none (by rw [length_padded32]; omega)]

private theorem hyperliquidCloid_inj {a b : String} :
    hyperliquidCloid a = hyperliquidCloid b ↔ padded32 (hexDigits a) = padded32 (hexDigits b) := by
  constructor
  · intro h
    have hlist := congrArg String.toList (Text.append_left_inj h)
    rwa [String.toList_ofList, String.toList_ofList] at hlist
  · intro h
    rw [hyperliquidCloid, hyperliquidCloid, h]

private theorem hexDigits_append (a b : String) :
    hexDigits (a ++ b) = hexDigits a ++ hexDigits b := by
  rw [hexDigits, String.toList_append, List.filter_append]
  rfl

/-! ### Slices -/

/-- The hexadecimal digits that the number of a slice adds. -/
def sliceDigits (k : ℕ) : List Char := 'c' :: 'e' :: Nat.toDigits 10 k

private theorem hexDigits_toString (k : ℕ) : hexDigits (toString k) = Nat.toDigits 10 k := by
  have hlist : (toString k).toList = Nat.toDigits 10 k := Nat.toList_repr
  rw [hexDigits, hlist, List.filter_eq_self]
  intro c hc
  unfold isHexDigit
  rw [Nat.isDigit_of_mem_toDigits (by decide) (by decide) hc]
  rfl

private theorem hexDigits_slice (id : String) (k : ℕ) :
    hexDigits (id ++ "-slice-" ++ toString k) = hexDigits id ++ sliceDigits k := by
  have hslice : hexDigits "-slice-" = ['c', 'e'] := by decide
  rw [hexDigits_append, hexDigits_append, hexDigits_toString, hslice, List.append_assoc]
  rfl

private theorem hexDigits_retry (id : String) : hexDigits (id ++ "-stop-retry") = hexDigits id ++
    ['e'] := by
  have hretry : hexDigits "-stop-retry" = ['e'] := by decide
  rw [hexDigits_append, hretry]

section Suffixes

variable (id : String)

/-- What tells two orders apart is how their digits begin after those of the intent. -/
theorem cloid_eq_iff_of_head {a b : String} {x y : Char} {s t : List Char}
    (ha : padded32 (hexDigits a) = padded32 (hexDigits id ++ x :: s))
    (hb : padded32 (hexDigits b) = padded32 (hexDigits id ++ y :: t)) (hxy : x ≠ y) :
    hyperliquidCloid a = hyperliquidCloid b ↔ 32 ≤ (hexDigits id).length := by
  rw [hyperliquidCloid_inj, ha, hb, padded32_append_inj]
  constructor
  · intro h
    by_contra hshort
    exact hxy (h 0 (by omega))
  · intro hlong i hi
    omega

private theorem padded32_parent : padded32 (hexDigits id) = padded32 (hexDigits id ++ ['0']) := by
  have h : padded32 (hexDigits id ++ []) = padded32 (hexDigits id ++ ['0']) := by
    rw [padded32_append_inj]
    intro i _
    cases i with
    | zero => rfl
    | succ i => rfl
  rwa [List.append_nil] at h

private theorem cloid_parent_retry :
    hyperliquidCloid id = hyperliquidCloid (id ++ "-stop-retry") ↔ 32 ≤ (hexDigits id).length :=
  cloid_eq_iff_of_head id (padded32_parent id) (congrArg padded32 (hexDigits_retry id)) (by decide)

private theorem cloid_parent_slice (k : ℕ) :
    hyperliquidCloid id = hyperliquidCloid (id ++ "-slice-" ++ toString k) ↔
      32 ≤ (hexDigits id).length :=
  cloid_eq_iff_of_head id (padded32_parent id) (congrArg padded32 (hexDigits_slice id k))
    (by decide)

private theorem cloid_slice_retry (k : ℕ) :
    hyperliquidCloid (id ++ "-slice-" ++ toString k) = hyperliquidCloid (id ++ "-stop-retry") ↔
      32 ≤ (hexDigits id).length :=
  cloid_eq_iff_of_head id (congrArg padded32 (hexDigits_slice id k))
    (congrArg padded32 (hexDigits_retry id)) (by decide)

private theorem cloid_slice_slice (j k : ℕ) :
    hyperliquidCloid (id ++ "-slice-" ++ toString j) =
        hyperliquidCloid (id ++ "-slice-" ++ toString k) ↔
      ∀ i, (hexDigits id).length + i < 32 →
        (sliceDigits j).getD i '0' = (sliceDigits k).getD i '0' := by
  rw [hyperliquidCloid_inj, hexDigits_slice, hexDigits_slice, padded32_append_inj]

/-- Beyond 29 digits of the intent the number of a slice is cut off. -/
theorem cloid_slice_slice_of_long (h : 30 ≤ (hexDigits id).length) (j k : ℕ) :
    hyperliquidCloid (id ++ "-slice-" ++ toString j) =
      hyperliquidCloid (id ++ "-slice-" ++ toString k) := by
  rw [cloid_slice_slice]
  intro i hi
  match i with
  | 0 => rfl
  | 1 => rfl
  | i + 2 => omega

/-- The zeros that pad the first slice make it the tenth. -/
theorem cloid_slice_one_ten :
    hyperliquidCloid (id ++ "-slice-" ++ toString 1) =
      hyperliquidCloid (id ++ "-slice-" ++ toString 10) := by
  rw [cloid_slice_slice]
  intro i _
  match i with
  | 0 => rfl
  | 1 => rfl
  | 2 => rfl
  | 3 => rfl
  | i + 4 => rfl

private theorem cloid_slice_ne (h : (hexDigits id).length ≤ 29) {j k : ℕ} (hj : j < 10)
    (hk : k < 10)
    (hne : j ≠ k) :
    hyperliquidCloid (id ++ "-slice-" ++ toString j) ≠
      hyperliquidCloid (id ++ "-slice-" ++ toString k) := by
  rw [Ne, cloid_slice_slice]
  intro hsame
  have hdigit := hsame 2 (by omega)
  have hget : ∀ n : ℕ, n < 10 → (sliceDigits n).getD 2 '0' = Nat.digitChar n := by
    intro n hn
    rw [sliceDigits, Nat.toDigits_of_lt_base hn]
    rfl
  rw [hget j hj, hget k hk] at hdigit
  have hvalue : ∀ m < 10, ∀ n < 10, Nat.digitChar m = Nat.digitChar n → m = n := by decide
  exact hne (hvalue j hj k hk hdigit)

/-! ### Cancelling -/

private theorem isHexDigit_of_mem_padded32 {value : String} {c : Char}
    (hc : c ∈ padded32 (hexDigits value)) : isHexDigit c = true := by
  have hmem := List.mem_of_mem_take hc
  rcases List.mem_append.mp hmem with hdigit | hzero
  · exact (List.mem_filter.mp hdigit).2
  · rw [List.eq_of_mem_replicate hzero]
    rfl

private theorem toList_hyperliquidCloid (value : String) :
    (hyperliquidCloid value).toList = '0' :: 'x' :: padded32 (hexDigits value) := by
  rw [hyperliquidCloid, String.toList_append]
  show ['0', 'x'] ++ (String.ofList _).toList = _
  rw [String.toList_ofList]
  rfl

private theorem length_hexDigits_cloid (value : String) :
    (hexDigits (hyperliquidCloid value)).length = 33 := by
  have hall : (padded32 (hexDigits value)).filter isHexDigit = padded32 (hexDigits value) :=
    List.filter_eq_self.mpr fun _ hc => isHexDigit_of_mem_padded32 hc
  rw [hexDigits, toList_hyperliquidCloid, List.filter_cons_of_pos (by decide),
    List.filter_cons_of_neg (by decide), hall, List.length_cons, length_padded32]

private theorem dash_not_mem_cloid (value : String) : '-' ∉ (hyperliquidCloid value).toList := by
  rw [toList_hyperliquidCloid]
  intro hdash
  rcases List.mem_cons.mp hdash with hzero | hdash
  · cases hzero
  rcases List.mem_cons.mp hdash with hx | hdash
  · cases hx
  · exact Bool.noConfusion (isHexDigit_of_mem_padded32 hdash)

/-- An order is cancelled by its own client id, or by a text that is no client id of these. -/
theorem cancel_other_iff {a other : String} (hown : a = id ∨ '-' ∈ a.toList)
    (hshort : (hexDigits id).length < 32) :
    normalizeHyperliquidCloid a = hyperliquidCloid other →
      hyperliquidCloid a = hyperliquidCloid other := by
  unfold normalizeHyperliquidCloid
  split_ifs
  · intro h
    exfalso
    rcases hown with rfl | hdash
    · rw [h, length_hexDigits_cloid] at hshort
      omega
    · rw [h] at hdash
      exact dash_not_mem_cloid other hdash
  · exact fun h => h

/-! ### All orders of an intent -/

/-- The parent and the retry are apart from each other and the slices below 32 digits; the slices
are apart among themselves or not. -/
theorem haveOwnCloids_iff (numbers : List ℕ) :
    HaveOwnCloids (id :: numbers.map (fun k => id ++ "-slice-" ++ toString k) ++
        [id ++ "-stop-retry"]) ↔
      (hexDigits id).length < 32 ∧
        (numbers.map fun k => hyperliquidCloid (id ++ "-slice-" ++ toString k)).Nodup := by
  have hnodup : ((id :: numbers.map (fun k => id ++ "-slice-" ++ toString k) ++
        [id ++ "-stop-retry"]).map hyperliquidCloid).Nodup ↔
      (hexDigits id).length < 32 ∧
        (numbers.map fun k => hyperliquidCloid (id ++ "-slice-" ++ toString k)).Nodup := by
    rw [List.cons_append, List.map_cons, List.map_append, List.map_map, List.map_singleton,
      List.nodup_cons, List.nodup_append]
    constructor
    · rintro ⟨hparent, hslices, -, -⟩
      refine ⟨?_, hslices⟩
      by_contra hlong
      apply hparent
      rw [List.mem_append, List.mem_singleton]
      exact Or.inr ((cloid_parent_retry id).mpr (not_lt.mp hlong))
    · rintro ⟨hshort, hslices⟩
      refine ⟨fun hparent => ?_, hslices, List.nodup_singleton _, fun a ha b hb hab => ?_⟩
      · rcases List.mem_append.mp hparent with hslice | hretry
        · obtain ⟨k, -, hk⟩ := List.mem_map.mp hslice
          have := (cloid_parent_slice id k).mp hk.symm
          omega
        · have := (cloid_parent_retry id).mp (List.mem_singleton.mp hretry)
          omega
      · obtain ⟨k, -, hk⟩ := List.mem_map.mp ha
        have hretry : hyperliquidCloid (id ++ "-slice-" ++ toString k) =
            hyperliquidCloid (id ++ "-stop-retry") := by
          rw [← List.mem_singleton.mp hb, ← hab]
          exact hk
        have := (cloid_slice_retry id k).mp hretry
        omega
  constructor
  · exact fun h => hnodup.mp h.1
  · intro h
    refine ⟨hnodup.mpr h, fun a ha other hother hne hcancel => ?_⟩
    have hown : a = id ∨ '-' ∈ a.toList := by
      rw [List.cons_append, List.mem_cons, List.mem_append, List.mem_singleton] at ha
      rcases ha with rfl | hslice | rfl
      · exact Or.inl rfl
      · obtain ⟨k, -, rfl⟩ := List.mem_map.mp hslice
        refine Or.inr ?_
        rw [String.toList_append, String.toList_append]
        exact List.mem_append_left _ (List.mem_append_right _ (by decide))
      · refine Or.inr ?_
        rw [String.toList_append]
        exact List.mem_append_right _ (by decide)
    exact hne (List.inj_on_of_nodup_map (hnodup.mpr h) ha hother
      (cancel_other_iff id hown h.1 hcancel))

/-- Numbered from one on, the slices are apart up to the ninth where their numbers fit. -/
theorem nodup_slice_cloids_iff (n : ℕ) :
    (hexDigits id).length < 32 ∧ (((List.range n).map (· + 1)).map fun k =>
        hyperliquidCloid (id ++ "-slice-" ++ toString k)).Nodup ↔
      (hexDigits id).length ≤ 31 ∧ n ≤ 1 ∨ (hexDigits id).length ≤ 29 ∧ n ≤ 9 := by
  have hsame : ∀ {j k : ℕ}, (((List.range n).map (· + 1)).map fun k =>
        hyperliquidCloid (id ++ "-slice-" ++ toString k)).Nodup → 0 < j → j ≤ n → 0 < k → k ≤ n →
      hyperliquidCloid (id ++ "-slice-" ++ toString j) =
        hyperliquidCloid (id ++ "-slice-" ++ toString k) → j = k := by
    intro j k hnodup hj hjn hk hkn heq
    have hmem : ∀ m, 0 < m → m ≤ n → m ∈ (List.range n).map (· + 1) := fun m hm hmn =>
      List.mem_map.mpr ⟨m - 1, List.mem_range.mpr (by omega), by omega⟩
    exact List.inj_on_of_nodup_map hnodup (hmem j hj hjn) (hmem k hk hkn) heq
  constructor
  · rintro ⟨hshort, hnodup⟩
    by_cases hone : n ≤ 1
    · exact Or.inl ⟨by omega, hone⟩
    · refine Or.inr ⟨?_, ?_⟩
      · by_contra hlong
        have := hsame hnodup one_pos (by omega) two_pos (by omega)
          (cloid_slice_slice_of_long id (by omega) 1 2)
        omega
      · by_contra hmany
        have := hsame hnodup one_pos (by omega) (by decide : 0 < 10) (by omega)
          (cloid_slice_one_ten id)
        omega
  · intro h
    refine ⟨by omega, ?_⟩
    rw [List.map_map]
    refine List.Nodup.map_on (fun i hi j hj hij => ?_) List.nodup_range
    rw [List.mem_range] at hi hj
    rcases h with ⟨-, hone⟩ | ⟨hlength, hnine⟩
    · omega
    · by_contra hne
      exact cloid_slice_ne id hlength (by omega : i + 1 < 10) (by omega : j + 1 < 10) (by omega) hij

end Suffixes

/-- Taking or leaving all but the last of some numbers alike takes a beginning or one number. -/
theorem filterMap_range_cases {β : Type} {f : ℕ → Option β} {g : ℕ → β} {c : ℕ}
    (hrest : (∀ i < c, f i = none) ∨ ∀ i < c, f i = some (g i))
    (hlast : f c = none ∨ f c = some (g c)) :
    (∃ n, (List.range (c + 1)).filterMap f = (List.range n).map g) ∨
      ∃ i, (List.range (c + 1)).filterMap f = [g i] := by
  have hsplit : (List.range (c + 1)).filterMap f =
      (List.range c).filterMap f ++ (f c).toList := by
    rw [List.range_succ, List.filterMap_append]
    cases hc : f c with
    | none => rw [List.filterMap_cons_none hc]; rfl
    | some b => rw [List.filterMap_cons_some hc]; rfl
  rcases hrest with hnone | hsome
  · have hempty : (List.range c).filterMap f = [] := by
      rw [List.filterMap_eq_nil_iff]
      exact fun i hi => hnone i (List.mem_range.mp hi)
    rw [hsplit, hempty, List.nil_append]
    rcases hlast with hlast | hlast
    · exact Or.inl ⟨0, by rw [hlast]; rfl⟩
    · exact Or.inr ⟨c, by rw [hlast]; rfl⟩
  · have hmap : (List.range c).filterMap f = (List.range c).map g := by
      rw [← List.filterMap_eq_map']
      exact List.filterMap_congr fun i hi => hsome i (List.mem_range.mp hi)
    rw [hsplit, hmap]
    rcases hlast with hlast | hlast
    · exact Or.inl ⟨c, by rw [hlast, Option.toList_none, List.append_nil]⟩
    · refine Or.inl ⟨c + 1, ?_⟩
      rw [hlast, List.range_succ, List.map_append]
      rfl

/-- The slices are those of a positive size; all but the last have the same. -/
theorem buildTwapSlices_eq (js : Runtime) (intent : TradeIntent) (config : TwapSliceConfig) :
    ∃ (c : ℕ) (sliceSize : ℕ → ℚ) (slice : ℕ → TwapSlice),
      buildTwapSlices js intent config = (List.range (c + 1)).filterMap (fun i =>
        if sliceSize i ≤ 0 then none else some (slice i)) ∧
      (∀ i, (slice i).intent.intentId = intent.intentId ++ "-slice-" ++ toString (i + 1)) ∧
      ∃ chunkSize, ∀ i < c, sliceSize i = chunkSize := by
  unfold buildTwapSlices
  dsimp only
  generalize js.arithmetic.fraction ((positiveOrNull intent.size).getD 0 / _) = chunkSize
  generalize hcount : max 1 (Int.toNat _) = count
  obtain ⟨c, rfl⟩ : ∃ c, count = c + 1 := ⟨count - 1, by omega⟩
  refine ⟨c, _, _, rfl, fun _ => rfl, chunkSize, fun i hi => ?_⟩
  exact if_neg (by omega)

/-- The slices are numbered from one on, or there is only one. -/
theorem intentIds_buildTwapSlices (js : Runtime) (intent : TradeIntent) (config : TwapSliceConfig) :
    ∃ numbers : List ℕ,
      (buildTwapSlices js intent config).map (fun slice => slice.intent.intentId) =
        numbers.map (fun k => intent.intentId ++ "-slice-" ++ toString k) ∧
      ((∃ n, numbers = (List.range n).map (· + 1)) ∨ ∃ k, numbers = [k]) := by
  obtain ⟨c, sliceSize, slice, hslices, hid, chunkSize, hchunk⟩ :=
    buildTwapSlices_eq js intent config
  rw [hslices]
  have hcases : (∃ n, (List.range (c + 1)).filterMap (fun i =>
        if sliceSize i ≤ 0 then none else some (slice i)) = (List.range n).map slice) ∨
      ∃ i, (List.range (c + 1)).filterMap (fun i =>
        if sliceSize i ≤ 0 then none else some (slice i)) = [slice i] := by
    apply filterMap_range_cases
    · by_cases hempty : chunkSize ≤ 0
      · exact Or.inl fun i hi => if_pos ((hchunk i hi).trans_le hempty)
      · exact Or.inr fun i hi => if_neg (by rwa [hchunk i hi])
    · by_cases hempty : sliceSize c ≤ 0
      · exact Or.inl (if_pos hempty)
      · exact Or.inr (if_neg hempty)
  rcases hcases with ⟨n, hn⟩ | ⟨i, hi⟩
  · refine ⟨(List.range n).map (· + 1), ?_, Or.inl ⟨n, rfl⟩⟩
    rw [hn, List.map_map, List.map_map]
    exact List.map_congr_left fun i _ => hid i
  · refine ⟨[i + 1], ?_, Or.inr ⟨i + 1, rfl⟩⟩
    rw [hi, List.map_singleton, List.map_singleton, hid i]

/-- The orders of an intent have client ids of their own exactly where the id of the intent leaves
room for what tells them apart, and there are at most nine slices. -/
theorem own_cloids_iff (js : Runtime) (intent : TradeIntent) (config : TwapSliceConfig) :
    HaveOwnCloids (orderIds js intent config) ↔
      (hexDigits intent.intentId).length ≤ 31 ∧ (buildTwapSlices js intent config).length ≤ 1 ∨
      (hexDigits intent.intentId).length ≤ 29 ∧ (buildTwapSlices js intent config).length ≤ 9 := by
  obtain ⟨numbers, hids, hnumbers⟩ := intentIds_buildTwapSlices js intent config
  have hlength : (buildTwapSlices js intent config).length = numbers.length := by
    have h := congrArg List.length hids
    rwa [List.length_map, List.length_map] at h
  unfold orderIds
  rw [hids, hlength, haveOwnCloids_iff]
  rcases hnumbers with ⟨n, rfl⟩ | ⟨k, rfl⟩
  · rw [List.length_map, List.length_range]
    exact nodup_slice_cloids_iff intent.intentId n
  · rw [List.map_singleton, List.length_singleton]
    constructor
    · rintro ⟨hshort, -⟩
      exact Or.inl ⟨by omega, le_rfl⟩
    · intro h
      exact ⟨by omega, List.nodup_singleton _⟩

/-- A child of a UUID, and a stop that is retried, have the client id of their parent. -/
theorem uuid_shares_cloid :
    let id := "550e8400-e29b-41d4-a716-446655440000"
    orderIds (JavaScript.reference .exact) (anIntent id 1 1) (chunksOf 1) =
        [id, id ++ "-slice-1", id ++ "-stop-retry"] ∧
      hyperliquidCloid id = hyperliquidCloid (id ++ "-slice-1") ∧
      hyperliquidCloid id = hyperliquidCloid (id ++ "-stop-retry") := by
  decide +kernel

end Yevow.Execution
