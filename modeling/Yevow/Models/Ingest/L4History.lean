import Yevow.Core.JavaScript.Reference
import Yevow.Models.Ingest.L4Book

/-!
# What an order-level feed keeps and shows

The cache follows the orders as the messages name them, as long as they name them by text, it
never outgrows its limit, pruning keeps the best orders of each side, and every book sent on
shows the cached orders at its prices.
-/

namespace Yevow.Ingest

open JavaScript (Runtime Json)
open Engine (TradeSide)

variable (js : Runtime)

/-! ## The history of the orders -/

/-- The identifier that an order gives, as a text or as a number. -/
def explicitId (source : Json.Fields) : Option String :=
  match orderIdField source with
  | .string s => if s = "" then none else some s
  | .number (.finite n) => if n.den = 1 then some (toString n.num) else none
  | _ => none

/-- What the accepted orders since the last snapshot did, the latest first: each put an order
under its identifier or deleted the one there. -/
abbrev OrderHistory : Type := List (String × Option DwellirL4OrderState)

/-- The order that stands under an identifier. -/
def standingOrder (history : OrderHistory) (id : String) : Option DwellirL4OrderState :=
  (history.lookup id).join

/-- An order is accepted if it can be read, a deletion only of an order that stands. -/
def recordEntry (receivedAt : String) (history : OrderHistory) (entry : L4OrderEntry) :
    OrderHistory :=
  match normalizeDwellirL4OrderSource entry.value entry.sideHint with
  | none => history
  | some source =>
    match explicitId source with
    | none => history
    | some id =>
      match readMutation js source entry.sideHint (standingOrder history id) receivedAt with
      | none => history
      | some none => if (standingOrder history id).isSome then (id, none) :: history else history
      | some (some order) => (id, some order) :: history

/-- A cache, what its orders did, and whether no order was left out of the last snapshot or
pruned since. -/
structure L4FeedState where
  cache : L4Cache
  history : OrderHistory
  intact : Bool

/-- A feed before its first message. -/
def L4FeedState.start : L4FeedState := ⟨Rows.empty, [], true⟩

/-- A message and the time it arrived. -/
structure L4Message where
  raw : Json.Fields
  receivedAt : String

variable (config : L4StreamConfig)

/-- Some side of a snapshot has more orders than are kept. -/
def isTruncated (data : Json.Fields) : Bool :=
  match snapshotSides data with
  | some sides =>
    decide (sideLimit config.maxCacheOrders < (orderEntries sides.1 (some .buy) "").length) ||
      decide (sideLimit config.maxCacheOrders < (orderEntries sides.2 (some .sell) "").length)
  | none => false

/-- The most orders a cache keeps. -/
def cacheLimit : ℚ := max 100 config.maxCacheOrders

/-- The cache that a message leaves before it is pruned. -/
def unprunedCache (state : L4FeedState) (message : L4Message) : L4Cache :=
  let data := messageData message.raw
  match readHeader js config data message.receivedAt with
  | .ok (some _) => (applyContent js config data state.cache message.receivedAt).1
  | _ => state.cache

/-- The orders of a message that are applied, a whole book before differences. -/
def messageEntries (data : Json.Fields) : List L4OrderEntry :=
  ((snapshotSides data).map (snapshotEntries config.maxCacheOrders)).getD [] ++
    deltaEntries js data

/-- Handle a message and record what its orders did. -/
def L4FeedState.receive (state : L4FeedState) (message : L4Message) : L4FeedState :=
  let data := messageData message.raw
  match readHeader js config data message.receivedAt with
  | .ok (some _) =>
    let replaced := (snapshotSides data).isSome
    { cache := (normalizeDwellirL4BookForEngine js config state.cache message.raw
        message.receivedAt).1
      history := (messageEntries js config data).foldl (recordEntry js message.receivedAt)
        (if replaced then [] else state.history)
      intact := (replaced || state.intact) && !isTruncated config data &&
        !decide (cacheLimit config < (unprunedCache js config state message).entries.length) }
  | _ => state

/-- The feed after some messages. -/
def L4FeedState.afterMessages (messages : List L4Message) : L4FeedState :=
  messages.foldl (receive js config) start

/-! ## The law -/

/-- A level shows the cached orders of a side at its price. -/
def ShowsOrders (cache : L4Cache) (side : TradeSide) (level : DwellirAggregatedLevel) : Prop :=
  let orders := cache.rows.filter fun order =>
    order.side = side ∧ 0 < order.size ∧ order.price = level.px
  level.sz = (orders.map DwellirL4OrderState.size).sum ∧ level.n = orders.length

/-- The book shows the orders of the cache. -/
structure BookShows (cache : L4Cache) (book : L2Book) : Prop where
  bids_descend : (book.bids.map DwellirAggregatedLevel.px).Pairwise (· > ·)
  asks_ascend : (book.asks.map DwellirAggregatedLevel.px).Pairwise (· < ·)
  uncrossed : ∀ bid ∈ book.bids.head?, ∀ ask ∈ book.asks.head?, bid.px < ask.px
  depth : book.bids.length ≤ resolveDwellirL4BookDepthLimit config ∧
    book.asks.length ≤ resolveDwellirL4BookDepthLimit config
  bids_show : ∀ level ∈ book.bids, ShowsOrders cache .buy level
  asks_show : ∀ level ∈ book.asks, ShowsOrders cache .sell level

/-- A price of a side is at least as good as another. -/
def AsGood (side : TradeSide) (price other : ℤ) : Prop := comparePrices side price other ≤ 0

/-- What holds after a message is handled in a state. -/
structure FeedLaw (state : L4FeedState) (message : L4Message) : Prop where
  bounded : ((state.receive js config message).cache.entries.length : ℚ) ≤ cacheLimit config
  cached : (state.receive js config message).intact = true → ∀ id,
    (state.receive js config message).cache.get? id =
      standingOrder (state.receive js config message).history id
  pruned : ∀ id order id' kept,
    (unprunedCache js config state message).get? id = some order →
    (state.receive js config message).cache.get? id = none →
    (state.receive js config message).cache.get? id' = some kept → kept.side = order.side →
    AsGood order.side kept.price order.price
  book : ∀ book, (normalizeDwellirL4BookForEngine js config state.cache message.raw
      message.receivedAt).2 = .ok (some book) →
    BookShows config (state.receive js config message).cache book

/-! ## Messages that name orders by text -/

/-- An order gives its identifier as a text. -/
def isNamedByText (entry : L4OrderEntry) : Bool :=
  (normalizeDwellirL4OrderSource entry.value entry.sideHint).all fun source =>
    (Json.stringifyOrNull (orderIdField source)).isSome

/-- The size of an order, where it can be read, is a whole number of `0.00000001`. -/
def hasWholeSize (entry : L4OrderEntry) : Bool :=
  (normalizeDwellirL4OrderSource entry.value entry.sideHint).all fun source =>
    (readDwellirL4Size js source).all fun size => (size * 10 ^ 8).den = 1

/-! ### The cache follows the history -/

/-- A cache holds the orders that stand. -/
def Follows (cache : L4Cache) (history : OrderHistory) : Prop :=
  ∀ id, cache.get? id = standingOrder history id

private theorem standingOrder_cons (id : String) (order : Option DwellirL4OrderState)
    (history : OrderHistory) (id' : String) :
    standingOrder ((id, order) :: history) id' =
      if id' = id then order else standingOrder history id' := by
  unfold standingOrder
  rw [List.lookup_cons]
  by_cases hid : id' = id
  · simp [hid]
  · rw [if_neg hid, beq_false_of_ne hid]

private theorem textId_spec {js : Runtime} {source : Json.Fields} {id : String}
    (h : Json.stringifyOrNull (orderIdField source) = some id) (fallbackId : String) :
    readDwellirL4OrderId js source fallbackId = id ∧ explicitId source = some id := by
  constructor
  · rw [readDwellirL4OrderId, h]
    rfl
  · unfold explicitId
    unfold Json.stringifyOrNull at h
    split at h
    · next s hs =>
      rw [hs]
      exact h
    · cases h

variable {js : Runtime} {config : L4StreamConfig}

/-- An order named by text does to the cache what the history records. -/
theorem Follows.mutation {cache : L4Cache} {history : OrderHistory} (h : Follows cache history)
    {entry : L4OrderEntry} (hnamed : isNamedByText entry = true) (receivedAt : String) :
    Follows (applyDwellirL4OrderMutation js receivedAt cache entry).1
      (recordEntry js receivedAt history entry) := by
  unfold applyDwellirL4OrderMutation recordEntry
  unfold isNamedByText at hnamed
  cases hsource : normalizeDwellirL4OrderSource entry.value entry.sideHint with
  | none => exact h
  | some source =>
    rw [hsource, Option.all_some, Option.isSome_iff_exists] at hnamed
    obtain ⟨id, hid⟩ := hnamed
    obtain ⟨hread, hexplicit⟩ := @textId_spec js source id hid entry.fallbackId
    simp only [hread, hexplicit, h id]
    cases readMutation js source entry.sideHint (standingOrder history id) receivedAt with
    | none => exact h
    | some change =>
      cases change with
      | none =>
        intro id'
        simp only [Rows.get?_delete]
        split_ifs with hid' hstands hstands
        · rw [standingOrder_cons, if_pos hid']
        · rw [hid']
          exact (Option.not_isSome_iff_eq_none.mp hstands).symm
        · rw [standingOrder_cons, if_neg hid', h id']
        · exact h id'
      | some order =>
        intro id'
        simp only [Rows.get?_set]
        rw [standingOrder_cons, h id']

/-- The cache does not depend on whether something has changed before. -/
private theorem fst_foldl_changed (receivedAt : String) (l : List L4OrderEntry) (cache : L4Cache)
    (b b' : Bool) :
    (l.foldl (fun (state : L4Cache × Bool) entry =>
      let (orderCache, changed) := applyDwellirL4OrderMutation js receivedAt state.1 entry
      (orderCache, state.2 || changed)) (cache, b)).1 =
    (l.foldl (fun (state : L4Cache × Bool) entry =>
      let (orderCache, changed) := applyDwellirL4OrderMutation js receivedAt state.1 entry
      (orderCache, state.2 || changed)) (cache, b')).1 := by
  induction l generalizing cache b b' with
  | nil => rfl
  | cons e l ih => exact ih _ _ _

private theorem applyEntries_cons (receivedAt : String) (cache : L4Cache) (entry : L4OrderEntry)
    (entries : List L4OrderEntry) :
    (applyEntries js receivedAt cache (entry :: entries)).1 =
      (applyEntries js receivedAt (applyDwellirL4OrderMutation js receivedAt cache entry).1
        entries).1 :=
  fst_foldl_changed receivedAt entries _ _ _

/-- What every order keeps, a run of orders keeps. -/
private theorem applyEntries_induction {P : L4Cache → OrderHistory → Prop} {receivedAt : String}
    {entries : List L4OrderEntry}
    (hstep : ∀ cache history, P cache history → ∀ entry ∈ entries,
      P (applyDwellirL4OrderMutation js receivedAt cache entry).1
        (recordEntry js receivedAt history entry))
    {cache : L4Cache} {history : OrderHistory} (h : P cache history) :
    P (applyEntries js receivedAt cache entries).1
      (entries.foldl (recordEntry js receivedAt) history) := by
  induction entries generalizing cache history with
  | nil => exact h
  | cons entry entries ih =>
    rw [applyEntries_cons, List.foldl_cons]
    exact ih (fun cache history hP e he => hstep cache history hP e (List.mem_cons_of_mem _ he))
      (hstep cache history h entry List.mem_cons_self)

/-- What every order keeps, and a new cache has, the content of a message keeps. -/
private theorem applyContent_induction {P : L4Cache → OrderHistory → Prop} {receivedAt : String}
    {data : Json.Fields}
    (hstep : ∀ cache history, P cache history → ∀ entry ∈ messageEntries js config data,
      P (applyDwellirL4OrderMutation js receivedAt cache entry).1
        (recordEntry js receivedAt history entry))
    (hempty : P Rows.empty []) {cache : L4Cache} {history : OrderHistory}
    (h : snapshotSides data = none → P cache history) :
    P (applyContent js config data cache receivedAt).1
      ((messageEntries js config data).foldl (recordEntry js receivedAt)
        (if (snapshotSides data).isSome then [] else history)) := by
  unfold applyContent applyDwellirL4Snapshot applyDwellirL4Deltas
  unfold messageEntries at hstep ⊢
  cases hsides : snapshotSides data with
  | none =>
    simp only [hsides, Option.map_none, Option.getD_none, List.nil_append, Option.isSome_none,
      Bool.false_eq_true, if_false] at hstep ⊢
    exact applyEntries_induction hstep (h hsides)
  | some sides =>
    simp only [hsides, Option.map_some, Option.getD_some, List.foldl_append, Option.isSome_some,
      if_true] at hstep ⊢
    apply applyEntries_induction fun cache history hP e he =>
      hstep cache history hP e (List.mem_append_right _ he)
    exact applyEntries_induction
      (fun cache history hP e he => hstep cache history hP e (List.mem_append_left _ he)) hempty

/-! ### Sizes -/

/-- Every cached size is a whole number of `0.00000001`. -/
def WholeSizes (cache : L4Cache) : Prop :=
  ∀ id order, cache.get? id = some order → ∃ n : ℤ, order.size = n / 10 ^ 8

private theorem size_of_readMutation {source : Json.Fields} {sideHint : Option TradeSide}
    {existing : Option DwellirL4OrderState} {receivedAt : String} {order : DwellirL4OrderState}
    (h : readMutation js source sideHint existing receivedAt = some (some order)) :
    readDwellirL4Size js source = some order.size := by
  unfold readMutation at h
  simp only at h
  split_ifs at h
  · simp at h
  · split at h
    · next side price size hside hprice hsize =>
      split_ifs at h
      obtain rfl := Option.some.inj (Option.some.inj h)
      exact hsize
    · cases h

private theorem WholeSizes.mutation {cache : L4Cache} (h : WholeSizes cache) {entry : L4OrderEntry}
    (hwhole : hasWholeSize js entry = true) (receivedAt : String) :
    WholeSizes (applyDwellirL4OrderMutation js receivedAt cache entry).1 := by
  unfold applyDwellirL4OrderMutation
  unfold hasWholeSize at hwhole
  cases hsource : normalizeDwellirL4OrderSource entry.value entry.sideHint with
  | none => exact h
  | some source =>
    rw [hsource, Option.all_some] at hwhole
    simp only
    split
    · exact h
    · exact Rows.forall_delete h _
    · next order horder =>
      apply Rows.forall_set h
      rw [size_of_readMutation horder, Option.all_some, decide_eq_true_eq] at hwhole
      refine ⟨(order.size * 10 ^ 8).num, ?_⟩
      rw [eq_div_iff (by norm_num)]
      exact (Rat.coe_int_num_of_den_eq_one hwhole).symm

/-! ### Pruning -/

private theorem respects_prices (side : TradeSide) {α : Type} (price : α → ℤ) :
    Sorting.Respects (fun left right => comparePrices side (price left) (price right))
      fun left right => AsGood side (price left) (price right) where
  of_le a b h := h
  of_pos a b h := by
    unfold AsGood comparePrices at *
    cases side <;> simp only at * <;> omega
  trans a b c hab hbc := by
    unfold AsGood comparePrices at *
    cases side <;> simp only at * <;> omega

private theorem mem_sideOrders {cache : L4Cache} {side : TradeSide} {id : String}
    {order : DwellirL4OrderState} :
    (id, order) ∈ sideOrders cache side ↔ cache.get? id = some order ∧ order.side = side := by
  rw [sideOrders, (Sorting.perm_sortBy _ _).mem_iff, List.mem_filter, Rows.mem_entries_iff,
    decide_eq_true_eq]

private theorem nodup_sideOrders (cache : L4Cache) (side : TradeSide) :
    ((sideOrders cache side).map Prod.fst).Nodup := by
  have hperm := (Sorting.perm_sortBy (fun left right : String × DwellirL4OrderState =>
    comparePrices side left.2.price right.2.price)
    (cache.entries.filter fun entry => entry.2.side = side)).map Prod.fst
  exact hperm.nodup_iff.mpr (cache.nodup.sublist (List.filter_sublist.map _))

/-- The orders that pruning keeps. -/
private def keptOrders (cache : L4Cache) (limit : ℕ) : List (String × DwellirL4OrderState) :=
  (sideOrders cache .buy).take limit ++ (sideOrders cache .sell).take limit

private theorem nodup_keptOrders (cache : L4Cache) (limit : ℕ) :
    ((keptOrders cache limit).map Prod.fst).Nodup := by
  rw [keptOrders, List.map_append, List.nodup_append]
  refine ⟨(nodup_sideOrders cache .buy).sublist ((List.take_sublist _ _).map _),
    (nodup_sideOrders cache .sell).sublist ((List.take_sublist _ _).map _), ?_⟩
  rintro a ha b hb rfl
  obtain ⟨⟨id, bid⟩, hbid, rfl⟩ := List.mem_map.mp ha
  obtain ⟨⟨id', ask⟩, hask, hid⟩ := List.mem_map.mp hb
  obtain rfl : id' = id := hid
  obtain ⟨hbid, hbuy⟩ := mem_sideOrders.mp (List.mem_of_mem_take hbid)
  obtain ⟨hask, hsell⟩ := mem_sideOrders.mp (List.mem_of_mem_take hask)
  obtain rfl := Option.some.inj (hbid.symm.trans hask)
  rw [hbuy] at hsell
  cases hsell

private theorem mem_keptOrders {cache : L4Cache} {limit : ℕ} {id : String}
    {order : DwellirL4OrderState} :
    (id, order) ∈ keptOrders cache limit ↔
    (id, order) ∈ (sideOrders cache order.side).take limit := by
  have hside : ∀ side, (id, order) ∈ (sideOrders cache side).take limit → order.side = side :=
    fun side h => (mem_sideOrders.mp (List.mem_of_mem_take h)).2
  rw [keptOrders, List.mem_append]
  constructor
  · rintro (h | h)
    · rwa [hside .buy h]
    · rwa [hside .sell h]
  · intro h
    generalize order.side = side at h
    cases side with
    | buy => exact Or.inl h
    | sell => exact Or.inr h

/-- Two halves of a limit fit into it. -/
private theorem two_sideLimit_le {limit : ℚ} (h : 100 ≤ limit) :
    ((sideLimit limit + sideLimit limit : ℕ) : ℚ) ≤ limit := by
  have hhalf : (1 : ℤ) ≤ ⌊limit / 2⌋ := by
    rw [Int.le_floor]
    push_cast
    linarith
  have hlimit : ((sideLimit limit : ℕ) : ℤ) = ⌊limit / 2⌋ := by
    rw [sideLimit, max_eq_right hhalf, Int.toNat_of_nonneg (by omega)]
  have hcast : ((sideLimit limit : ℕ) : ℚ) = (⌊limit / 2⌋ : ℚ) := by exact_mod_cast hlimit
  have hfloor := Int.floor_le (limit / 2)
  push_cast
  rw [hcast]
  linarith

/-- A pruned cache keeps to its limit, and of each side the best orders. -/
private theorem pruneDwellirL4Cache_spec (cache : L4Cache) {limit : ℚ} (hlimit : 100 ≤ limit) :
    (((pruneDwellirL4Cache cache limit).entries.length : ℕ) : ℚ) ≤ limit ∧
      (∀ id order, (pruneDwellirL4Cache cache limit).get? id = some order →
        cache.get? id = some order) ∧
      ∀ id order id' kept, cache.get? id = some order →
        (pruneDwellirL4Cache cache limit).get? id = none →
        (pruneDwellirL4Cache cache limit).get? id' = some kept → kept.side = order.side →
        AsGood order.side kept.price order.price := by
  by_cases hfits : (cache.entries.length : ℚ) ≤ limit
  · rw [pruneDwellirL4Cache, if_pos hfits]
    refine ⟨hfits, fun id order h => h, ?_⟩
    intro id order id' kept hget hnone
    rw [hget] at hnone
    cases hnone
  · have hkept : pruneDwellirL4Cache cache limit = (keptOrders cache (sideLimit limit)).foldl
        (fun r e => r.set e.1 e.2) Rows.empty := by
      rw [pruneDwellirL4Cache, if_neg hfits]
      rfl
    have hget := @Rows.get?_foldl_set String DwellirL4OrderState _ _
      (nodup_keptOrders cache (sideLimit limit))
    rw [hkept]
    refine ⟨?_, ?_, ?_⟩
    · have hlength := Rows.length_foldl_set_le (keptOrders cache (sideLimit limit)) Rows.empty
      have hkept : (keptOrders cache (sideLimit limit)).length ≤
          sideLimit limit + sideLimit limit := by
        rw [keptOrders, List.length_append, List.length_take, List.length_take]
        omega
      have hrows : (((keptOrders cache (sideLimit limit)).foldl
          (fun r e => r.set e.1 e.2) Rows.empty).entries.length : ℚ) ≤
            ((sideLimit limit + sideLimit limit : ℕ) : ℚ) := by
        have hempty : (Rows.empty : L4Cache).entries.length = 0 := rfl
        exact_mod_cast (by omega : _ ≤ sideLimit limit + sideLimit limit)
      exact hrows.trans (two_sideLimit_le hlimit)
    · intro id order hkept
      rw [hget, mem_keptOrders] at hkept
      exact (mem_sideOrders.mp (List.mem_of_mem_take hkept)).1
    · intro id order id' kept hcached hnone hkept hside
      rw [hget, mem_keptOrders, hside] at hkept
      have hdropped : (id, order) ∈ (sideOrders cache order.side).drop (sideLimit limit) := by
        have hmem := mem_sideOrders.mpr ⟨hcached, rfl⟩
        rw [← List.take_append_drop (sideLimit limit) (sideOrders cache order.side),
          List.mem_append] at hmem
        refine hmem.resolve_left fun hin => ?_
        rw [← mem_keptOrders, ← hget, hnone] at hin
        cases hin
      have hsorted := Sorting.pairwise_sortBy
        (respects_prices order.side fun e : String × DwellirL4OrderState => e.2.price)
        (cache.entries.filter fun e => e.2.side = order.side)
      change (sideOrders cache order.side).Pairwise _ at hsorted
      rw [← List.take_append_drop (sideLimit limit) (sideOrders cache order.side),
        List.pairwise_append] at hsorted
      exact hsorted.2.2 _ hkept _ hdropped

/-! ### Levels -/

/-- A level holds the orders of a list at its price. -/
private def HoldsOrders (orders : List DwellirL4OrderState) (level : DwellirAggregatedLevel) :
    Prop :=
  let atPrice := orders.filter fun order => order.price = level.px
  level.sz = (atPrice.map DwellirL4OrderState.size).sum ∧ level.n = atPrice.length

private theorem addToLevel_spec (orders : List DwellirL4OrderState) (price : ℤ) :
    match (orders.foldl addToLevel Rows.empty).get? price with
    | none => orders.filter (fun order => order.price = price) = []
    | some level => level.px = price ∧ HoldsOrders orders level := by
  induction orders using List.reverseRecOn with
  | nil => rfl
  | append_singleton orders order ih =>
    rw [List.foldl_append, List.foldl_cons, List.foldl_nil, addToLevel, Rows.get?_set]
    by_cases hprice : price = order.price
    · subst hprice
      rw [if_pos rfl]
      cases hlevel : (orders.foldl addToLevel Rows.empty).get? order.price with
      | none =>
        rw [hlevel] at ih
        simp only at ih
        simp [HoldsOrders, ih]
      | some level =>
        rw [hlevel] at ih
        obtain ⟨hpx, hsz, hn⟩ := ih
        rw [hpx] at hsz hn
        simp [HoldsOrders, hpx, hsz, hn]
    · have hother : ∀ p, (p = price) → (orders ++ [order]).filter (fun o => o.price = p) =
          orders.filter fun o => o.price = p := by
        rintro p rfl
        simp [Ne.symm hprice]
      rw [if_neg hprice]
      cases hlevel : (orders.foldl addToLevel Rows.empty).get? price with
      | none =>
        rw [hlevel] at ih
        simp only at ih ⊢
        rw [hother price rfl, ih]
      | some level =>
        rw [hlevel] at ih
        obtain ⟨hpx, hholds⟩ := ih
        refine ⟨hpx, ?_⟩
        unfold HoldsOrders at hholds ⊢
        rwa [hother level.px hpx]

private theorem roundToEight_units (n : ℤ) : roundToEight ((n : ℚ) / 10 ^ 8) = n / 10 ^ 8 := by
  have hround : Arithmetic.mathRound (n : ℚ) = n := by
    rw [Arithmetic.mathRound, Int.floor_eq_iff]
    constructor
    · linarith
    · linarith
  rw [roundToEight, div_mul_cancel₀ _ (by norm_num), hround]

private theorem sum_sizes_units {orders : List DwellirL4OrderState}
    (h : ∀ order ∈ orders, ∃ n : ℤ, order.size = n / 10 ^ 8) :
    ∃ n : ℤ, (orders.map DwellirL4OrderState.size).sum = n / 10 ^ 8 := by
  induction orders with
  | nil => exact ⟨0, by simp⟩
  | cons order orders ih =>
    obtain ⟨m, hm⟩ := h order List.mem_cons_self
    obtain ⟨n, hn⟩ := ih fun o ho => h o (List.mem_cons_of_mem _ ho)
    refine ⟨m + n, ?_⟩
    rw [List.map_cons, List.sum_cons, hm, hn]
    push_cast
    ring

/-- One price is better than another. -/
def Better (side : TradeSide) (price other : ℤ) : Prop := comparePrices side price other < 0

/-- The levels of a side get worse, are not too many, and show the cached orders. -/
private theorem buildLevels_spec {cache : L4Cache} (hwhole : WholeSizes cache) (side : TradeSide)
    (depthLimit : ℕ) :
    let levels := buildDwellirL4AggregatedLevels cache side depthLimit
    (levels.map DwellirAggregatedLevel.px).Pairwise (Better side) ∧
      levels.length ≤ max 1 depthLimit ∧ ∀ level ∈ levels, ShowsOrders cache side level := by
  intro levels
  generalize horders : cache.rows.filter (fun order => order.side = side ∧ 0 < order.size) = orders
  have hspec := addToLevel_spec orders
  generalize hbyPrice : orders.foldl addToLevel Rows.empty = byPrice at hspec
  generalize hsorted : Sorting.sortBy
    (fun left right => comparePrices side left.px right.px) byPrice.rows = sorted
  have hlevels : levels = (sorted.take (max 1 depthLimit)).map fun level =>
      { level with sz := roundToEight level.sz } := by
    simp only [levels, buildDwellirL4AggregatedLevels, horders, hbyPrice, hsorted]
  have hperm : sorted.Perm byPrice.rows := hsorted ▸ Sorting.perm_sortBy _ _
  have hrow : ∀ level ∈ sorted, HoldsOrders orders level := by
    intro level hlevel
    obtain ⟨price, hprice⟩ := Rows.mem_rows_iff.mp (hperm.mem_iff.mp hlevel)
    have hthis := hspec price
    rw [hprice] at hthis
    exact hthis.2
  refine ⟨?_, ?_, ?_⟩
  · have hnodup : (sorted.map DwellirAggregatedLevel.px).Nodup := by
      have hkeys : byPrice.rows.map DwellirAggregatedLevel.px = byPrice.entries.map Prod.fst := by
        rw [Rows.rows, List.map_map]
        apply List.map_congr_left
        rintro ⟨price, level⟩ hentry
        have hthis := hspec price
        rw [Rows.mem_entries_iff.mp hentry] at hthis
        exact hthis.1
      rw [(hperm.map _).nodup_iff, hkeys]
      exact byPrice.nodup
    have hordered : (sorted.map DwellirAggregatedLevel.px).Pairwise (AsGood side) := by
      rw [List.pairwise_map, ← hsorted]
      exact Sorting.pairwise_sortBy (respects_prices side DwellirAggregatedLevel.px) _
    have hstrict : (sorted.map DwellirAggregatedLevel.px).Pairwise (Better side) := by
      apply (hordered.and hnodup).imp
      rintro a b ⟨hab, hne⟩
      unfold AsGood at hab
      unfold Better
      unfold comparePrices at *
      cases side <;> simp only at * <;> omega
    rw [hlevels, List.map_map]
    exact hstrict.sublist ((List.take_sublist _ _).map _)
  · rw [hlevels, List.length_map, List.length_take]
    exact min_le_left _ _
  · intro level hlevel
    rw [hlevels] at hlevel
    obtain ⟨level, hmem, rfl⟩ := List.mem_map.mp hlevel
    obtain ⟨hsz, hn⟩ := hrow level (List.mem_of_mem_take hmem)
    have hcached : cache.rows.filter (fun order =>
        order.side = side ∧ 0 < order.size ∧ order.price = level.px) =
          orders.filter fun order => order.price = level.px := by
      rw [← horders, List.filter_filter]
      apply List.filter_congr
      intro order horder
      simp only [Bool.decide_and, Bool.and_comm, Bool.and_left_comm]
    have hunits : ∀ order ∈ orders.filter (fun order => order.price = level.px),
        ∃ n : ℤ, order.size = n / 10 ^ 8 := by
      intro order horder
      rw [← horders] at horder
      obtain ⟨id, hid⟩ := Rows.mem_rows_iff.mp (List.mem_of_mem_filter
        (List.mem_of_mem_filter horder))
      exact hwhole id order hid
    obtain ⟨n, hsum⟩ := sum_sizes_units hunits
    unfold ShowsOrders
    rw [hcached]
    refine ⟨?_, hn⟩
    rw [hsz, hsum, roundToEight_units]

/-- What is left when the crossing levels are taken off does not cross. -/
private theorem sanitize_spec (bids asks : List DwellirAggregatedLevel) :
    let book := sanitizeCrossedAggregatedBook bids asks
    book.1 <:+ bids ∧ book.2.1 <:+ asks ∧
      ∀ bid ∈ book.1.head?, ∀ ask ∈ book.2.1.head?, bid.px < ask.px := by
  induction bids generalizing asks with
  | nil =>
    rw [sanitizeCrossedAggregatedBook]
    · exact ⟨List.suffix_refl _, List.suffix_refl _, by simp⟩
    · simp
  | cons bid bids ih =>
    cases asks with
    | nil => exact ⟨List.suffix_refl _, List.suffix_refl _, by simp [sanitizeCrossedAggregatedBook]⟩
    | cons ask asks =>
      rw [sanitizeCrossedAggregatedBook]
      by_cases hfine : bid.px < ask.px
      · rw [if_pos hfine]
        refine ⟨List.suffix_refl _, List.suffix_refl _, ?_⟩
        simpa using hfine
      · rw [if_neg hfine]
        obtain ⟨hbids, hasks, huncrossed⟩ := ih asks
        exact ⟨hbids.trans (List.suffix_cons _ _), hasks.trans (List.suffix_cons _ _), huncrossed⟩

private theorem bookShows {cache : L4Cache} (hwhole : WholeSizes cache) {coin : String}
    {time : JavaScript.Timestamp} {sequence : Json} {book : L2Book}
    (h : bookOfCache config cache coin time sequence = some book) :
    BookShows config cache book := by
  have hdepth : max 1 (resolveDwellirL4BookDepthLimit config) =
      resolveDwellirL4BookDepthLimit config := max_eq_right (le_max_left _ _)
  obtain ⟨hbids, hbidCount, hbidShow⟩ :=
    buildLevels_spec hwhole .buy (resolveDwellirL4BookDepthLimit config)
  obtain ⟨hasks, haskCount, haskShow⟩ :=
    buildLevels_spec hwhole .sell (resolveDwellirL4BookDepthLimit config)
  rw [hdepth] at hbidCount haskCount
  unfold bookOfCache at h
  simp only at h
  split_ifs at h
  obtain rfl := Option.some.inj h
  obtain ⟨hbidSuffix, haskSuffix, huncrossed⟩ := sanitize_spec
    (buildDwellirL4AggregatedLevels cache .buy (resolveDwellirL4BookDepthLimit config))
    (buildDwellirL4AggregatedLevels cache .sell (resolveDwellirL4BookDepthLimit config))
  exact
    { bids_descend := (hbids.sublist (hbidSuffix.sublist.map _)).imp fun hlt => by
        unfold Better comparePrices at hlt
        simp only at hlt
        omega
      asks_ascend := (hasks.sublist (haskSuffix.sublist.map _)).imp fun hlt => by
        unfold Better comparePrices at hlt
        simp only at hlt
        omega
      uncrossed := huncrossed
      depth := ⟨hbidSuffix.length_le.trans hbidCount, haskSuffix.length_le.trans haskCount⟩
      bids_show := fun level hlevel => hbidShow level (hbidSuffix.subset hlevel)
      asks_show := fun level hlevel => haskShow level (haskSuffix.subset hlevel) }

/-! ## Runs of messages -/

/-- What every message keeps. -/
structure FeedInvariant (config : L4StreamConfig) (state : L4FeedState) : Prop where
  bounded : (state.cache.entries.length : ℚ) ≤ cacheLimit config
  whole : WholeSizes state.cache
  follows : state.intact = true → Follows state.cache state.history

private theorem limit_le (config : L4StreamConfig) : (100 : ℚ) ≤ cacheLimit config :=
  le_max_left _ _

private theorem feedInvariant_start (config : L4StreamConfig) :
    FeedInvariant config .start where
  bounded := by
    show ((0 : ℕ) : ℚ) ≤ cacheLimit config
    have hlimit := limit_le config
    push_cast
    linarith
  whole id order h := by cases h
  follows _ id := rfl

/-- A message with a coin leaves its pruned content and sends the book it shows. -/
private theorem normalize_of_header {message : L4Message} {coin : String}
    {time : JavaScript.Timestamp} {sequence : Json}
    (hheader : readHeader js config (messageData message.raw) message.receivedAt =
      .ok (some (coin, time, sequence))) (orderCache : L4Cache) :
    let result := normalizeDwellirL4BookForEngine js config orderCache message.raw
      message.receivedAt
    let next := pruneDwellirL4Cache (applyContent js config (messageData message.raw) orderCache
      message.receivedAt).1 (cacheLimit config)
    result.1 = next ∧ ∀ book, result.2 = .ok (some book) →
      bookOfCache config next coin time sequence = some book := by
  unfold normalizeDwellirL4BookForEngine
  simp only [hheader]
  rcases applyContent js config (messageData message.raw) orderCache message.receivedAt with
    ⟨cache, mutated⟩
  simp only
  split_ifs with hquiet
  · simp only [Bool.and_eq_true, List.isEmpty_iff] at hquiet
    have hfits : (cache.entries.length : ℚ) ≤ cacheLimit config := by
      have hlimit := limit_le config
      rw [hquiet.2, List.length_nil, Nat.cast_zero]
      linarith
    refine ⟨?_, fun book hbook => by simp at hbook⟩
    rw [pruneDwellirL4Cache, if_pos hfits]
  · exact ⟨rfl, fun book hbook => Except.ok.inj hbook⟩

/-- A message whose orders are named by text and have whole sizes keeps the invariant, and the
law holds after it. -/
private theorem FeedInvariant.receive {state : L4FeedState} (h : FeedInvariant config state)
    {message : L4Message} (hentries : ∀ entry ∈ messageEntries js config (messageData message.raw),
      isNamedByText entry = true ∧ hasWholeSize js entry = true) :
    FeedInvariant config (state.receive js config message) ∧ FeedLaw js config state message := by
  have hlaw : ∀ next, state.receive js config message = next → FeedInvariant config next →
      (∀ id order id' kept, (unprunedCache js config state message).get? id = some order →
        next.cache.get? id = none → next.cache.get? id' = some kept → kept.side = order.side →
        AsGood order.side kept.price order.price) →
      (∀ book, (normalizeDwellirL4BookForEngine js config state.cache message.raw
        message.receivedAt).2 = .ok (some book) → BookShows config next.cache book) →
      FeedInvariant config (state.receive js config message) ∧ FeedLaw js config state message := by
    rintro next rfl hnext hpruned hbook
    exact ⟨hnext, hnext.bounded, fun hintact => hnext.follows hintact, hpruned, hbook⟩
  cases hheader : readHeader js config (messageData message.raw) message.receivedAt with
  | error e =>
    apply hlaw state (by simp only [L4FeedState.receive, hheader]) h
    · intro id order id' kept hget hnone
      rw [unprunedCache, hheader] at hget
      rw [hget] at hnone
      cases hnone
    · intro book hbook
      simp [normalizeDwellirL4BookForEngine, hheader] at hbook
  | ok header =>
    cases header with
    | none =>
      apply hlaw state (by simp only [L4FeedState.receive, hheader]) h
      · intro id order id' kept hget hnone
        rw [unprunedCache, hheader] at hget
        rw [hget] at hnone
        cases hnone
      · intro book hbook
        simp [normalizeDwellirL4BookForEngine, hheader] at hbook
    | some header =>
      obtain ⟨coin, time, sequence⟩ := header
      obtain ⟨hcache, hsent⟩ := normalize_of_header hheader state.cache
      have hunpruned : unprunedCache js config state message = (applyContent js config
          (messageData message.raw) state.cache message.receivedAt).1 := by
        rw [unprunedCache, hheader]
      have hnext : state.receive js config message =
          { cache := pruneDwellirL4Cache (unprunedCache js config state message)
              (cacheLimit config)
            history := (messageEntries js config (messageData message.raw)).foldl
              (recordEntry js message.receivedAt)
              (if (snapshotSides (messageData message.raw)).isSome then [] else state.history)
            intact := ((snapshotSides (messageData message.raw)).isSome || state.intact) &&
              !isTruncated config (messageData message.raw) && !decide (cacheLimit config <
                (unprunedCache js config state message).entries.length) } := by
        rw [hunpruned, ← hcache]
        simp only [L4FeedState.receive, hheader, hunpruned]
      have hwhole : WholeSizes (unprunedCache js config state message) := by
        rw [hunpruned]
        exact @applyContent_induction js config (fun cache _ => WholeSizes cache)
          message.receivedAt (messageData message.raw)
          (fun cache _ hcache entry hentry => hcache.mutation (hentries entry hentry).2 _)
          (fun id order h => by cases h) state.cache state.history fun _ => h.whole
      obtain ⟨hbounded, hkept, hbest⟩ :=
        pruneDwellirL4Cache_spec (unprunedCache js config state message) (limit_le config)
      have hpruned : WholeSizes (pruneDwellirL4Cache (unprunedCache js config state message)
          (cacheLimit config)) := fun id order hget => hwhole id order (hkept id order hget)
      apply hlaw _ hnext ⟨hbounded, hpruned, ?_⟩ hbest
      · intro book hbook
        rw [hunpruned] at hpruned ⊢
        exact bookShows hpruned (hsent book hbook)
      · intro hintact
        simp only [Bool.and_eq_true, Bool.or_eq_true, Bool.not_eq_true', decide_eq_false_iff_not,
          not_lt] at hintact
        obtain ⟨⟨hfresh, -⟩, hfits⟩ := hintact
        rw [pruneDwellirL4Cache, if_pos hfits, hunpruned]
        apply applyContent_induction (P := Follows)
          (fun cache history hfollows entry hentry =>
            hfollows.mutation (hentries entry hentry).1 _) (fun id => rfl)
        intro hnone
        rw [hnone] at hfresh
        exact h.follows (hfresh.resolve_left (by simp))

/-- As long as every order is named by a text and its size is a whole number of `0.00000001`,
the cache holds the orders that stand, keeps to its limit and to the best orders of each side,
and the book sent on shows it. -/
theorem feed_law (js : Runtime) (config : L4StreamConfig) (messages : List L4Message)
    (message : L4Message)
    (hentries : ∀ m ∈ messages ++ [message],
      ∀ entry ∈ messageEntries js config (messageData m.raw),
        isNamedByText entry = true ∧ hasWholeSize js entry = true) :
    FeedLaw js config (.afterMessages js config messages) message := by
  have hinvariant : FeedInvariant config (.afterMessages js config messages) := by
    have hall : ∀ m ∈ messages, ∀ entry ∈ messageEntries js config (messageData m.raw),
        isNamedByText entry = true ∧ hasWholeSize js entry = true :=
      fun m hm => hentries m (List.mem_append_left _ hm)
    clear hentries
    induction messages using List.reverseRecOn with
    | nil => exact feedInvariant_start config
    | append_singleton messages last ih =>
      rw [L4FeedState.afterMessages, List.foldl_append]
      exact ((ih fun m hm => hall m (List.mem_append_left _ hm)).receive
        (hall last (by simp))).1
  exact (hinvariant.receive (hentries message (by simp))).2

/-- The law for a snapshot and a deletion from it. -/
theorem feed_law_delete :
    let js := JavaScript.reference Arithmetic.double
    let config : L4StreamConfig := ⟨some "btc-usd", some 100, some 100, 10000⟩
    let order (id : String) (price size : ℚ) : Json := .object [("oid", .string id),
      ("px", .number (.finite price)), ("sz", .number (.finite size))]
    let snapshot : L4Message := ⟨[("levels", .array [
      .array [order "bid-1" 100000 1, order "bid-2" 99999 2], .array [order "ask-1" 100001 3]])],
      "t0"⟩
    let deletion : L4Message := ⟨[("book_diffs", .array [.object [("oid", .string "bid-1"),
      ("raw_book_diff", .object [("new", .null)])]])], "t1"⟩
    FeedLaw js config (.afterMessages js config [snapshot]) deletion := by
  intro js config order snapshot deletion
  exact feed_law js config [snapshot] deletion (by decide +kernel)

/-- Two orders that give their identifiers as numbers: the second takes the place of the first
in the cache, under the identifier that stands in for a missing one. -/
theorem numeric_ids_collide :
    let js := JavaScript.reference Arithmetic.double
    let config : L4StreamConfig := ⟨some "btc-usd", some 100, some 100, 10000⟩
    let diff (id size : ℚ) : Json := .object [("oid", .number (.finite id)), ("side", .string "B"),
      ("px", .number (.finite 100)), ("sz", .number (.finite size))]
    let first : L4Message := ⟨[("book_diffs", .array [diff 7 1])], "t0"⟩
    let second : L4Message := ⟨[("book_diffs", .array [diff 8 2])], "t1"⟩
    let state := L4FeedState.afterMessages js config [first]
    let next := state.receive js config second
    next.cache.rows = [⟨.buy, 10000000000, 2, "t1"⟩] ∧
      standingOrder next.history "7" = some ⟨.buy, 10000000000, 1, "t0"⟩ ∧
      standingOrder next.history "8" = some ⟨.buy, 10000000000, 2, "t1"⟩ ∧
      ¬FeedLaw js config state second := by
  intro js config diff first second state next
  have hfirst : standingOrder next.history "7" = some ⟨.buy, 10000000000, 1, "t0"⟩ := by
    decide +kernel
  refine ⟨by decide +kernel, hfirst, by decide +kernel, fun h => ?_⟩
  have hcached := h.cached (by decide +kernel) "7"
  rw [hfirst] at hcached
  have hnone : next.cache.get? "7" = none := by decide +kernel
  rw [hnone] at hcached
  cases hcached

end Yevow.Ingest
