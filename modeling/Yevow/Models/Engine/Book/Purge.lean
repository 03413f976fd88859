import Yevow.Models.Engine.Book.Synchronization

/-!
# What a reset leaves in the engine state

A sequence gap or a crossed book resets the market. The reset names the market by instrument
and exchange, not by the key its book is stored under, and takes the depth and the price
discovery from the stores as they are before it purges them.
-/

namespace Yevow.Engine

open JavaScript (Runtime)

variable (ar : EngineArithmetic)

/-! ## Metrics of a book -/

/-- What the engine shows of the top of a book. -/
structure MicrostructureMetrics where
  marketKey : Option String
  instrumentCode : Option String
  exchangeCode : Option String
  sourceExchange : Option String
  sourceWeight : ℚ
  bestBid : Option ℚ
  bestAsk : Option ℚ
  midPrice : Option ℚ
  spread : Option ℚ
  spreadBps : Option ℚ
  bidVolume : ℚ
  askVolume : ℚ
  weightedImbalance : Option ℚ
  depthLevels : ℕ
  lastSequence : Option ℤ
  timeToBookMs : Option ℤ
  isSynced : Bool
  updatedAt : Option String
  deriving DecidableEq

/-- No book is shown. -/
def defaultMicrostructure : MicrostructureMetrics where
  marketKey := none
  instrumentCode := none
  exchangeCode := none
  sourceExchange := none
  sourceWeight := 1
  bestBid := none
  bestAsk := none
  midPrice := none
  spread := none
  spreadBps := none
  bidVolume := 0
  askVolume := 0
  weightedImbalance := none
  depthLevels := 0
  lastSequence := none
  timeToBookMs := none
  isSynced := false
  updatedAt := none

/-- `roundMetric(value, decimalPlaces)`. -/
def EngineArithmetic.roundMetric (value : ℚ) (decimalPlaces : ℕ) : ℚ :=
  ar.div (Arithmetic.mathRound (ar.mul value (10 ^ decimalPlaces))) (10 ^ decimalPlaces)

/-- The volume of some levels. -/
def sumVolume (levels : List PriceLevel) : ℚ :=
  levels.foldl (fun total level => ar.add total level.size) 0

/-- `buildMicrostructureSnapshot` of the levels a book shows. -/
def microstructureFromBook (book : InternalOrderBook) : MicrostructureMetrics :=
  let both := book.bestBid.bind fun bid => book.bestAsk.map fun ask => (bid, ask)
  let spread := both.map fun best => ar.roundCrypto (ar.sub best.2 best.1)
  let midPrice := both.map fun best => ar.roundCrypto (ar.div (ar.add best.1 best.2) 2)
  let bidVolume := ar.roundCrypto (sumVolume ar book.bids)
  let askVolume := ar.roundCrypto (sumVolume ar book.asks)
  let totalVolume := ar.add bidVolume askVolume
  { marketKey := some book.marketKey
    instrumentCode := some book.instrumentCode
    exchangeCode := some book.exchangeCode
    sourceExchange := some book.sourceExchange
    sourceWeight := book.sourceWeight
    bestBid := book.bestBid
    bestAsk := book.bestAsk
    midPrice := midPrice
    spread := spread
    spreadBps := spread.bind fun spread => (midPrice.filter (· ≠ 0)).map fun mid =>
      ar.roundMetric (ar.mul (ar.div spread mid) 10000) 4
    bidVolume := bidVolume
    askVolume := askVolume
    weightedImbalance :=
      if 0 < totalVolume then
        some (ar.roundMetric (ar.div (ar.sub bidVolume askVolume) totalVolume) 8)
      else none
    depthLevels := book.bids.length + book.asks.length
    lastSequence := book.lastSequence
    timeToBookMs := book.ttbLatencyMs
    isSynced := book.isSynced
    updatedAt := some book.updatedAt }

/-! ## Price discovery -/

/-- A book that counts towards the price of an instrument. -/
structure PriceDiscoverySource where
  marketKey : String
  source : MarketDataSource
  sourceExchange : String
  exchangeCode : String
  instrumentCode : String
  weight : ℚ
  midPrice : ℚ
  spreadBps : Option ℚ
  weightedImbalance : Option ℚ
  updatedAt : String
  deriving DecidableEq

/-- The price of an instrument over its books. -/
structure PriceDiscoveryMetrics where
  instrumentCode : Option String
  weightedMidPrice : Option ℚ
  primaryExchange : Option String
  primaryWeight : ℚ
  sourceCount : ℕ
  sources : List PriceDiscoverySource
  updatedAt : Option String
  deriving DecidableEq

/-- No price is discovered. -/
def defaultPriceDiscovery : PriceDiscoveryMetrics where
  instrumentCode := none
  weightedMidPrice := none
  primaryExchange := none
  primaryWeight := 0
  sourceCount := 0
  sources := []
  updatedAt := none

/-- What a book adds to the price of an instrument, or of all instruments. -/
def priceDiscoverySource (instrument : Option String) (book : InternalOrderBook) :
    Option PriceDiscoverySource :=
  let metrics := microstructureFromBook ar book
  if ∃ code ∈ instrument, code ≠ "" ∧ book.instrumentCode ≠ code then none
  else metrics.midPrice.map fun midPrice =>
    { marketKey := book.marketKey
      source := book.source
      sourceExchange := book.sourceExchange
      exchangeCode := book.exchangeCode
      instrumentCode := book.instrumentCode
      weight := book.sourceWeight
      midPrice := midPrice
      spreadBps := metrics.spreadBps
      weightedImbalance := metrics.weightedImbalance
      updatedAt := book.updatedAt }

/-- The heaviest source, of equal ones the first. -/
def primarySource (sources : List PriceDiscoverySource) : Option PriceDiscoverySource :=
  sources.foldl (fun primary source =>
    match primary with
    | some best => if source.weight > best.weight then some source else some best
    | none => some source) none

/-- The price of an instrument from its books. -/
def calculateOrderBookPriceDiscovery (orderBook : List InternalOrderBook)
    (instrumentCode : Option String) (observedAt : String) : PriceDiscoveryMetrics :=
  let normalizedInstrument := instrumentCode.map String.toLower
  let sources := orderBook.filterMap (priceDiscoverySource ar normalizedInstrument)
  let totalWeight := sources.foldl (fun sum source => ar.add sum source.weight) 0
  let weightedMid :=
    sources.foldl (fun sum source => ar.add sum (ar.mul source.midPrice source.weight)) 0
  { instrumentCode := normalizedInstrument
    weightedMidPrice :=
      if totalWeight > 0 then some (ar.roundCrypto (ar.div weightedMid totalWeight)) else none
    primaryExchange := (primarySource sources).map (·.sourceExchange)
    primaryWeight := ((primarySource sources).map (·.weight)).getD 0
    sourceCount := sources.length
    sources := sources
    updatedAt := if 0 < sources.length then some observedAt else none }

/-! ## The engine state after a reset -/

/-- The part of the engine state that a reset writes, over the type of its DOM analysis. -/
structure BookEngineState (D : Type) where
  internalOrderBookDepth : ℕ
  microstructure : MicrostructureMetrics
  priceDiscovery : PriceDiscoveryMetrics
  dom : Option D
  heartbeatAt : String
  updatedAt : String
  deriving DecidableEq

/-- The levels of all books. -/
def countBookLevels (bids asks : Rows String SortedBookSide) : ℕ :=
  bids.total SortedBookSide.size + asks.total SortedBookSide.size

variable {D : Type}

/-- The engine after its books were reset. -/
def stateAfterOrderBookReset (currentState : BookEngineState D)
    (resetMarketKey resetInstrument : Option String) (orderBookSize internalOrderBookDepth : ℕ)
    (now : String) (priceDiscovery : Option PriceDiscoveryMetrics) : BookEngineState D where
  internalOrderBookDepth := internalOrderBookDepth
  microstructure :=
    if resetMarketKey.isSome ∧ currentState.microstructure.marketKey ≠ resetMarketKey ∧
      0 < orderBookSize then currentState.microstructure
    else defaultMicrostructure
  priceDiscovery :=
    if resetInstrument.isSome then priceDiscovery.getD defaultPriceDiscovery
    else defaultPriceDiscovery
  dom := none
  heartbeatAt := now
  updatedAt := now

/-- The instrument of a reset, where it names one. -/
def resetInstrument (instrumentCode : Option String) : Option String :=
  (instrumentCode.map String.toLower).filter (· ≠ "")

/-- An engine's books and its state. -/
structure TradingBooks (D : Type) where
  host : BookHost
  engineState : BookEngineState D

namespace TradingBooks

variable (books : TradingBooks D)

/-- `resetTradingOrderBook`: depth and price discovery are read before the purge. -/
def resetOrderBook (instrumentCode sourceExchange : Option String) (storageAnswers : Bool)
    (now : String) : TradingBooks D :=
  let stores := books.host.stores
  let instrument := resetInstrument instrumentCode
  { host := books.host.resetOrderBook instrumentCode sourceExchange storageAnswers
    engineState := stateAfterOrderBookReset books.engineState
      (resolveResetMarketKey instrumentCode sourceExchange) instrument
      stores.orderBook.rows.length (countBookLevels stores.bids stores.asks) now
      (instrument.map fun code =>
        calculateOrderBookPriceDiscovery ar stores.orderBook.rows (some code) now) }

/-- The books with other stores. -/
def withStores (stores : OrderBookStores) : TradingBooks D :=
  { books with host := { books.host with stores := stores } }

/-- `applyOrderBookSequenceGapSideEffects` and `applyCrossedBookSideEffects`. -/
def desyncAndReset (key : String) (syncState : BookSyncState) (reason : DeltaRejection)
    (observedAt : String) (timeToBookMs : ℤ) (instrumentCode sourceExchange : String)
    (storageAnswers : Bool) (now : String) : TradingBooks D :=
  (books.withStores (books.host.stores.setSync key
      (markBookDesynced syncState reason.text observedAt (some timeToBookMs)))).resetOrderBook ar
    (some instrumentCode) (some sourceExchange) storageAnswers now

variable (config : OrderBookReconstructorConfig)

/-- `applyDelta` behind the sequence gate, with the engine's own reset. -/
def applyGatedDelta (market : OrderBookMarketContext) (delta : BookDelta)
    (syncState : BookSyncState) (updatedAt : String) (timeToBookMs : ℤ) (time : CrossCheckTime)
    (storageAnswers : Bool) (now : String) : Except String AppliedBookUpdate × TradingBooks D :=
  let key := market.marketKey
  let opened := books.host.stores.getInstrumentBook key delta.side
  match opened.upsert ar delta.price delta.size updatedAt market.tickSize with
  | .error e => (.error e, books.withStores (books.host.stores.setSide key opened delta.side))
  | .ok side =>
    let next := applyDeltaBookSyncState syncState market delta.sequence updatedAt
      syncState.wasSnapshotSeeded timeToBookMs
    let (book, stores) :=
      books.host.stores.editBook config market delta next side updatedAt timeToBookMs
    if isCrossedBook book then
      (.ok (.rejected .crossedBook syncState.lastSequence timeToBookMs),
        (books.withStores stores).desyncAndReset ar key next .crossedBook updatedAt timeToBookMs
          book.instrumentCode book.sourceExchange storageAnswers now)
    else
      let status := evaluateTopOfBookCrossCheck ar config next delta book time.checkedAtMs
      (.ok (.accepted book status timeToBookMs),
        books.withStores (stores.setSync key (applyTopOfBookCrossCheckSync next status time)))

/-- `applyDelta` with the engine's own reset. -/
def applyDelta (delta : BookDelta) (updatedAt : String) (time : CrossCheckTime)
    (storageAnswers : Bool) (now : String) : Except String AppliedBookUpdate × TradingBooks D :=
  let market := resolveBookMarketContext config delta.toBookMessage
  let key := market.marketKey
  let syncState := getOrCreateBookSyncState books.host.stores.sync market delta.source
  let books := books.withStores (books.host.stores.setSync key syncState)
  match config.calculateTimeToBookMs delta.exchangeTimestamp updatedAt with
  | .error e => (.error e, books)
  | .ok timeToBookMs =>
    if opensSequenceGap syncState.lastSequence delta.source delta.sequence then
      (.ok (.rejected .sequenceGap syncState.lastSequence timeToBookMs),
        books.desyncAndReset ar key syncState .sequenceGap updatedAt timeToBookMs
          market.instrumentCode market.sourceExchange storageAnswers now)
    else if isDuplicateOrOutOfOrder syncState.lastSequence delta.sequence then
      (.ok (.rejected .duplicateOrOutOfOrder syncState.lastSequence timeToBookMs), books)
    else
      books.applyGatedDelta ar config market delta syncState updatedAt timeToBookMs time
        storageAnswers now

/-- `handleCrossedBookSnapshot` with the engine's own reset. -/
def handleCrossedBookSnapshot (book : InternalOrderBook) (timeToBookMs : ℤ) (observedAt : String)
    (storageAnswers : Bool) (now : String) : TradingBooks D :=
  books.desyncAndReset ar book.marketKey
    (getOrCreateBookSyncState books.host.stores.sync book.market book.source) .crossedBook
    observedAt timeToBookMs book.instrumentCode book.sourceExchange storageAnswers now

end TradingBooks

/-! ## What a reset should leave -/

namespace OrderBookStores

/-- Nothing is stored under a key. -/
structure Absent (stores : OrderBookStores) (key : String) : Prop where
  orderBook : stores.orderBook.get? key = none
  bids : stores.bids.get? key = none
  asks : stores.asks.get? key = none
  sync : stores.sync.get? key = none

/-- The same is stored under a key. -/
structure Agree (stores stores' : OrderBookStores) (key : String) : Prop where
  orderBook : stores'.orderBook.get? key = stores.orderBook.get? key
  bids : stores'.bids.get? key = stores.bids.get? key
  asks : stores'.asks.get? key = stores.asks.get? key
  sync : stores'.sync.get? key = stores.sync.get? key

/-- The levels stored under a key. -/
def levels (stores : OrderBookStores) (key : String) : ℕ :=
  (stores.bids.get? key).elim 0 SortedBookSide.size +
    (stores.asks.get? key).elim 0 SortedBookSide.size

variable {stores stores' stores'' : OrderBookStores} {key k : String}

private theorem Agree.trans (h : stores.Agree stores' key) (h' : stores'.Agree stores'' key) :
    stores.Agree stores'' key :=
  ⟨h'.orderBook.trans h.orderBook, h'.bids.trans h.bids, h'.asks.trans h.asks,
    h'.sync.trans h.sync⟩

private theorem Agree.absent (h : stores.Agree stores' key) (h' : stores'.Absent key) :
    stores.Absent key :=
  ⟨h.orderBook.symm.trans h'.orderBook, h.bids.symm.trans h'.bids, h.asks.symm.trans h'.asks,
    h.sync.symm.trans h'.sync⟩

private theorem Agree.absent_of (h : stores.Agree stores' key) (h' : stores.Absent key) :
    stores'.Absent key :=
  ⟨h.orderBook.trans h'.orderBook, h.bids.trans h'.bids, h.asks.trans h'.asks,
    h.sync.trans h'.sync⟩

private theorem agree_setSync (stores : OrderBookStores) (syncState : BookSyncState)
    (hk : k ≠ key) :
    stores.Agree (stores.setSync key syncState) k :=
  ⟨rfl, rfl, rfl, by rw [sync_setSync, Rows.get?_set, if_neg hk]⟩

private theorem agree_setSide (stores : OrderBookStores) (book : SortedBookSide)
    (side : OrderBookSide)
    (hk : k ≠ key) : stores.Agree (stores.setSide key book side) k := by
  cases side with
  | bid => exact ⟨rfl, by rw [setSide, Rows.get?_set, if_neg hk], rfl, rfl⟩
  | ask => exact ⟨rfl, rfl, by rw [setSide, Rows.get?_set, if_neg hk], rfl⟩

private theorem agree_rebuildBookSnapshot {config : OrderBookReconstructorConfig}
    {market : OrderBookMarketContext} {source : MarketDataSource} {syncState : BookSyncState}
    {sequence : ℤ} {updatedAt : String} {timeToBookMs : ℤ} (stores : OrderBookStores)
    (hk : k ≠ market.marketKey) :
    stores.Agree (stores.rebuildBookSnapshot config market source syncState sequence updatedAt
      timeToBookMs) k :=
  ⟨by rw [orderBook_rebuildBookSnapshot, Rows.get?_set, if_neg hk],
    by rw [rebuildBookSnapshot, Rows.get?_set, if_neg hk],
    by rw [rebuildBookSnapshot, Rows.get?_set, if_neg hk], rfl⟩

private theorem absent_reset_self : (stores.reset (some key)).Absent key := by
  constructor <;> simp [reset, Rows.get?_delete]

private theorem agree_reset (hk : k ≠ key) : stores.Agree (stores.reset (some key)) k := by
  constructor <;> simp [reset, Rows.get?_delete, hk]

private theorem absent_reset_none : (stores.reset none).Absent key := by
  constructor <;> rfl

/-- The levels of all markets are those of one and those of the others. -/
theorem countBookLevels_reset (stores : OrderBookStores) (key : String) :
    countBookLevels stores.bids stores.asks = stores.levels key +
      countBookLevels (stores.reset (some key)).bids (stores.reset (some key)).asks := by
  have hbids := Rows.total_eq_add_delete SortedBookSide.size stores.bids key
  have hasks := Rows.total_eq_add_delete SortedBookSide.size stores.asks key
  show stores.bids.total SortedBookSide.size + stores.asks.total SortedBookSide.size =
    stores.levels key + ((stores.bids.delete key).total SortedBookSide.size +
      (stores.asks.delete key).total SortedBookSide.size)
  unfold levels
  omega

private theorem countBookLevels_eq_zero (h : ∀ k, stores.Absent k) :
    countBookLevels stores.bids stores.asks = 0 := by
  have hbids :
    stores.bids.total SortedBookSide.size = 0 := Rows.total_eq_zero fun k side hside => by
    rw [(h k).bids] at hside
    contradiction
  have hasks :
    stores.asks.total SortedBookSide.size = 0 := Rows.total_eq_zero fun k side hside => by
    rw [(h k).asks] at hside
    contradiction
  unfold countBookLevels
  omega

private theorem countBookLevels_reset_none (stores : OrderBookStores) :
    countBookLevels (stores.reset none).bids (stores.reset none).asks = 0 := rfl

end OrderBookStores

/-! ## What a purged book changes -/

/-- A book that price discovery does not use for an instrument. -/
def InternalOrderBook.Uncounted (book : InternalOrderBook) (instrument : String) : Prop :=
  book.instrumentCode ≠ instrument ∨ (microstructureFromBook ar book).midPrice = none

section Discovery

variable {β γ : Type} {key : String}

/-- A row that a list does not keep can as well be deleted. -/
theorem filterMap_delete {f : β → Option γ} {r : Rows String β}
    (h : ∀ v, r.get? key = some v → f v = none) :
    (r.delete key).rows.filterMap f = r.rows.filterMap f := by
  unfold Rows.rows Rows.delete
  rw [List.filterMap_map, List.filterMap_map, List.filterMap_filter]
  apply List.filterMap_congr
  rintro ⟨k, v⟩ hmem
  by_cases hk : k = key
  · have hv := h v (Rows.mem_entries_iff.mp (hk ▸ hmem))
    simp [hk, hv]
  · simp [hk]

/-- A row that a list keeps makes it longer. -/
theorem length_filterMap_delete {f : β → Option γ} {r : Rows String β} {v : β} {c : γ}
    (hv : r.get? key = some v) (hf : f v = some c) :
    (r.rows.filterMap f).length = ((r.delete key).rows.filterMap f).length + 1 := by
  have hlength : ∀ s : Rows String β, (s.rows.filterMap f).length =
      s.total fun v => if (f v).isSome then 1 else 0 := by
    intro s
    unfold Rows.rows Rows.total
    induction s.entries with
    | nil => rfl
    | cons e es ih =>
      rw [List.map_cons, List.filterMap_cons, List.map_cons, List.sum_cons, ← ih]
      cases hkept : f e.2 with
      | none => simp [hkept]
      | some c =>
        simp only [hkept, Option.isSome_some, if_true, List.length_cons]
        omega
  rw [hlength, hlength, Rows.total_eq_add_delete _ r key, hv, Option.elim_some, hf,
    Option.isSome_some, if_pos rfl]
  omega

variable {observedAt instrument : String}

private theorem priceDiscoverySource_eq_none {book : InternalOrderBook}
    (hinstrument : instrument ≠ "") :
    priceDiscoverySource ar (some instrument) book = none ↔ book.Uncounted ar instrument := by
  unfold priceDiscoverySource InternalOrderBook.Uncounted
  simp only [Option.mem_def, Option.some.injEq, exists_eq_left', hinstrument, ne_eq,
    not_false_eq_true, true_and]
  split_ifs with hother
  · simp [hother]
  · simp [hother]

/-- Price discovery stays the same exactly if the purged book was not counted. -/
theorem priceDiscovery_delete_iff (hinstrument : instrument ≠ "")
    (hlower : instrument.toLower = instrument) (r : Rows String InternalOrderBook) :
    calculateOrderBookPriceDiscovery ar r.rows (some instrument) observedAt =
        calculateOrderBookPriceDiscovery ar (r.delete key).rows (some instrument) observedAt ↔
      ∀ book, r.get? key = some book → book.Uncounted ar instrument := by
  constructor
  · intro hsame book hbook
    by_contra hcounted
    rw [← priceDiscoverySource_eq_none ar hinstrument] at hcounted
    obtain ⟨source, hsource⟩ := Option.ne_none_iff_exists'.mp hcounted
    have hlength := length_filterMap_delete hbook hsource
    have hcount : (r.rows.filterMap (priceDiscoverySource ar (some instrument))).length =
        ((r.delete key).rows.filterMap (priceDiscoverySource ar (some instrument))).length := by
      have hsources := congrArg PriceDiscoveryMetrics.sourceCount hsame
      simpa only [calculateOrderBookPriceDiscovery, Option.map_some, hlower] using hsources
    omega
  · intro huncounted
    have hsources : (r.delete key).rows.filterMap (priceDiscoverySource ar (some instrument)) =
        r.rows.filterMap (priceDiscoverySource ar (some instrument)) :=
      filterMap_delete fun book hbook =>
        (priceDiscoverySource_eq_none ar hinstrument).mpr (huncounted book hbook)
    simp only [calculateOrderBookPriceDiscovery, Option.map_some, hlower, hsources]

end Discovery

/-! ## Exact resets -/

/-- A reset is exact for a market: its stores are gone, every other market's are as before, and
the engine state shows what is left. -/
structure ResetIsExact (before after : TradingBooks D) (market : OrderBookMarketContext)
    (now : String) : Prop where
  purged : after.host.stores.Absent market.marketKey
  others : ∀ k, k ≠ market.marketKey → before.host.stores.Agree after.host.stores k
  depth : after.engineState.internalOrderBookDepth =
    countBookLevels after.host.stores.bids after.host.stores.asks
  priceDiscovery : after.engineState.priceDiscovery =
    calculateOrderBookPriceDiscovery ar after.host.stores.orderBook.rows
      (resetInstrument (some market.instrumentCode)) now

/-- The instrument and the exchange name the market's own key, or no market is named and no
other one is stored. -/
def OrderBookStores.NamedByReset (stores : OrderBookStores) (market : OrderBookMarketContext) :
    Prop :=
  (market.instrumentCode ≠ "" ∧
      market.marketKey = buildMarketKey market.sourceExchange market.instrumentCode) ∨
    market.instrumentCode = "" ∧ ∀ k, k ≠ market.marketKey → stores.Absent k

/-- Nothing that a reset of the market purges shows in depth or price discovery. -/
structure OrderBookStores.Idle (stores : OrderBookStores) (market : OrderBookMarketContext) :
    Prop where
  levels : stores.levels market.marketKey = 0
  uncounted : market.instrumentCode ≠ "" → ∀ book, stores.orderBook.get? market.marketKey =
    some book → book.Uncounted ar market.instrumentCode

variable {js : Runtime} {configured : String → ℚ}

/-- The market of a message in the engine's configuration. -/
def messageMarket (js : Runtime) (configured : String → ℚ) (message : BookMessage) :
    OrderBookMarketContext :=
  resolveBookMarketContext (createTradingOrderBookReconstructor js configured) message

private theorem normalizeSourceExchange_ne_empty (value : String) :
    normalizeSourceExchange value ≠ "" := by
  unfold normalizeSourceExchange
  simp only
  split_ifs with hempty
  · decide
  · exact hempty

/-- The market that a reset purges for a message. -/
theorem resolveResetMarketKey_message (js : Runtime) (configured : String → ℚ)
    (message : BookMessage) :
    resolveResetMarketKey (some (messageMarket js configured message).instrumentCode)
        (some (messageMarket js configured message).sourceExchange) =
      if (messageMarket js configured message).instrumentCode = "" then none
      else some (buildMarketKey (messageMarket js configured message).sourceExchange
        (messageMarket js configured message).instrumentCode) := by
  have hexchange : (messageMarket js configured message).sourceExchange ≠ "" :=
    normalizeSourceExchange_ne_empty _
  unfold resolveResetMarketKey
  split_ifs with hinstrument
  · simp [hinstrument]
  · simp [Option.filter, hinstrument, hexchange]

private theorem resetInstrument_message (js : Runtime) (configured : String → ℚ)
    (message : BookMessage) :
    resetInstrument (some (messageMarket js configured message).instrumentCode) =
      if (messageMarket js configured message).instrumentCode = "" then none
      else some (messageMarket js configured message).instrumentCode := by
  have hlower : (messageMarket js configured message).instrumentCode.toLower =
      (messageMarket js configured message).instrumentCode := JavaScript.toLower_toLower _
  unfold resetInstrument
  rw [Option.map_some, hlower]
  split_ifs with hinstrument <;> simp [hinstrument]

section ResetExact

variable {before at_ : TradingBooks D} {message : BookMessage} {storageAnswers : Bool}
  {now : String}

/-- A reset that names no market is exact for one exactly if nothing else is stored. -/
theorem reset_all_exact_iff
    (hinstrument : (messageMarket js configured message).instrumentCode = "")
    (hframe : ∀ k, k ≠ (messageMarket js configured message).marketKey →
      before.host.stores.Agree at_.host.stores k) :
    ResetIsExact ar before
        (at_.resetOrderBook ar (some (messageMarket js configured message).instrumentCode)
          (some (messageMarket js configured message).sourceExchange) storageAnswers now)
        (messageMarket js configured message) now ↔
      before.host.stores.NamedByReset (messageMarket js configured message) ∧
        at_.host.stores.Idle ar (messageMarket js configured message) := by
  have hkey := resolveResetMarketKey_message js configured message
  have hnamed := resetInstrument_message js configured message
  rw [if_pos hinstrument] at hkey hnamed
  have hstores : (at_.resetOrderBook ar (some (messageMarket js configured message).instrumentCode)
      (some (messageMarket js configured message).sourceExchange) storageAnswers
        now).host.stores = at_.host.stores.reset none := by
    rw [← hkey]
    rfl
  have hcount :=
    at_.host.stores.countBookLevels_reset (messageMarket js configured message).marketKey
  constructor
  · intro hexact
    have habsent : ∀ k, k ≠ (messageMarket js configured message).marketKey →
        before.host.stores.Absent k := by
      intro k hk
      have hagree := hexact.others k hk
      rw [hstores] at hagree
      exact hagree.absent OrderBookStores.absent_reset_none
    refine ⟨Or.inr ⟨hinstrument, habsent⟩, ?_, fun hne => absurd hinstrument hne⟩
    have hdepth := hexact.depth
    rw [hstores, OrderBookStores.countBookLevels_reset_none] at hdepth
    have hbefore : countBookLevels at_.host.stores.bids at_.host.stores.asks = 0 := hdepth
    omega
  · rintro ⟨⟨hne, -⟩ | ⟨-, habsent⟩, hidle⟩
    · exact absurd hinstrument hne
    have hrest : countBookLevels
        (at_.host.stores.reset (some (messageMarket js configured message).marketKey)).bids
        (at_.host.stores.reset (some (messageMarket js configured message).marketKey)).asks =
          0 := by
      apply OrderBookStores.countBookLevels_eq_zero
      intro k
      by_cases hk : k = (messageMarket js configured message).marketKey
      · rw [hk]
        exact OrderBookStores.absent_reset_self
      · exact ((hframe k hk).trans (OrderBookStores.agree_reset hk)).absent_of (habsent k hk)
    have hlevels := hidle.levels
    refine ⟨?_, ?_, ?_, ?_⟩
    · rw [hstores]
      exact OrderBookStores.absent_reset_none
    · intro k hk
      have hgone := habsent k hk
      rw [hstores]
      exact ⟨hgone.orderBook.symm, hgone.bids.symm, hgone.asks.symm, hgone.sync.symm⟩
    · rw [hstores, OrderBookStores.countBookLevels_reset_none]
      show countBookLevels at_.host.stores.bids at_.host.stores.asks = 0
      omega
    · rw [hstores, hnamed]
      show (if (resetInstrument (some (messageMarket js configured message).instrumentCode)).isSome
        then _ else _) = _
      rw [hnamed]
      rfl

/-- A reset that names a market is exact for one exactly if that is the one, and it is idle. -/
theorem reset_one_exact_iff
    (hinstrument : (messageMarket js configured message).instrumentCode ≠ "")
    (hsync : at_.host.stores.sync.get? (messageMarket js configured message).marketKey ≠ none)
    (hframe : ∀ k, k ≠ (messageMarket js configured message).marketKey →
      before.host.stores.Agree at_.host.stores k) :
    ResetIsExact ar before
        (at_.resetOrderBook ar (some (messageMarket js configured message).instrumentCode)
          (some (messageMarket js configured message).sourceExchange) storageAnswers now)
        (messageMarket js configured message) now ↔
      before.host.stores.NamedByReset (messageMarket js configured message) ∧
        at_.host.stores.Idle ar (messageMarket js configured message) := by
  have hkey := resolveResetMarketKey_message js configured message
  have hnamed := resetInstrument_message js configured message
  rw [if_neg hinstrument] at hkey hnamed
  have hlower : (messageMarket js configured message).instrumentCode.toLower =
      (messageMarket js configured message).instrumentCode := JavaScript.toLower_toLower _
  have hstores : (at_.resetOrderBook ar (some (messageMarket js configured message).instrumentCode)
      (some (messageMarket js configured message).sourceExchange) storageAnswers now).host.stores =
        at_.host.stores.reset (some (buildMarketKey
          (messageMarket js configured message).sourceExchange
          (messageMarket js configured message).instrumentCode)) := by
    rw [← hkey]
    rfl
  have hdiscovery : (at_.resetOrderBook ar
      (some (messageMarket js configured message).instrumentCode)
      (some (messageMarket js configured message).sourceExchange) storageAnswers
        now).engineState.priceDiscovery =
      calculateOrderBookPriceDiscovery ar at_.host.stores.orderBook.rows
        (some (messageMarket js configured message).instrumentCode) now := by
    show (if (resetInstrument (some (messageMarket js configured message).instrumentCode)).isSome
      then
        ((resetInstrument (some (messageMarket js configured message).instrumentCode)).map _).getD
        _ else _) = _
    rw [hnamed]
    rfl
  have hcount :=
    at_.host.stores.countBookLevels_reset (messageMarket js configured message).marketKey
  constructor
  · intro hexact
    have hsame : (messageMarket js configured message).marketKey =
        buildMarketKey (messageMarket js configured message).sourceExchange
          (messageMarket js configured message).instrumentCode := by
      by_contra hne
      have hpurged := hexact.purged.sync
      rw [hstores, (OrderBookStores.agree_reset hne).sync] at hpurged
      exact hsync hpurged
    rw [← hsame] at hstores
    refine ⟨Or.inl ⟨hinstrument, hsame⟩, ?_, fun _ => ?_⟩
    · have hdepth := hexact.depth
      rw [hstores] at hdepth
      have hdepth : countBookLevels at_.host.stores.bids at_.host.stores.asks = _ := hdepth
      omega
    · have hprice := hexact.priceDiscovery
      rw [hdiscovery, hstores, hnamed] at hprice
      exact (priceDiscovery_delete_iff ar hinstrument hlower _).mp hprice
  · rintro ⟨⟨-, hsame⟩ | ⟨hempty, -⟩, hidle⟩
    swap
    · exact absurd hempty hinstrument
    rw [← hsame] at hstores
    have hlevels := hidle.levels
    refine ⟨?_, ?_, ?_, ?_⟩
    · rw [hstores]
      exact OrderBookStores.absent_reset_self
    · intro k hk
      rw [hstores]
      exact (hframe k hk).trans (OrderBookStores.agree_reset hk)
    · rw [hstores]
      show countBookLevels at_.host.stores.bids at_.host.stores.asks = _
      omega
    · rw [hdiscovery, hstores, hnamed]
      exact (priceDiscovery_delete_iff ar hinstrument hlower _).mpr (hidle.uncounted hinstrument)

end ResetExact

/-! ## Messages -/

/-- A message for the reconstructor, with the times of its handling. -/
inductive BookInput
  | delta (delta : BookDelta) (updatedAt : String) (time : CrossCheckTime)
  | snapshot (snapshot : OrderBookSnapshot) (updatedAt : String) (totalLatencyMs : ℤ)
      (observedAt : String)

/-- What an input says of its market. -/
def BookInput.message : BookInput → BookMessage
  | .delta d _ _ => d.toBookMessage
  | .snapshot s _ _ _ => s.toBookMessage

/-- A sequence gap or a crossed book. -/
def DeltaRejection.Desyncs (reason : DeltaRejection) : Prop :=
  reason = .sequenceGap ∨ reason = .crossedBook

instance (reason : DeltaRejection) : Decidable reason.Desyncs :=
  inferInstanceAs (Decidable (_ ∨ _))

/-- The books after a message, and whether it was found to leave a gap or a crossed book. -/
def TradingBooks.handle (js : Runtime) (configured : String → ℚ) (books : TradingBooks D)
    (input : BookInput) (storageAnswers : Bool) (now : String) : Bool × TradingBooks D :=
  let config := createTradingOrderBookReconstructor js configured
  match input with
  | .delta delta updatedAt time =>
    match books.applyDelta ar config delta updatedAt time storageAnswers now with
    | (.ok (.rejected reason _ _), after) => (reason.Desyncs, after)
    | (_, after) => (false, after)
  | .snapshot snapshot updatedAt totalLatencyMs observedAt =>
    match books.host.stores.applySnapshot ar config snapshot updatedAt with
    | (.ok applied, stores) =>
      if isCrossedBook applied.book then
        (true, (books.withStores stores).handleCrossedBookSnapshot ar applied.book totalLatencyMs
          observedAt storageAnswers now)
      else (false, books.withStores stores)
    | (.error _, stores) => (false, books.withStores stores)

/-- A delta that opens a gap in a market which a reset names and which shows nothing. -/
def BookInput.IdleGap (js : Runtime) (configured : String → ℚ) (stores : OrderBookStores) :
    BookInput → Prop
  | .delta d _ _ =>
    opensSequenceGap (getOrCreateBookSyncState stores.sync
        (messageMarket js configured d.toBookMessage) d.source).lastSequence d.source
          d.sequence = true ∧
      stores.NamedByReset (messageMarket js configured d.toBookMessage) ∧
      stores.Idle ar (messageMarket js configured d.toBookMessage)
  | .snapshot .. => False

private theorem size_pos_of_top {book : SortedBookSide} {limit : ℕ} (h : book.top limit ≠ []) :
    0 < book.size := by
  obtain ⟨level, hlevel⟩ := List.exists_mem_of_ne_nil _ h
  obtain ⟨key, -, hnode⟩ := List.mem_filterMap.mp hlevel
  obtain ⟨node, hnode, -⟩ := Option.map_eq_some_iff.mp hnode
  exact List.length_pos_of_mem (Rows.mem_rows_iff.mpr ⟨key, hnode⟩)

/-- A crossed book has levels. -/
theorem levels_pos_of_crossed {config : OrderBookReconstructorConfig} {stores : OrderBookStores}
    {market : OrderBookMarketContext} {source : MarketDataSource} {syncState : BookSyncState}
    {sequence : ℤ} {updatedAt : String} {timeToBookMs : ℤ}
    (h : isCrossedBook (stores.rebuildBook config market source syncState sequence updatedAt
      timeToBookMs) = true) :
    0 < (stores.rebuildBookSnapshot config market source syncState sequence updatedAt
      timeToBookMs).levels market.marketKey := by
  have htop : (stores.getInstrumentBook market.marketKey .bid).top config.topLevels ≠ [] := by
    intro hempty
    simp [isCrossedBook, OrderBookStores.rebuildBook, hempty] at h
  have hsize := size_pos_of_top htop
  unfold OrderBookStores.levels OrderBookStores.rebuildBookSnapshot
  simp only [Rows.get?_set_self, Option.elim_some]
  omega

section Messages

variable {books : TradingBooks D} {storageAnswers : Bool} {now : String}

/-- Either kind of reset is exact exactly if the market is named and idle. -/
theorem reset_exact_iff {at_ : TradingBooks D} {message : BookMessage}
    (hsync : at_.host.stores.sync.get? (messageMarket js configured message).marketKey ≠ none)
    (hframe : ∀ k, k ≠ (messageMarket js configured message).marketKey →
      books.host.stores.Agree at_.host.stores k) :
    ResetIsExact ar books
        (at_.resetOrderBook ar (some (messageMarket js configured message).instrumentCode)
          (some (messageMarket js configured message).sourceExchange) storageAnswers now)
        (messageMarket js configured message) now ↔
      books.host.stores.NamedByReset (messageMarket js configured message) ∧
        at_.host.stores.Idle ar (messageMarket js configured message) := by
  by_cases hinstrument : (messageMarket js configured message).instrumentCode = ""
  · exact reset_all_exact_iff ar hinstrument hframe
  · exact reset_one_exact_iff ar hinstrument hsync hframe

private theorem gap_exact_iff {message : BookMessage} {syncState marked : BookSyncState} :
    ResetIsExact ar books
        (((books.withStores (books.host.stores.setSync
            (messageMarket js configured message).marketKey syncState)).withStores
          ((books.host.stores.setSync (messageMarket js configured message).marketKey
            syncState).setSync (messageMarket js configured message).marketKey
              marked)).resetOrderBook ar
          (some (messageMarket js configured message).instrumentCode)
          (some (messageMarket js configured message).sourceExchange) storageAnswers now)
        (messageMarket js configured message) now ↔
      books.host.stores.NamedByReset (messageMarket js configured message) ∧
        books.host.stores.Idle ar (messageMarket js configured message) := by
  rw [reset_exact_iff ar]
  · exact and_congr_right fun _ =>
      ⟨fun h => ⟨h.levels, h.uncounted⟩, fun h => ⟨h.levels, h.uncounted⟩⟩
  · show (Rows.set _ _ _).get? _ ≠ none
    rw [Rows.get?_set_self]
    exact Option.some_ne_none _
  · intro k hk
    exact (OrderBookStores.agree_setSync _ _ hk).trans (OrderBookStores.agree_setSync _ _ hk)

/-- The reset of a crossed book is never exact: it counts the levels it purges. -/
theorem crossed_not_exact {base : TradingBooks D} {message : BookMessage}
    {stores : OrderBookStores} {marked : BookSyncState}
    (hlevels : 0 < stores.levels (messageMarket js configured message).marketKey)
    (hframe : ∀ k, k ≠ (messageMarket js configured message).marketKey →
      books.host.stores.Agree stores k) :
    ¬ResetIsExact ar books
        (((base.withStores stores).withStores (stores.setSync
            (messageMarket js configured message).marketKey marked)).resetOrderBook ar
          (some (messageMarket js configured message).instrumentCode)
          (some (messageMarket js configured message).sourceExchange) storageAnswers now)
        (messageMarket js configured message) now := by
  rw [reset_exact_iff ar]
  · rintro ⟨-, hidle⟩
    have hnone : stores.levels (messageMarket js configured message).marketKey = 0 := hidle.levels
    omega
  · show (Rows.set _ _ _).get? _ ≠ none
    rw [Rows.get?_set_self]
    exact Option.some_ne_none _
  · intro k hk
    exact (hframe k hk).trans (OrderBookStores.agree_setSync _ _ hk)

/-- A gated delta is answered by an exact reset at no time. -/
theorem gated_not_exact {delta : BookDelta} {syncState : BookSyncState} {updatedAt : String}
    {timeToBookMs : ℤ} {time : CrossCheckTime} {reason : DeltaRejection} {last : Option ℤ}
    {ttb : ℤ} {before after : TradingBooks D}
    (hframe : ∀ k, k ≠ (messageMarket js configured delta.toBookMessage).marketKey →
      before.host.stores.Agree books.host.stores k)
    (h : books.applyGatedDelta ar (createTradingOrderBookReconstructor js configured)
      (messageMarket js configured delta.toBookMessage) delta syncState updatedAt timeToBookMs time
        storageAnswers now = (.ok (.rejected reason last ttb), after)) :
    ¬ResetIsExact ar before after (messageMarket js configured delta.toBookMessage) now := by
  unfold TradingBooks.applyGatedDelta at h
  simp only at h
  cases hside : (books.host.stores.getInstrumentBook
      (messageMarket js configured delta.toBookMessage).marketKey delta.side).upsert ar delta.price
        delta.size updatedAt (messageMarket js configured delta.toBookMessage).tickSize with
  | error e =>
    rw [hside] at h
    simp at h
  | ok side =>
    rw [hside] at h
    simp only at h
    split_ifs at h with hcrossed
    · obtain rfl := (Prod.mk.inj h).2
      refine crossed_not_exact ar (levels_pos_of_crossed hcrossed) fun k hk => ?_
      exact ((hframe k hk).trans (OrderBookStores.agree_setSide _ _ _ hk)).trans
        ((OrderBookStores.agree_setSync _ _ hk).trans
          (OrderBookStores.agree_rebuildBookSnapshot _ hk))
    · simp at h

private theorem snapshot_not_exact {snapshot : OrderBookSnapshot} {updatedAt observedAt : String}
    {totalLatencyMs : ℤ} {applied : AppliedBookSnapshot} {stores : OrderBookStores}
    (h : books.host.stores.applySnapshot ar (createTradingOrderBookReconstructor js configured)
      snapshot updatedAt = (.ok applied, stores)) (hcrossed : isCrossedBook applied.book = true) :
    ¬ResetIsExact ar books
      ((books.withStores stores).handleCrossedBookSnapshot ar applied.book totalLatencyMs observedAt
        storageAnswers now) (messageMarket js configured snapshot.toBookMessage) now := by
  unfold OrderBookStores.applySnapshot at h
  simp only at h
  split at h
  · simp at h
  · split at h
    · simp at h
    · obtain ⟨happlied, rfl⟩ := Prod.mk.inj h
      obtain rfl := Except.ok.inj happlied
      refine crossed_not_exact ar (levels_pos_of_crossed hcrossed) fun k hk => ?_
      exact ((OrderBookStores.agree_setSide _ _ _ hk).trans
        (OrderBookStores.agree_setSide _ _ _ hk)).trans
          ((OrderBookStores.agree_setSync _ _ hk).trans
            (OrderBookStores.agree_rebuildBookSnapshot _ hk))

/-- Of all messages that make the reconstructor reset a market, exactly the idle gaps leave it
purged, every other market untouched, and an engine state that shows what is left. -/
theorem detected_reset_is_exact_iff (js : Runtime) (configured : String → ℚ)
    (books : TradingBooks D) (input : BookInput) (storageAnswers : Bool) (now : String) :
    ((books.handle ar js configured input storageAnswers now).1 = true →
        ResetIsExact ar books (books.handle ar js configured input storageAnswers now).2
          (messageMarket js configured input.message) now) ↔
      ((books.handle ar js configured input storageAnswers now).1 = true →
        input.IdleGap ar js configured books.host.stores) := by
  cases input with
  | snapshot snapshot updatedAt totalLatencyMs observedAt =>
    unfold TradingBooks.handle
    simp only
    rcases happly : books.host.stores.applySnapshot ar
      (createTradingOrderBookReconstructor js configured) snapshot updatedAt with
      ⟨e | applied, stores⟩
    · simp
    · simp only
      split_ifs with hcrossed
      · simp only [BookInput.IdleGap, forall_const, iff_false]
        exact snapshot_not_exact ar happly hcrossed
      · simp
  | delta delta updatedAt time =>
    unfold TradingBooks.handle TradingBooks.applyDelta
    simp only
    cases (createTradingOrderBookReconstructor js configured).calculateTimeToBookMs
        delta.exchangeTimestamp updatedAt with
    | error e => simp
    | ok timeToBookMs =>
      simp only
      split_ifs with hgap hduplicate
      · have hdesyncs : decide DeltaRejection.sequenceGap.Desyncs = true := by decide
        simp only [hdesyncs, forall_const, BookInput.IdleGap]
        exact (gap_exact_iff ar).trans (and_iff_right hgap).symm
      · have hquiet : decide DeltaRejection.duplicateOrOutOfOrder.Desyncs = false := by decide
        simp [hquiet]
      · have hno : ¬BookInput.IdleGap ar js configured books.host.stores
            (.delta delta updatedAt time) := fun hidle => hgap hidle.1
        simp only [hno]
        rcases hgated : TradingBooks.applyGatedDelta ar _
          (createTradingOrderBookReconstructor js configured) _ delta _ updatedAt timeToBookMs time
            storageAnswers now with ⟨e | book | ⟨reason, last, ttb⟩, after⟩
        · simp
        · simp
        · have hnot : ¬ResetIsExact ar books after
              (messageMarket js configured delta.toBookMessage) now :=
            gated_not_exact ar (fun k hk => OrderBookStores.agree_setSync _ _ hk) hgated
          exact ⟨fun h hdetected => hnot (h hdetected), fun h hdetected => (h hdetected).elim⟩

end Messages

/-! ## Two gaps -/

private def purgeTime : String := "2026-07-01T12:00:00.000Z"

private def bitcoinMessage (marketKey : Option String) (sequence : ℤ) : BookMessage :=
  ⟨none, "hl", "btc", marketKey, none, sequence, purgeTime, none⟩

/-- The books of an engine that has received one snapshot. -/
private def seededBooks (marketKey : Option String) : TradingBooks Unit where
  host :=
    { stores := (OrderBookStores.empty.applySnapshot .binary64
        (createTradingOrderBookReconstructor (JavaScript.reference .double) fun _ => 1)
        ⟨bitcoinMessage marketKey 1, .market .hyperliquid, [⟨100, 1, none⟩], [⟨101, 1, none⟩]⟩
        purgeTime).2
      persisted := Rows.empty }
  engineState :=
    { internalOrderBookDepth := 0
      microstructure := defaultMicrostructure
      priceDiscovery := defaultPriceDiscovery
      dom := none
      heartbeatAt := purgeTime
      updatedAt := purgeTime }

/-- A delta that skips a sequence number. -/
private def skippingDelta (marketKey : Option String) : BookInput :=
  .delta ⟨bitcoinMessage marketKey 3, .hyperliquid, .bid, 99, 1, none, none⟩ purgeTime
    ⟨0, purgeTime⟩

private def afterGap (marketKey : Option String) : Bool × TradingBooks Unit :=
  (seededBooks marketKey).handle .binary64 (JavaScript.reference .double) (fun _ => 1)
    (skippingDelta marketKey) true purgeTime

/-- The state after a gap counts the purged levels, and a market with a key of its own is not
purged at all. -/
theorem gap_counts_purged_levels :
    ((afterGap none).1 = true ∧ ¬ResetIsExact .binary64 (seededBooks none) (afterGap none).2
        (messageMarket (JavaScript.reference .double) (fun _ => 1) (bitcoinMessage none 3))
        purgeTime) ∧
      (afterGap (some "perp")).1 = true ∧
      ¬ResetIsExact .binary64 (seededBooks (some "perp")) (afterGap (some "perp")).2
        (messageMarket (JavaScript.reference .double) (fun _ => 1) (bitcoinMessage (some "perp") 3))
        purgeTime := by
  have hdepth : (afterGap none).2.engineState.internalOrderBookDepth = 2 := by decide +kernel
  have hleft : countBookLevels (afterGap none).2.host.stores.bids
      (afterGap none).2.host.stores.asks = 0 := by
    decide +kernel
  have hkept : ((afterGap (some "perp")).2.host.stores.sync.get? "perp").isSome = true := by
    decide +kernel
  refine ⟨⟨by decide +kernel, fun h => ?_⟩, by decide +kernel, fun h => ?_⟩
  · have hshown := h.depth
    omega
  · have hkey : (messageMarket (JavaScript.reference .double) (fun _ => 1)
        (bitcoinMessage (some "perp") 3)).marketKey = "perp" := by
      decide +kernel
    have hpurged := h.purged.sync
    rw [hkey] at hpurged
    rw [hpurged] at hkept
    exact absurd hkept (by decide)

end Yevow.Engine
