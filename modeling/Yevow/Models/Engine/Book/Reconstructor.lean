import Yevow.Core.JavaScript.Value
import Yevow.Models.Engine.Book.SortedBookSide

/-!
# Order book reconstruction

A snapshot starts a market's book; deltas that pass the sequence gate edit it. A sequence gap
or a crossed book desynchronizes the market and resets its stores, a top-of-book mismatch
only desynchronizes it. The metrics derived from a book, which nothing here reads, are left
out.
-/

namespace Yevow.Engine

/-- Where market data comes from. -/
inductive MarketDataSource
  | binance
  | hyperliquid
  | coinbase
  | kraken
  | okx
  | bybit
  | system
  deriving DecidableEq, Repr

/-- The source of a snapshot, which an administrator can send too. -/
inductive SnapshotSource
  | market (source : MarketDataSource)
  | admin
  deriving DecidableEq, Repr

/-- A level of a snapshot. -/
structure OrderBookSnapshotLevel where
  price : ℚ
  size : ℚ
  updatedAt : Option String
  deriving DecidableEq

/-- What names a market in a message. -/
structure BookMessage where
  sourceExchange : Option String
  exchangeCode : String
  instrumentCode : String
  marketKey : Option String
  sourceWeight : Option ℚ
  sequence : ℤ
  exchangeTimestamp : String
  tickSize : Option ℚ
  deriving DecidableEq

/-- A snapshot of a book. -/
structure OrderBookSnapshot extends BookMessage where
  source : SnapshotSource
  bids : List OrderBookSnapshotLevel
  asks : List OrderBookSnapshotLevel
  deriving DecidableEq

/-- A change of one level. -/
structure BookDelta extends BookMessage where
  source : MarketDataSource
  side : OrderBookSide
  price : ℚ
  size : ℚ
  bestBid : Option ℚ
  bestAsk : Option ℚ
  deriving DecidableEq

/-- How far a book is in step with its source. -/
structure BookSyncState where
  marketKey : String
  source : MarketDataSource
  sourceExchange : String
  sourceWeight : ℚ
  instrumentCode : String
  exchangeCode : Option String
  lastSequence : Option ℤ
  lastSnapshotAt : Option String
  lastDeltaAt : Option String
  lastDesyncAt : Option String
  desyncReason : Option String
  isSynced : Bool
  tickSize : ℚ
  ttbLatencyMs : Option ℤ
  lastCrossCheckAt : ℤ
  deriving DecidableEq

/-- A book as the engine shows it. -/
structure InternalOrderBook where
  marketKey : String
  source : MarketDataSource
  sourceExchange : String
  sourceWeight : ℚ
  instrumentCode : String
  exchangeCode : String
  bids : List PriceLevel
  asks : List PriceLevel
  bestBid : Option ℚ
  bestAsk : Option ℚ
  lastSequence : Option ℤ
  tickSize : ℚ
  ttbLatencyMs : Option ℤ
  isSynced : Bool
  desyncReason : Option String
  sequence : ℤ
  updatedAt : String
  deriving DecidableEq

/-- The books, their sides and their state. -/
structure OrderBookStores where
  orderBook : Rows String InternalOrderBook
  bids : Rows String SortedBookSide
  asks : Rows String SortedBookSide
  sync : Rows String BookSyncState

/-- What the reconstructor is configured with; `calculateTimeToBookMs` may throw. -/
structure OrderBookReconstructorConfig where
  topLevels : ℕ
  topOfBookCrossCheckIntervalMs : ℤ
  resolveTickSize : String → Option ℚ → ℚ
  normalizeSourceExchange : String → String
  normalizeMarketKey : String → String
  buildMarketKey : String → String → String
  normalizeSourceWeight : Option ℚ → ℚ
  calculateTimeToBookMs : String → String → Except String ℤ

variable (ar : EngineArithmetic) (config : OrderBookReconstructorConfig)

/-! ## The market of a message -/

/-- The market a message is about. -/
structure OrderBookMarketContext where
  instrumentCode : String
  exchangeCode : String
  sourceExchange : String
  marketKey : String
  sourceWeight : ℚ
  tickSize : ℚ
  deriving DecidableEq

/-- The market that a message names. -/
def resolveBookMarketContext (message : BookMessage) : OrderBookMarketContext :=
  let instrumentCode := message.instrumentCode.toLower
  let exchangeCode := message.exchangeCode.toLower
  let sourceExchange :=
    config.normalizeSourceExchange (message.sourceExchange.getD exchangeCode)
  { instrumentCode := instrumentCode
    exchangeCode := exchangeCode
    sourceExchange := sourceExchange
    marketKey := config.normalizeMarketKey
      (message.marketKey.getD (config.buildMarketKey sourceExchange instrumentCode))
    sourceWeight := config.normalizeSourceWeight message.sourceWeight
    tickSize := config.resolveTickSize instrumentCode message.tickSize }

/-! ## Sync states -/

/-- The sync state of a market, brought up to date or created. -/
def getOrCreateBookSyncState (sync : Rows String BookSyncState)
    (market : OrderBookMarketContext) (source : MarketDataSource) : BookSyncState :=
  match sync.get? market.marketKey with
  | some existing =>
    { existing with
      exchangeCode := some market.exchangeCode
      sourceExchange :=
        if market.sourceExchange ≠ "" then market.sourceExchange else existing.sourceExchange
      tickSize := market.tickSize
      sourceWeight := market.sourceWeight }
  | none =>
    { marketKey := market.marketKey
      source := source
      sourceExchange := market.sourceExchange
      sourceWeight := market.sourceWeight
      instrumentCode := market.instrumentCode
      exchangeCode := some market.exchangeCode
      lastSequence := none
      lastSnapshotAt := none
      lastDeltaAt := none
      lastDesyncAt := none
      desyncReason := none
      isSynced := false
      tickSize := market.tickSize
      ttbLatencyMs := none
      lastCrossCheckAt := 0 }

/-- A snapshot brings a book into step. -/
def applySnapshotBookSyncState (syncState : BookSyncState) (market : OrderBookMarketContext)
    (sequence : ℤ) (observedAt : String) (timeToBookMs : ℤ) : BookSyncState :=
  { syncState with
    exchangeCode := some market.exchangeCode
    sourceExchange := market.sourceExchange
    sourceWeight := market.sourceWeight
    lastSequence := some sequence
    lastSnapshotAt := some observedAt
    lastDeltaAt := none
    lastDesyncAt := none
    desyncReason := none
    isSynced := true
    tickSize := market.tickSize
    ttbLatencyMs := some timeToBookMs }

/-- A delta takes a book one step on. -/
def applyDeltaBookSyncState (syncState : BookSyncState) (market : OrderBookMarketContext)
    (sequence : ℤ) (observedAt : String) (wasSnapshotSeeded : Bool) (timeToBookMs : ℤ) :
    BookSyncState :=
  { syncState with
    exchangeCode := some market.exchangeCode
    sourceExchange := market.sourceExchange
    sourceWeight := market.sourceWeight
    lastSequence := some sequence
    lastDeltaAt := some observedAt
    desyncReason := if wasSnapshotSeeded then none else some "AWAITING_SNAPSHOT"
    isSynced := wasSnapshotSeeded
    tickSize := market.tickSize
    ttbLatencyMs := some timeToBookMs }

/-- A book is out of step. -/
def markBookDesynced (syncState : BookSyncState) (reason observedAt : String)
    (timeToBookMs : Option ℤ) : BookSyncState :=
  { syncState with
    isSynced := false
    desyncReason := some reason
    lastDesyncAt := some observedAt
    ttbLatencyMs := timeToBookMs }

/-- `syncState.isSynced || syncState.lastSnapshotAt !== null`. -/
def BookSyncState.wasSnapshotSeeded (syncState : BookSyncState) : Bool :=
  syncState.isSynced || syncState.lastSnapshotAt.isSome

namespace OrderBookStores

variable (stores : OrderBookStores)

/-- The state of one book is stored. -/
def setSync (key : String) (syncState : BookSyncState) : OrderBookStores :=
  { stores with sync := stores.sync.set key syncState }

/-- `getInstrumentBook`: an absent side is created empty. -/
def getInstrumentBook (key : String) : OrderBookSide → SortedBookSide
  | .bid => (stores.bids.get? key).getD (.empty .bid)
  | .ask => (stores.asks.get? key).getD (.empty .ask)

/-- One side of a book is stored. -/
def setSide (key : String) (book : SortedBookSide) : OrderBookSide → OrderBookStores
  | .bid => { stores with bids := stores.bids.set key book }
  | .ask => { stores with asks := stores.asks.set key book }

/-! ## The stored book -/

/-- The book that the sides and the sync state of a market show. -/
def rebuildBook (market : OrderBookMarketContext) (source : MarketDataSource)
    (syncState : BookSyncState) (sequence : ℤ) (updatedAt : String) (timeToBookMs : ℤ) :
    InternalOrderBook :=
  let bids := (stores.getInstrumentBook market.marketKey .bid).top config.topLevels
  let asks := (stores.getInstrumentBook market.marketKey .ask).top config.topLevels
  { marketKey := market.marketKey
    source := source
    sourceExchange := market.sourceExchange
    sourceWeight := market.sourceWeight
    instrumentCode := market.instrumentCode
    exchangeCode := market.exchangeCode
    bids := bids
    asks := asks
    bestBid := bids.head?.map PriceLevel.price
    bestAsk := asks.head?.map PriceLevel.price
    lastSequence := some sequence
    tickSize := syncState.tickSize
    ttbLatencyMs := some timeToBookMs
    isSynced := syncState.isSynced
    desyncReason := syncState.desyncReason
    sequence := sequence
    updatedAt := updatedAt }

/-- `rebuildBookSnapshot`: both sides exist from then on, and the book is stored. -/
def rebuildBookSnapshot (market : OrderBookMarketContext) (source : MarketDataSource)
    (syncState : BookSyncState) (sequence : ℤ) (updatedAt : String) (timeToBookMs : ℤ) :
    OrderBookStores :=
  let key := market.marketKey
  { orderBook := stores.orderBook.set key
      (stores.rebuildBook config market source syncState sequence updatedAt timeToBookMs)
    bids := stores.bids.set key (stores.getInstrumentBook key .bid)
    asks := stores.asks.set key (stores.getInstrumentBook key .ask)
    sync := stores.sync }

/-- `applyOrderBookResetStores`. -/
def reset : Option String → OrderBookStores
  | some key =>
    { orderBook := stores.orderBook.delete key
      bids := stores.bids.delete key
      asks := stores.asks.delete key
      sync := stores.sync.delete key }
  | none => ⟨Rows.empty, Rows.empty, Rows.empty, Rows.empty⟩

section

variable {stores} {key : String}

@[simp] theorem sync_setSync (syncState : BookSyncState) :
    (stores.setSync key syncState).sync = stores.sync.set key syncState := rfl

@[simp] theorem orderBook_setSync (syncState : BookSyncState) :
    (stores.setSync key syncState).orderBook = stores.orderBook := (rfl)

@[simp] theorem sync_setSide (book : SortedBookSide) (side : OrderBookSide) :
    (stores.setSide key book side).sync = stores.sync := by
  cases side <;> rfl

@[simp] theorem orderBook_setSide (book : SortedBookSide) (side : OrderBookSide) :
    (stores.setSide key book side).orderBook = stores.orderBook := by
  cases side <;> rfl

variable {market : OrderBookMarketContext} {source : MarketDataSource}
  {syncState : BookSyncState} {sequence : ℤ} {updatedAt : String} {timeToBookMs : ℤ}

@[simp] theorem orderBook_rebuildBookSnapshot :
    (stores.rebuildBookSnapshot config market source syncState sequence updatedAt
      timeToBookMs).orderBook = stores.orderBook.set market.marketKey
        (stores.rebuildBook config market source syncState sequence updatedAt timeToBookMs) := rfl

@[simp] theorem sync_rebuildBookSnapshot :
    (stores.rebuildBookSnapshot config market source syncState sequence updatedAt
      timeToBookMs).sync = stores.sync := (rfl)

end

end OrderBookStores

/-- The best bid is not below the best ask. -/
def isCrossedBook (book : InternalOrderBook) : Bool :=
  match book.bestBid, book.bestAsk with
  | some bestBid, some bestAsk => bestAsk ≤ bestBid
  | _, _ => false

/-! ## Snapshots -/

/-- The book after a snapshot. -/
structure AppliedBookSnapshot where
  book : InternalOrderBook
  market : OrderBookMarketContext
  source : MarketDataSource
  sequence : ℤ
  bidLevels : ℕ
  askLevels : ℕ
  timeToBookMs : ℤ

/-- An administrator's snapshot counts as the system's. -/
def SnapshotSource.marketDataSource : SnapshotSource → MarketDataSource
  | .market source => source
  | .admin => .system

/-- The levels of a snapshot, one after the other. -/
def upsertLevels (book : SortedBookSide) (levels : List OrderBookSnapshotLevel)
    (updatedAt : String) (tickSize : ℚ) : Except String SortedBookSide :=
  levels.foldlM (fun book level =>
    book.upsert ar level.price level.size (level.updatedAt.getD updatedAt) tickSize) book

/-- The two sides that a snapshot describes. -/
def snapshotSides (snapshot : OrderBookSnapshot) (updatedAt : String) (tickSize : ℚ) :
    Except String (SortedBookSide × SortedBookSide) := do
  let bidBook ← upsertLevels ar (.empty .bid) snapshot.bids updatedAt tickSize
  let askBook ← upsertLevels ar (.empty .ask) snapshot.asks updatedAt tickSize
  return (bidBook, askBook)

/-- `applySnapshot`. A price or size that cannot be stored leaves the stores as they are, a
timestamp that cannot be read leaves the new sides under the old sync state. -/
def OrderBookStores.applySnapshot (stores : OrderBookStores) (snapshot : OrderBookSnapshot)
    (updatedAt : String) : Except String AppliedBookSnapshot × OrderBookStores :=
  let market := resolveBookMarketContext config snapshot.toBookMessage
  let key := market.marketKey
  match snapshotSides ar snapshot updatedAt market.tickSize with
  | .error e => (.error e, stores)
  | .ok (bidBook, askBook) =>
    let stores := (stores.setSide key bidBook .bid).setSide key askBook .ask
    match config.calculateTimeToBookMs snapshot.exchangeTimestamp updatedAt with
    | .error e => (.error e, stores)
    | .ok timeToBookMs =>
      let source := snapshot.source.marketDataSource
      let syncState := applySnapshotBookSyncState
        (getOrCreateBookSyncState stores.sync market source) market snapshot.sequence updatedAt
        timeToBookMs
      let stores := stores.setSync key syncState
      let applied : AppliedBookSnapshot :=
        { book := stores.rebuildBook config market source syncState snapshot.sequence updatedAt
            timeToBookMs
          market := market
          source := source
          sequence := snapshot.sequence
          bidLevels := bidBook.size
          askLevels := askBook.size
          timeToBookMs := timeToBookMs }
      (.ok applied, stores.rebuildBookSnapshot config market source syncState
        snapshot.sequence updatedAt timeToBookMs)

/-! ## The sequence gate -/

/-- Why a delta is refused. -/
inductive DeltaRejection
  | sequenceGap
  | duplicateOrOutOfOrder
  | crossedBook
  deriving DecidableEq, Repr

/-- The reason as it is reported. -/
def DeltaRejection.text : DeltaRejection → String
  | .sequenceGap => "SEQUENCE_GAP"
  | .duplicateOrOutOfOrder => "DUPLICATE_OR_OUT_OF_ORDER"
  | .crossedBook => "CROSSED_BOOK"

/-- Only Hyperliquid's sequence numbers have to be contiguous. -/
def opensSequenceGap (lastSequence : Option ℤ) (source : MarketDataSource) (sequence : ℤ) :
    Bool :=
  match lastSequence with
  | some last => source = .hyperliquid ∧ last + 1 < sequence
  | none => false

/-- A sequence that was seen before. -/
def isDuplicateOrOutOfOrder (lastSequence : Option ℤ) (sequence : ℤ) : Bool :=
  match lastSequence with
  | some last => sequence ≤ last
  | none => false

/-! ## Cross-checking the top of the book -/

/-- Whether the top of a book agrees with its source. -/
inductive CrossCheckStatus
  | skip
  | matched
  | mismatch
  deriving DecidableEq, Repr

/-- When a cross-check runs: `Date.now()` and the time it would mark. -/
structure CrossCheckTime where
  checkedAtMs : ℤ
  desyncedAt : String

private def bestDiffers (raw best : Option ℚ) (tickSize : ℚ) : Bool :=
  match raw, best with
  | some raw, some best => tickSize < |ar.sub raw best|
  | _, _ => false

/-- The top of the book is compared, from time to time. -/
def evaluateTopOfBookCrossCheck (syncState : BookSyncState) (delta : BookDelta)
    (book : InternalOrderBook) (checkedAtMs : ℤ) : CrossCheckStatus :=
  if checkedAtMs - syncState.lastCrossCheckAt < config.topOfBookCrossCheckIntervalMs then .skip
  else if bestDiffers ar delta.bestBid book.bestBid book.tickSize ||
    bestDiffers ar delta.bestAsk book.bestAsk book.tickSize then .mismatch
  else .matched

/-- A comparison is noted. -/
def applyTopOfBookCrossCheckSync (syncState : BookSyncState) (status : CrossCheckStatus)
    (time : CrossCheckTime) : BookSyncState :=
  match status with
  | .skip => syncState
  | .matched => { syncState with lastCrossCheckAt := time.checkedAtMs }
  | .mismatch =>
    markBookDesynced { syncState with lastCrossCheckAt := time.checkedAtMs }
      "TOP_OF_BOOK_MISMATCH" time.desyncedAt syncState.ttbLatencyMs

/-! ## The stores and what is persisted -/

/-- The books in memory and, under their market keys, the books in the storage. -/
structure BookHost where
  stores : OrderBookStores
  persisted : Rows String InternalOrderBook

/-- The name of an exchange. -/
def normalizeSourceExchange (value : String) : String :=
  let name := (JavaScript.trim value).toLower
  if name = "" then "unknown" else name

/-- The key of a market. -/
def normalizeMarketKey (value : String) : String := value.toLower

/-- The key of an instrument on an exchange. -/
def buildMarketKey (sourceExchange instrumentCode : String) : String :=
  normalizeSourceExchange sourceExchange ++ ":" ++ instrumentCode.toLower

/-- A weight that is not positive is replaced by the default weight. -/
def normalizeSourceWeight (value : Option ℚ) : ℚ := (value.filter (0 < ·)).getD 1

/-- The market a reset is about; without an instrument and an exchange, all of them. -/
def resolveResetMarketKey (instrumentCode sourceExchange : Option String) : Option String := do
  let instrument ← instrumentCode.filter (· ≠ "")
  let exchange ← sourceExchange.filter (· ≠ "")
  return buildMarketKey exchange instrument

namespace BookHost

variable (host : BookHost)

/-- `applyOrderBookResetFlow`: the stores are always reset, the storage only where it lists
and deletes what it holds. -/
def resetOrderBook (instrumentCode sourceExchange : Option String) (storageAnswers : Bool) :
    BookHost :=
  let resetMarketKey := resolveResetMarketKey instrumentCode sourceExchange
  { stores := host.stores.reset resetMarketKey
    persisted :=
      if storageAnswers then
        match resetMarketKey with
        | some key => host.persisted.delete key
        | none => Rows.empty
      else host.persisted }

/-- Mark a market's sync state, then reset the market of an instrument and an exchange. -/
def desyncAndReset (key : String) (syncState : BookSyncState) (reason : DeltaRejection)
    (observedAt : String) (timeToBookMs : ℤ) (instrumentCode sourceExchange : String)
    (storageAnswers : Bool) : BookHost :=
  { host with
    stores := host.stores.setSync key
      (markBookDesynced syncState reason.text observedAt (some timeToBookMs)) }.resetOrderBook
    (some instrumentCode) (some sourceExchange) storageAnswers

end BookHost

/-! ## Deltas -/

/-- What became of a delta. -/
inductive AppliedBookUpdate
  | accepted (book : InternalOrderBook) (crossCheck : CrossCheckStatus) (timeToBookMs : ℤ)
  | rejected (reason : DeltaRejection) (lastSequence : Option ℤ) (timeToBookMs : ℤ)

/-- The stores with a side edited by a delta, and the book rebuilt from them. -/
def OrderBookStores.editBook (stores : OrderBookStores) (market : OrderBookMarketContext)
    (delta : BookDelta) (syncState : BookSyncState) (side : SortedBookSide) (updatedAt : String)
    (timeToBookMs : ℤ) : InternalOrderBook × OrderBookStores :=
  let stores := (stores.setSide market.marketKey side delta.side).setSync market.marketKey
    syncState
  (stores.rebuildBook config market delta.source syncState delta.sequence updatedAt timeToBookMs,
    stores.rebuildBookSnapshot config market delta.source syncState delta.sequence updatedAt
      timeToBookMs)

/-- The part of `applyDelta` behind the sequence gate. -/
def BookHost.applyGatedDelta (host : BookHost) (market : OrderBookMarketContext)
    (delta : BookDelta) (syncState : BookSyncState) (updatedAt : String) (timeToBookMs : ℤ)
    (time : CrossCheckTime) (storageAnswers : Bool) :
    Except String AppliedBookUpdate × BookHost :=
  let key := market.marketKey
  let opened := host.stores.getInstrumentBook key delta.side
  match opened.upsert ar delta.price delta.size updatedAt market.tickSize with
  | .error e => (.error e, { host with stores := host.stores.setSide key opened delta.side })
  | .ok side =>
    let next := applyDeltaBookSyncState syncState market delta.sequence updatedAt
      syncState.wasSnapshotSeeded timeToBookMs
    let (book, stores) := host.stores.editBook config market delta next side updatedAt timeToBookMs
    if isCrossedBook book then
      (.ok (.rejected .crossedBook syncState.lastSequence timeToBookMs),
        { host with stores := stores }.desyncAndReset key next .crossedBook updatedAt
          timeToBookMs book.instrumentCode book.sourceExchange storageAnswers)
    else
      let status := evaluateTopOfBookCrossCheck ar config next delta book time.checkedAtMs
      (.ok (.accepted book status timeToBookMs),
        { host with stores := stores.setSync key (applyTopOfBookCrossCheckSync next status time) })

/-- `applyDelta`. -/
def BookHost.applyDelta (host : BookHost) (delta : BookDelta) (updatedAt : String)
    (time : CrossCheckTime) (storageAnswers : Bool) :
    Except String AppliedBookUpdate × BookHost :=
  let market := resolveBookMarketContext config delta.toBookMessage
  let key := market.marketKey
  let syncState := getOrCreateBookSyncState host.stores.sync market delta.source
  let host := { host with stores := host.stores.setSync key syncState }
  match config.calculateTimeToBookMs delta.exchangeTimestamp updatedAt with
  | .error e => (.error e, host)
  | .ok timeToBookMs =>
    if opensSequenceGap syncState.lastSequence delta.source delta.sequence then
      (.ok (.rejected .sequenceGap syncState.lastSequence timeToBookMs),
        host.desyncAndReset key syncState .sequenceGap updatedAt timeToBookMs
          market.instrumentCode market.sourceExchange storageAnswers)
    else if isDuplicateOrOutOfOrder syncState.lastSequence delta.sequence then
      (.ok (.rejected .duplicateOrOutOfOrder syncState.lastSequence timeToBookMs), host)
    else
      host.applyGatedDelta ar config market delta syncState updatedAt timeToBookMs time
        storageAnswers

/-- The market that a book names. -/
def InternalOrderBook.market (book : InternalOrderBook) : OrderBookMarketContext :=
  { instrumentCode := book.instrumentCode
    exchangeCode := book.exchangeCode
    sourceExchange := book.sourceExchange
    marketKey := book.marketKey
    sourceWeight := book.sourceWeight
    tickSize := book.tickSize }

/-- `handleCrossedBookSnapshot`. -/
def BookHost.handleCrossedBookSnapshot (host : BookHost) (book : InternalOrderBook)
    (timeToBookMs : ℤ) (observedAt : String) (storageAnswers : Bool) : BookHost :=
  host.desyncAndReset book.marketKey
    (getOrCreateBookSyncState host.stores.sync book.market book.source) .crossedBook observedAt
    timeToBookMs book.instrumentCode book.sourceExchange storageAnswers

end Yevow.Engine
