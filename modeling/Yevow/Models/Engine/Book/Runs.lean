import Yevow.Models.Engine.Book.Reconstructor
import Yevow.Models.Engine.Quotes.State

/-!
# Runs of an order book reconstructor

A trading engine feeds its reconstructor with snapshots and deltas, resets books, writes
books to its storage and, when it restarts, rebuilds every store from the written books. A
run records when a market received a snapshot, lost its synchronization or was reset.
-/

namespace Yevow.Engine

open JavaScript (Runtime)

/-! ## The engine's configuration -/

/-- A date, or an error that names the field. -/
def parseTimestampMs (js : Runtime) (value field : String) : Except String ℤ :=
  match js.dateParse value with
  | some ms => .ok ms
  | none => .error ("INVALID_" ++ field.toUpper)

/-- How late the book is. -/
def calculateTimeToBookMs (js : Runtime) (exchangeTimestamp bookTimestamp : String) :
    Except String ℤ := do
  let bookMs ← parseTimestampMs js bookTimestamp "book_timestamp"
  let exchangeMs ← parseTimestampMs js exchangeTimestamp "exchange_timestamp"
  return max 0 (bookMs - exchangeMs)

/-- The tick size of a message, if it is positive, or else the configured one. -/
def resolveTickSize (configured : String → ℚ) (instrumentCode : String) (override : Option ℚ) :
    ℚ :=
  (override.filter (0 < ·)).getD (configured instrumentCode)

/-- The settings of the engine. -/
def createTradingOrderBookReconstructor (js : Runtime) (configured : String → ℚ) :
    OrderBookReconstructorConfig where
  topLevels := 100
  topOfBookCrossCheckIntervalMs := 60000
  resolveTickSize := resolveTickSize configured
  normalizeSourceExchange := normalizeSourceExchange
  normalizeMarketKey := normalizeMarketKey
  buildMarketKey := buildMarketKey
  normalizeSourceWeight := normalizeSourceWeight
  calculateTimeToBookMs := calculateTimeToBookMs js

/-! ## Restarting -/

variable (ar : EngineArithmetic)

/-- No books. -/
def OrderBookStores.empty : OrderBookStores := ⟨Rows.empty, Rows.empty, Rows.empty, Rows.empty⟩

/-- A side built from its levels. -/
def levelsToBookSide (levels : List PriceLevel) (side : OrderBookSide) (tickSize : ℚ) :
    Except String SortedBookSide :=
  levels.foldlM (fun book level =>
    book.upsert ar level.price level.size level.updatedAt tickSize) (.empty side)

/-- The sync state that `hydrateOrderBooks` gives a book. -/
def hydratedSyncState (value : InternalOrderBook) : BookSyncState :=
  { marketKey := normalizeMarketKey value.marketKey
    source := value.source
    sourceExchange := normalizeSourceExchange value.sourceExchange
    sourceWeight := normalizeSourceWeight (some value.sourceWeight)
    instrumentCode := value.instrumentCode
    exchangeCode := some value.exchangeCode
    lastSequence := some (value.lastSequence.getD value.sequence)
    lastSnapshotAt := some value.updatedAt
    lastDeltaAt := some value.updatedAt
    lastDesyncAt := if value.isSynced then none else some value.updatedAt
    desyncReason := value.desyncReason
    isSynced := value.isSynced
    tickSize := value.tickSize
    ttbLatencyMs := value.ttbLatencyMs
    lastCrossCheckAt := 0 }

/-- The book that `hydrateOrderBooks` keeps, from the sides it rebuilt. -/
def hydratedBook (value : InternalOrderBook) (bidBook askBook : SortedBookSide) :
    InternalOrderBook :=
  let bids := bidBook.top 100
  let asks := askBook.top 100
  { value with
    marketKey := normalizeMarketKey value.marketKey
    sourceExchange := normalizeSourceExchange value.sourceExchange
    sourceWeight := normalizeSourceWeight (some value.sourceWeight)
    bids := bids
    asks := asks
    bestBid := bids.head?.map PriceLevel.price
    bestAsk := asks.head?.map PriceLevel.price
    lastSequence := some (value.lastSequence.getD value.sequence) }

/-- One book of `hydrateOrderBooks`. -/
def hydrateOrderBook (stores : OrderBookStores) (value : InternalOrderBook) :
    Except String OrderBookStores := do
  let bidBook ← levelsToBookSide ar value.bids .bid value.tickSize
  let askBook ← levelsToBookSide ar value.asks .ask value.tickSize
  let key := normalizeMarketKey value.marketKey
  return { orderBook := stores.orderBook.set key (hydratedBook value bidBook askBook)
           bids := stores.bids.set key bidBook
           asks := stores.asks.set key askBook
           sync := stores.sync.set key (hydratedSyncState value) }

/-- The books that a restart finds. -/
def hydrateOrderBooks (records : List InternalOrderBook) : Except String OrderBookStores :=
  records.foldlM (hydrateOrderBook ar) .empty

namespace BookHost

/-- A host that has just been created, with nothing in its storage. -/
def initial : BookHost := ⟨.empty, Rows.empty⟩

/-- Write the book of a market to the storage. -/
def persist (host : BookHost) (marketKey : String) : BookHost :=
  match host.stores.orderBook.get? marketKey with
  | some book => { host with persisted := host.persisted.set book.marketKey book }
  | none => host

/-- The process starts anew from the books of the target instruments; where they cannot be
read back, it starts with no book. -/
def restart (host : BookHost) : BookHost :=
  let records := host.persisted.rows.filter fun book => isTargetInstrument book.instrumentCode
  match hydrateOrderBooks ar records with
  | .ok stores => { host with stores := stores }
  | .error _ => { host with stores := .empty }

end BookHost

/-! ## Runs -/

/-- What happened to a market; a reset can be about all of them. -/
inductive BookEvent
  | snapshot (marketKey : String)
  | desync (marketKey : String)
  | reset (marketKey : Option String)
  deriving DecidableEq

namespace BookEvent

/-- The book went out of step. -/
def isDesyncOf (key : String) (event : BookEvent) : Bool := event = .desync key

/-- The book was reset. -/
def isResetOf (key : String) (event : BookEvent) : Bool :=
  event = .reset (some key) ∨ event = .reset none

/-- A market received a snapshot, and none of the events that end it came after. -/
def snapshotSince (ends : BookEvent → Bool) (key : String) : List BookEvent → Bool
  | [] => false
  | event :: earlier => event = .snapshot key || (!ends event && snapshotSince ends key earlier)

end BookEvent

/-- A call that changes books. -/
inductive BookOperation
  | applySnapshot (snapshot : OrderBookSnapshot) (updatedAt : String)
  | applyDelta (delta : BookDelta) (updatedAt : String) (time : CrossCheckTime)
      (storageAnswers : Bool)
  | handleCrossedBookSnapshot (book : InternalOrderBook) (timeToBookMs : ℤ)
      (observedAt : String) (storageAnswers : Bool)
  | resetOrderBook (instrumentCode sourceExchange : Option String) (storageAnswers : Bool)
  | persist (marketKey : String)
  | restart

/-- A host and the events of its run, the latest first. -/
structure BookRun where
  host : BookHost
  events : List BookEvent

variable (config : OrderBookReconstructorConfig)

/-- The events of a delta: a desynchronization of its market, followed by a reset where the
book is purged. -/
def deltaEvents (market : OrderBookMarketContext) :
    Except String AppliedBookUpdate → List BookEvent
  | .ok (.rejected .sequenceGap ..) | .ok (.rejected .crossedBook ..) =>
    [.reset (resolveResetMarketKey (some market.instrumentCode) (some market.sourceExchange)),
      .desync market.marketKey]
  | .ok (.accepted _ .mismatch _) => [.desync market.marketKey]
  | _ => []

/-- The events of a snapshot. -/
def snapshotEvents : Except String AppliedBookSnapshot → List BookEvent
  | .ok applied => [.snapshot applied.market.marketKey]
  | .error _ => []

namespace BookRun

/-- No books and no history. -/
def initial : BookRun := ⟨.initial, []⟩

/-- The run after an operation. -/
def step (run : BookRun) : BookOperation → BookRun
  | .applySnapshot snapshot updatedAt =>
    let (applied, stores) := run.host.stores.applySnapshot ar config snapshot updatedAt
    ⟨{ run.host with stores := stores }, snapshotEvents applied ++ run.events⟩
  | .applyDelta delta updatedAt time storageAnswers =>
    let (update, host) := run.host.applyDelta ar config delta updatedAt time storageAnswers
    ⟨host, deltaEvents (resolveBookMarketContext config delta.toBookMessage) update ++ run.events⟩
  | .handleCrossedBookSnapshot book timeToBookMs observedAt storageAnswers =>
    ⟨run.host.handleCrossedBookSnapshot book timeToBookMs observedAt storageAnswers,
      .reset (resolveResetMarketKey (some book.instrumentCode) (some book.sourceExchange)) ::
        .desync book.marketKey :: run.events⟩
  | .resetOrderBook instrumentCode sourceExchange storageAnswers =>
    ⟨run.host.resetOrderBook instrumentCode sourceExchange storageAnswers,
      .reset (resolveResetMarketKey instrumentCode sourceExchange) :: run.events⟩
  | .persist marketKey => ⟨run.host.persist marketKey, run.events⟩
  | .restart => ⟨run.host.restart ar, run.events⟩

end BookRun

end Yevow.Engine
