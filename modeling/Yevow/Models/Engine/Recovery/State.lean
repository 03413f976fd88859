import Yevow.Models.Engine.Book.Reconstructor
import Yevow.Models.Engine.Config.State

/-!
# The state an engine recovers

What an order-book reset, a reset of the latency baseline and an administrator's recovery
replace in the engine's state, and what each of them makes of it.
-/

namespace Yevow.Engine.Recovery

open JavaScript (Record Runtime Timestamp)

/-! ## Books -/

/-- A book with the prices that are derived from its sides. -/
structure PricedBook extends InternalOrderBook where
  midPrice : Option ℚ
  spreadBps : Option ℚ
  weightedImbalance : Option ℚ

/-- The books that a reset may drop. -/
structure OrderBookResetStores where
  orderBook : Rows String PricedBook
  bids : Rows String SortedBookSide
  asks : Rows String SortedBookSide
  sync : Rows String BookSyncState

/-- `countOrderBookLevels` over both sides of all books. -/
def countBookLevels (bids asks : Rows String SortedBookSide) : ℕ :=
  (bids.rows.map SortedBookSide.size).sum + (asks.rows.map SortedBookSide.size).sum

/-- A book that counts towards a price. -/
structure PriceDiscoverySource where
  marketKey : String
  source : MarketDataSource
  source_exchange : String
  exchangeCode : String
  instrumentCode : String
  weight : ℚ
  midPrice : ℚ
  spreadBps : Option ℚ
  weightedImbalance : Option ℚ
  updatedAt : String
  deriving DecidableEq

/-- The price of an instrument over its books. -/
structure PriceDiscoveryMetrics where
  instrumentCode : Option String
  weightedMidPrice : Option ℚ
  primaryExchange : Option String
  primaryWeight : ℚ
  sourceCount : ℕ
  sources : List PriceDiscoverySource
  updatedAt : Option Timestamp
  deriving DecidableEq

/-- No price is discovered. -/
def defaultPriceDiscovery : PriceDiscoveryMetrics := ⟨none, none, none, 0, 0, [], none⟩

/-- A book as a source of the price, if it is for the instrument and has a price. -/
def PricedBook.discoverySource (book : PricedBook) (normalizedInstrument : Option String) :
    Option PriceDiscoverySource :=
  match book.midPrice with
  | none => none
  | some midPrice =>
    if normalizedInstrument.any fun code => code ≠ "" ∧ book.instrumentCode ≠ code then none
    else
      some
        { marketKey := book.marketKey
          source := book.source
          source_exchange := book.sourceExchange
          exchangeCode := book.exchangeCode
          instrumentCode := book.instrumentCode
          weight := book.sourceWeight
          midPrice
          spreadBps := book.spreadBps
          weightedImbalance := book.weightedImbalance
          updatedAt := book.updatedAt }

/-- The first source of the greatest weight. -/
def primarySource (sources : List PriceDiscoverySource) : Option PriceDiscoverySource :=
  sources.foldl (fun primary source =>
    if primary.all fun best => best.weight < source.weight then some source else primary) none

/-- The price of an instrument from its books. -/
def calculateOrderBookPriceDiscovery (ar : EngineArithmetic) (orderBook : Rows String PricedBook)
    (instrumentCode : Option String) (observedAt : Timestamp) : PriceDiscoveryMetrics :=
  let normalizedInstrument := instrumentCode.map String.toLower
  let sources := orderBook.rows.filterMap fun book => book.discoverySource normalizedInstrument
  let totalWeight := sources.foldl (fun total source => ar.add total source.weight) 0
  let weightedMid := sources.foldl
    (fun total source => ar.add total (ar.mul source.midPrice source.weight)) 0
  { instrumentCode := normalizedInstrument
    weightedMidPrice :=
      if 0 < totalWeight then some (ar.roundCrypto (ar.div weightedMid totalWeight)) else none
    primaryExchange := (primarySource sources).map PriceDiscoverySource.source_exchange
    primaryWeight := ((primarySource sources).map PriceDiscoverySource.weight).getD 0
    sourceCount := sources.length
    sources
    updatedAt := if sources.length = 0 then none else some observedAt }

/-- What the engine shows of the top of a book. -/
structure MicrostructureMetrics where
  marketKey : Option String
  instrumentCode : Option String
  exchangeCode : Option String
  source_exchange : Option String
  sourceWeight : ℚ
  bestBid : Option ℚ
  bestAsk : Option ℚ
  midPrice : Option ℚ
  spread : Option ℚ
  spreadBps : Option ℚ
  bidVolume : ℚ
  askVolume : ℚ
  weightedImbalance : Option ℚ
  depthLevels : ℕ
  lastSequence : Option ℤ
  timeToBookMs : Option ℚ
  isSynced : Bool
  updatedAt : Option Timestamp
  deriving DecidableEq

/-- No book is shown. -/
def defaultMicrostructure : MicrostructureMetrics where
  marketKey := none
  instrumentCode := none
  exchangeCode := none
  source_exchange := none
  sourceWeight := 1
  bestBid := none
  bestAsk := none
  midPrice := none
  spread := none
  spreadBps := none
  bidVolume := 0
  askVolume := 0
  weightedImbalance := none
  depthLevels := 0
  lastSequence := none
  timeToBookMs := none
  isSynced := false
  updatedAt := none

/-! ## The state -/

/-- Whether the engine is stable. -/
inductive EngineStabilityStatus
  | stable
  | unstable
  deriving DecidableEq

/-- The profile of the engine's latencies; `R` holds the settings and timings that no reset
touches. -/
structure ExecutionProfile (R : Type) where
  status : EngineStabilityStatus
  jitterMs : ℚ
  sampleCount : ℕ
  averageProcessingLatencyMs : Option ℚ
  maxProcessingLatencyMs : Option ℚ
  lastProcessingLatencyMs : Option ℚ
  updatedAt : Option Timestamp
  rest : R
  deriving DecidableEq

/-- The inventory and its limits. -/
structure InventoryState where
  netDelta : ℚ
  current_inventory_delta : ℚ
  baseAsset : String
  normalization : Record Number
  maxInventoryUnits : Number
  maxInventoryDelta : Number
  inventoryPenalty : ℚ
  stopBid : Bool
  stopAsk : Bool
  updatedAt : Option Timestamp

/-- No inventory. -/
def defaultInventoryState (maxInventoryUnits maxInventoryDelta : Number) : InventoryState :=
  ⟨0, 0, "BTC", Rows.empty, maxInventoryUnits, maxInventoryDelta, 0, false, false, none⟩

/-- How the equity has gone. -/
structure RiskMetrics where
  highWaterMark : ℚ
  rollingDrawdownPct : Number
  var99OneHour : Number
  isTradingEnabled : Bool
  updatedAt : Option Timestamp
  deriving DecidableEq

/-- No drawdown so far. -/
def defaultRiskMetrics (equity : ℚ) (observedAt : Timestamp) : RiskMetrics :=
  ⟨max 0 equity, .finite 0, .finite 0, false, some observedAt⟩

/-- The alert level. -/
inductive CitadelOperationalStatus
  | nominal
  | watch
  | critical
  deriving DecidableEq

/-- The alert level and its reason. -/
structure CitadelState where
  status : CitadelOperationalStatus
  reason : Option String
  shadowMode : Bool
  lastEvacuationAt : Option Timestamp
  updatedAt : Option Timestamp
  deriving DecidableEq

/-- No alert. -/
def defaultCitadelState (observedAt : Timestamp) : CitadelState :=
  ⟨.nominal, none, false, none, some observedAt⟩

/-- The types of what is kept without being read here. -/
structure Kept where
  Position : Type
  Quote : Type
  BiasDetail : Type
  Dom : Type
  GhostBook : Type
  ShadowQueue : Type
  LatencyMetrics : Type
  ProfileRest : Type
  Rest : Type

/-- The shadow book, whose orders a recovery may drop and whose queue it takes a picture of. -/
class GhostBookOperations (D : Kept) where
  reset : D.GhostBook → D.GhostBook
  snapshot : D.GhostBook → Timestamp → D.ShadowQueue

/-- Nothing is kept beside what is read here. -/
abbrev Kept.nothing : Kept := ⟨Unit, Unit, Unit, Unit, Unit, Unit, Unit, Unit, Unit⟩

instance : GhostBookOperations Kept.nothing := ⟨fun _ => (), fun _ _ => ()⟩

instance : QuoteFields Kept.nothing.Quote := ⟨fun _ => "", fun _ => .text ""⟩

/-- The engine's state as recoveries and resets see it. -/
structure EngineState (D : Kept) where
  bankroll : Bankroll
  openPositions : Record D.Position
  risk : RiskLimits
  internalOrderBookDepth : ℕ
  averageLatency : ℚ
  latencySampleCount : ℕ
  staleTickCount : ℕ
  current_inventory_delta : ℚ
  microstructure : MicrostructureMetrics
  priceDiscovery : PriceDiscoveryMetrics
  inventory : InventoryState
  riskMetrics : RiskMetrics
  quoteState : QuoteState D.Quote
  assetQuoteStates : Record (QuoteState D.Quote)
  shadowQueue : D.ShadowQueue
  executionProfile : ExecutionProfile D.ProfileRest
  citadel : CitadelState
  dom : Option D.Dom
  heartbeatAt : Timestamp
  updatedAt : Timestamp
  rest : D.Rest

variable {D : Kept}

/-- A reset and the state it meets. -/
structure BookResetStateInput (D : Kept) where
  currentState : EngineState D
  resetMarketKey : Option String
  resetInstrument : Option String
  orderBookSize : ℕ
  internalOrderBookDepth : ℕ
  now : Timestamp
  priceDiscovery : Option PriceDiscoveryMetrics

/-- The state after a reset. -/
def stateAfterOrderBookReset (input : BookResetStateInput D) : EngineState D :=
  { input.currentState with
    internalOrderBookDepth := input.internalOrderBookDepth
    microstructure :=
      if input.resetMarketKey.isSome ∧
          input.currentState.microstructure.marketKey ≠ input.resetMarketKey ∧
          0 < input.orderBookSize then input.currentState.microstructure
      else defaultMicrostructure
    priceDiscovery :=
      if (input.resetInstrument.filter (· ≠ "")).isSome then
        input.priceDiscovery.getD defaultPriceDiscovery
      else defaultPriceDiscovery
    dom := none
    heartbeatAt := input.now
    updatedAt := input.now }

/-- The profile without what was measured. -/
def ExecutionProfile.atBaseline {R : Type} (profile : ExecutionProfile R)
    (observedAt : Timestamp) : ExecutionProfile R :=
  { profile with
    status := .stable
    jitterMs := 0
    sampleCount := 0
    averageProcessingLatencyMs := some 0
    maxProcessingLatencyMs := some 0
    lastProcessingLatencyMs := some 0
    updatedAt := some observedAt }

/-- The state after the latencies were forgotten. -/
def stateAfterLatencyBaselineReset (currentState : EngineState D) (observedAt : Timestamp) :
    EngineState D :=
  { currentState with
    averageLatency := 0
    latencySampleCount := 0
    executionProfile := currentState.executionProfile.atBaseline observedAt
    updatedAt := observedAt }

end Yevow.Engine.Recovery
