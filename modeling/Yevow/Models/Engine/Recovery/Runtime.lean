import Yevow.Models.Engine.Recovery.State

/-!
# Resets and recoveries of a trading engine

An order-book reset replaces the engine's state and persists it, and a recovery makes several
such resets, may reset the latency baseline and the shadow book, and then builds the state from
what it had captured at its start. Storage calls are taken to succeed. Telemetry, log lines,
retired profilers and the start of the paper session are left out.
-/

namespace Yevow.Engine.Recovery

open JavaScript (Record Runtime Timestamp)

/-- The settings a recovery reads. -/
structure RecoveryConfig where
  TRADING_ENABLED : Bool
  MAX_DRAWDOWN_PCT : Number
  MAX_INVENTORY_UNITS : Number
  MAX_INVENTORY_DELTA : Number

/-- What is stored of an engine; books are stored under their market keys. -/
structure EngineStorage (D : Kept) where
  engineState : Option (EngineState D)
  latencyHistory : Option (List D.LatencyMetrics)
  processingLatencySamples : Option (List ℚ)
  books : Rows String PricedBook

/-- A trading engine with its storage. -/
structure RecoveryTarget (D : Kept) where
  engineState : EngineState D
  cachedConfig : RecoveryConfig
  macroBias : MacroBias D.BiasDetail
  shadowModeSetting : Option String
  paperBankrollUsd : Option String
  latencyHistory : List D.LatencyMetrics
  processingLatencySamples : List ℚ
  ghostBook : D.GhostBook
  stores : OrderBookResetStores
  activeIngestConnections : Rows String String
  storage : EngineStorage D

variable {D : Kept}

/-! ## The latency baseline -/

/-- The latencies are forgotten. -/
def resetTradingLatencyBaselineForTarget (observedAt : Timestamp) (target : RecoveryTarget D) :
    RecoveryTarget D :=
  { target with
    latencyHistory := []
    processingLatencySamples := []
    engineState := stateAfterLatencyBaselineReset target.engineState observedAt }

/-! ## Order-book resets -/

/-- Who asks for a reset. -/
inductive OrderBookResetSource
  | ingestWorker
  | admin
  | system
  deriving DecidableEq

/-- `Partial<OrderBookResetRequest>`, without what only telemetry reads. -/
structure OrderBookResetRequest where
  source : Option OrderBookResetSource
  streamId : Option String
  instrumentCode : Option String
  source_exchange : Option String
  connectionId : Option String

/-- What a reset concerns. -/
structure ResolvedOrderBookReset where
  now : Timestamp
  source : OrderBookResetSource
  resetInstrument : Option String
  resetSourceExchange : Option String
  resetStreamId : Option String
  resetMarketKey : Option String
  connectionId : Option String

/-- A text that is not empty. -/
def nonempty (text : Option String) : Option String := text.filter (· ≠ "")

/-- A request read as a reset. -/
def resolveOrderBookReset (payload : OrderBookResetRequest) (now : Timestamp) :
    ResolvedOrderBookReset :=
  let resetInstrument := payload.instrumentCode.map String.toLower
  let resetSourceExchange := (nonempty payload.source_exchange).map normalizeSourceExchange
  { now
    source := payload.source.getD .system
    resetInstrument
    resetSourceExchange
    resetStreamId := nonempty payload.streamId
    resetMarketKey := do
      let instrument ← nonempty resetInstrument
      let exchange ← resetSourceExchange
      return buildMarketKey exchange instrument
    connectionId := nonempty payload.connectionId }

/-- The books of a reset are dropped. -/
def applyOrderBookResetStores (stores : OrderBookResetStores) :
    Option String → OrderBookResetStores
  | some resetMarketKey =>
    { orderBook := stores.orderBook.delete resetMarketKey
      bids := stores.bids.delete resetMarketKey
      asks := stores.asks.delete resetMarketKey
      sync := stores.sync.delete resetMarketKey }
  | none => ⟨Rows.empty, Rows.empty, Rows.empty, Rows.empty⟩

/-- The deletion of `orderBookResetDeleteKeys`. -/
def deleteResetBooks (books : Rows String PricedBook) : Option String → Rows String PricedBook
  | some resetMarketKey => books.delete resetMarketKey
  | none => Rows.empty

/-- The connections that a reset takes over. -/
def orderBookResetConnectionKeys (reset : ResolvedOrderBookReset) : List String :=
  if reset.source ≠ .ingestWorker ∨ reset.connectionId = none then []
  else
    [reset.resetSourceExchange.getD "hyperliquid" ++ ":" ++ reset.resetStreamId.getD "default"]

/-- A connection takes over from the last. -/
def applyOrderBookResetConnectionIds (connections : Rows String String)
    (connectionId : Option String) (connectionKeys : List String) : Rows String String :=
  match connectionId with
  | none => connections
  | some connectionId =>
    connectionKeys.foldl (fun connections key => connections.set key connectionId) connections

variable (ar : EngineArithmetic)

/-- The state that an order-book reset makes of the target's; it counts the levels and computes
the price before the stores are purged. -/
def orderBookResetState (reset : ResolvedOrderBookReset) (target : RecoveryTarget D) :
    EngineState D :=
  stateAfterOrderBookReset
    { currentState := target.engineState
      resetMarketKey := reset.resetMarketKey
      resetInstrument := reset.resetInstrument
      orderBookSize := target.stores.orderBook.rows.length
      internalOrderBookDepth := countBookLevels target.stores.bids target.stores.asks
      now := reset.now
      priceDiscovery :=
        if (nonempty reset.resetInstrument).isSome then
          some (calculateOrderBookPriceDiscovery ar target.stores.orderBook reset.resetInstrument
            reset.now)
        else none }

/-- The baseline and the connections, after the stream of the ingest worker was recovered. -/
def applyIngestReset (reset : ResolvedOrderBookReset) (target : RecoveryTarget D) :
    RecoveryTarget D :=
  if reset.source = .ingestWorker then
    let target := resetTradingLatencyBaselineForTarget reset.now target
    { target with
      activeIngestConnections :=
        applyOrderBookResetConnectionIds target.activeIngestConnections reset.connectionId
          (orderBookResetConnectionKeys reset) }
  else target

/-- A reset of the books. -/
def resetTradingOrderBookForTarget (payload : OrderBookResetRequest) (now : Timestamp)
    (target : RecoveryTarget D) : RecoveryTarget D :=
  let reset := resolveOrderBookReset payload now
  let state := orderBookResetState ar reset target
  let target := applyIngestReset reset
    { target with
      engineState := state
      stores := applyOrderBookResetStores target.stores reset.resetMarketKey }
  { target with
    storage :=
      { target.storage with
        engineState := some state
        books := deleteResetBooks target.storage.books reset.resetMarketKey } }

/-! ## Recoveries -/

/-- Instruments, as a list or as a text. -/
inductive ResetInstruments
  | list (values : List String)
  | text (values : String)

/-- What an administrator asks to recover. -/
structure AdminRecoveryRuntimePayload where
  resetInstruments : Option ResetInstruments
  instrumentCode : Option String
  source_exchange : Option String
  clearCitadel : Option Bool
  clearQuoteState : Option Bool
  clearLatency : Option Bool
  resetPaperPortfolio : Option Bool
  clearShadowQueue : Option Bool

/-- The instruments that are named. -/
def maintenanceRecoveryInstruments (payload : AdminRecoveryRuntimePayload) : List String :=
  let values :=
    (match payload.resetInstruments with
      | some (.list values) => values
      | some (.text values) => values.splitOn ","
      | none => []) ++ payload.instrumentCode.toList
  (((values.map fun value => (JavaScript.trim value).toLower).filter (· ≠ "")).map fun value =>
    if value.toList.contains '-' then value else value ++ "-usd").eraseDups

/-- What a recovery resets. -/
structure AdminRecoveryPlan where
  observedAt : Timestamp
  sourceExchange : String
  resetInstruments : List String
  shouldClearLatency : Bool
  shouldClearShadowQueue : Bool
  shouldResetPaperPortfolio : Bool

/-- A request read as a recovery. -/
def adminRecoveryPlan (payload : AdminRecoveryRuntimePayload) (observedAt : Timestamp) :
    AdminRecoveryPlan where
  observedAt
  sourceExchange :=
    ((nonempty payload.source_exchange).map normalizeSourceExchange).getD "hyperliquid"
  resetInstruments := maintenanceRecoveryInstruments payload
  shouldClearLatency := payload.clearLatency ≠ some false
  shouldClearShadowQueue := payload.clearShadowQueue ≠ some false
  shouldResetPaperPortfolio := payload.resetPaperPortfolio = some true

/-- The reset that a recovery asks for. -/
def adminResetRequest (instrumentCode sourceExchange : String) : OrderBookResetRequest where
  source := some .admin
  streamId := none
  instrumentCode := some instrumentCode
  source_exchange := some sourceExchange
  connectionId := none

/-- Each reset reads the clock for itself. -/
def dispatchAdminRecoveryOrderBookResets (sourceExchange : String) (clock : ℕ → Timestamp)
    (resetInstruments : List String) (target : RecoveryTarget D) : RecoveryTarget D :=
  resetInstruments.zipIdx.foldl (fun target instrument =>
    resetTradingOrderBookForTarget ar (adminResetRequest instrument.1 sourceExchange)
      (clock instrument.2) target) target

variable (js : Runtime)

/-- `readPositiveNumber(envValue, DEFAULT_PAPER_BANKROLL_USD)`. -/
def resolveAdminRecoveryPaperBankroll (envValue : Option String) : ℚ :=
  match envValue.elim .nan js.toNumber with
  | .finite value => if 0 < value then value else 5000
  | _ => 5000

/-- A setting that is switched on. -/
def isShadowMode (setting : Option String) : Bool :=
  setting.any fun value => ["1", "true", "yes", "on"].contains (JavaScript.trim value).toLower

/-- The state after a recovery. -/
def stateAfterAdminControlledRecovery [QuoteFields D.Quote] (currentState : EngineState D)
    (payload : AdminRecoveryRuntimePayload) (cachedConfig : RecoveryConfig)
    (macroBias : MacroBias D.BiasDetail) (observedAt : Timestamp) (shadowMode : Bool)
    (paperBankroll : ℚ) (shadowQueue : D.ShadowQueue) : EngineState D :=
  let resetsPaper : Bool := payload.resetPaperPortfolio = some true
  let assetQuoteStates :=
    if payload.clearQuoteState = some false then currentState.assetQuoteStates
    else forAssets (defaultAssetQuoteState cachedConfig.TRADING_ENABLED macroBias observedAt)
  let riskTradingEnabled := cachedConfig.TRADING_ENABLED && (resetsPaper ||
    currentState.riskMetrics.rollingDrawdownPct.le cachedConfig.MAX_DRAWDOWN_PCT)
  let bankroll :=
    if resetsPaper then
      { currentState.bankroll with
        cash := paperBankroll
        equity := paperBankroll
        realizedPnl := 0
        updatedAt := observedAt.toText }
    else currentState.bankroll
  let inventory :=
    if resetsPaper then
      { defaultInventoryState cachedConfig.MAX_INVENTORY_UNITS
          cachedConfig.MAX_INVENTORY_DELTA with
        updatedAt := some observedAt }
    else currentState.inventory
  { currentState with
    bankroll
    openPositions := if resetsPaper then Rows.empty else currentState.openPositions
    inventory
    current_inventory_delta := inventory.current_inventory_delta
    staleTickCount := 0
    quoteState :=
      if payload.clearQuoteState = some false then currentState.quoteState
      else aggregateQuoteState js assetQuoteStates currentState.quoteState observedAt
    assetQuoteStates
    shadowQueue
    citadel :=
      if payload.clearCitadel = some false then currentState.citadel
      else { defaultCitadelState observedAt with shadowMode }
    riskMetrics :=
      { (if resetsPaper then defaultRiskMetrics bankroll.equity observedAt
          else currentState.riskMetrics) with
        isTradingEnabled := riskTradingEnabled
        updatedAt := some observedAt }
    risk :=
      { currentState.risk with
        killSwitch := !riskTradingEnabled
        maxDrawdownPct := cachedConfig.MAX_DRAWDOWN_PCT
        updatedAt := observedAt.toText }
    executionProfile :=
      { currentState.executionProfile with
        status := .stable
        updatedAt := some observedAt }
    heartbeatAt := observedAt
    updatedAt := observedAt }

/-- The steps of a plan: the order-book resets, the latency baseline, the shadow book. -/
def applyAdminRecoveryPlanSideEffects [GhostBookOperations D] (plan : AdminRecoveryPlan)
    (clock : ℕ → Timestamp) (target : RecoveryTarget D) : RecoveryTarget D :=
  let target := dispatchAdminRecoveryOrderBookResets ar plan.sourceExchange clock
    plan.resetInstruments target
  let target :=
    if plan.shouldClearLatency then resetTradingLatencyBaselineForTarget plan.observedAt target
    else target
  if plan.shouldClearShadowQueue then
    { target with ghostBook := GhostBookOperations.reset target.ghostBook }
  else target

/-- The new state and what is persisted come from the state and the lists captured before the
steps of the plan. -/
def recoverTradingEngineStateForTarget [QuoteFields D.Quote] [GhostBookOperations D]
    (payload : AdminRecoveryRuntimePayload) (observedAt : Timestamp) (clock : ℕ → Timestamp)
    (captured : RecoveryTarget D) : RecoveryTarget D :=
  let plan := adminRecoveryPlan payload observedAt
  let target := applyAdminRecoveryPlanSideEffects ar plan clock captured
  let state := stateAfterAdminControlledRecovery js captured.engineState payload
    captured.cachedConfig captured.macroBias observedAt (isShadowMode captured.shadowModeSetting)
    (resolveAdminRecoveryPaperBankroll js captured.paperBankrollUsd)
    (GhostBookOperations.snapshot target.ghostBook observedAt)
  { target with
    engineState := state
    storage :=
      { target.storage with
        engineState := some state
        latencyHistory := some captured.latencyHistory
        processingLatencySamples := some captured.processingLatencySamples } }

end Yevow.Engine.Recovery
