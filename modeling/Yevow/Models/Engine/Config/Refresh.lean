import Yevow.Models.Engine.Config.State

/-!
# Refreshing the configuration

A refresh asks the governor for the effective configuration, builds a new engine state from
the one that the refresh was started with, and stores it.
-/

namespace Yevow.Engine

open JavaScript (Record Runtime Timestamp)

/-- What a refresh takes from its host. -/
structure ConfigHost (D : Payloads) where
  js : Runtime
  env : PlacementEnv
  snapshotProfilers : D.ProfilerStates
  /-- The asset matrix, which reads the books and the target as it is at that time. -/
  calculateAssetMatrix : TradingTarget D → String → D.ProfilerStates →
    Record (QuoteState D.Quote) → D.AssetMatrix

/-- `applyLocationRisk`'s order size limit. -/
def locationNotional (js : Runtime) (config : GlobalRiskConfig) (location : EngineLocation) :
    Number :=
  roundMetric js
    (Number.mul js.arithmetic.fraction config.MAX_POSITION_SIZE location.positionSizeMultiplier) 8

/-- The limits scaled by the location. -/
def applyLocationRisk (js : Runtime) (risk : RiskLimits) (config : GlobalRiskConfig)
    (location : EngineLocation) (updatedAt : String) : RiskLimits :=
  { risk with
    configVersion := config.version
    killSwitch := !config.TRADING_ENABLED
    maxOrderNotional := locationNotional js config location
    maxDrawdownPct := config.MAX_DRAWDOWN_PCT
    updatedAt }

/-- The fields of the topology that the location is derived from. -/
def configRefreshTopologyFromLocation (location : EngineLocation) (observedAt : String) :
    EdgeTopology :=
  ⟨location.colo, location.placement, observedAt⟩

/-- The quotes after a refresh. -/
structure ConfigRefreshQuoteState (D : Payloads) where
  assetQuoteStates : Record (QuoteState D.Quote)
  quoteState : QuoteState D.Quote

variable {D : Payloads} [QuoteFields D.Quote]

/-- Quotes are suspended as the configuration says. -/
def configRefreshQuoteState (js : Runtime) (state : TradingState D)
    (effective : EffectiveGovernanceConfig D) (observedAt : Timestamp) :
    ConfigRefreshQuoteState D :=
  let assetQuoteStates := reconcileAssetQuoteStatesForConfig state.assetQuoteStates
    effective.config.TRADING_ENABLED effective.macroBias observedAt
  ⟨assetQuoteStates, aggregateQuoteState js assetQuoteStates state.quoteState observedAt⟩

namespace ConfigHost

variable (host : ConfigHost D)

/-- The location that a refresh derives from the last one. -/
def refreshedLocation (state : TradingState D) (config : GlobalRiskConfig)
    (observedAt : Timestamp) : EngineLocation :=
  resolveEngineLocation host.js
    (configRefreshTopologyFromLocation state.location observedAt.toText) state.location host.env
    config.GOLDEN_COLOS state.location.observedLatencyMs

/-- `buildConfigRefreshRuntimeState` and `stateAfterConfigRefresh`, at a target that may have
changed since the refresh took its current state. -/
def buildConfigRefreshRuntimeState (target : TradingTarget D) (currentState : TradingState D)
    (effective : EffectiveGovernanceConfig D) (observedAt : Timestamp) : TradingState D :=
  let nextConfig := effective.config
  let quoteRefresh := configRefreshQuoteState host.js currentState effective observedAt
  let profilerStates := host.snapshotProfilers
  let location := host.refreshedLocation currentState nextConfig observedAt
  { currentState with
    cachedConfig := nextConfig
    macroBias := effective.macroBias
    temporaryOverride := effective.temporaryOverride
    assetQuoteStates := quoteRefresh.assetQuoteStates
    quoteState := quoteRefresh.quoteState
    assetMatrix := host.calculateAssetMatrix target observedAt.toText profilerStates
      quoteRefresh.assetQuoteStates
    profilerStates
    maxLatencyMs := nextConfig.LATENCY_THRESHOLD_MS
    location
    risk := applyLocationRisk host.js
      { currentState.risk with
        configVersion := nextConfig.version
        killSwitch := !nextConfig.TRADING_ENABLED
        maxOrderNotional := nextConfig.MAX_POSITION_SIZE
        maxDrawdownPct := nextConfig.MAX_DRAWDOWN_PCT
        updatedAt := observedAt.toText }
      nextConfig location observedAt.toText
    updatedAt := observedAt.toText }

/-- What a refresh does once the governor has answered: the new state is built and
`applyConfigRefreshSideEffects` stores it, without another suspension in between. -/
def applyConfigRefresh (target : TradingTarget D) (currentState : TradingState D)
    (effective : EffectiveGovernanceConfig D) (observedAt : Timestamp) : TradingTarget D :=
  let refreshedState :=
    host.buildConfigRefreshRuntimeState target currentState effective observedAt
  { target with
    cachedConfig := effective.config
    macroBias := effective.macroBias
    activeTemporaryOverride := effective.temporaryOverride
    maxLatencyMs := effective.config.LATENCY_THRESHOLD_MS
    killSwitchLogged := !effective.config.TRADING_ENABLED && target.killSwitchLogged
    engineState := refreshedState
    storedState := some refreshedState }

end ConfigHost

end Yevow.Engine
