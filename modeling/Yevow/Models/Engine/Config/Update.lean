import Yevow.Models.Engine.Config.Refresh

/-!
# Configuration updates

An administrator's update may carry a configuration or ask for a refresh, and may set the mode,
the bankroll, the risk limits and the latency limit. The latter are applied to what the engine
held when the update came in, after the refresh has stored its own state.
-/

namespace Yevow.Engine

open JavaScript (Record Timestamp Value)

/-- An update of the bankroll. -/
structure BankrollUpdate where
  currency : Option String
  cash : Option ℚ
  equity : Option ℚ
  realizedPnl : Option ℚ
  deriving DecidableEq

/-- An update of the limits. -/
structure RiskLimitsUpdate where
  configVersion : Option String
  killSwitch : Option Bool
  maxGrossExposure : Option Number
  maxNetExposure : Option Number
  maxOrderNotional : Option Number
  maxDrawdownPct : Option Number
  perAssetMaxPosition : Option (Record Number)

/-- A configuration snapshot; what is not checked to be a text may be any value. -/
structure GlobalRiskConfigUpdate where
  TRADING_ENABLED : Option Bool
  MAX_POSITION_SIZE : Option Number
  MAX_DRAWDOWN_PCT : Option Number
  LATENCY_THRESHOLD_MS : Option Number
  GOLDEN_COLOS : Option String
  CVAR_CONFIDENCE : Option Number
  CVAR_MAX_TAIL_LOSS_BPS : Option Number
  CVAR_LOOKBACK_TRADES : Option Number
  updatedAt : Value
  updatedBy : Value
  version : Value
  others : Record Value

/-- What an update may ask for. -/
inductive AdminSignal
  | refreshConfig
  deriving DecidableEq, Repr

/-- An update of the latency. -/
structure PerformanceUpdate where
  maxLatencyMs : Option Number
  deriving DecidableEq

/-- An update by an administrator. -/
structure AdminConfigUpdate where
  mode : Option EngineMode
  bankroll : Option BankrollUpdate
  risk : Option RiskLimitsUpdate
  config : Option GlobalRiskConfigUpdate
  signal : Option AdminSignal
  maxLatencyMs : Option Number
  MAX_LATENCY : Option Number
  performance : Option PerformanceUpdate

namespace AdminConfigUpdate

variable (update : AdminConfigUpdate)

/-- `update.signal === "REFRESH_CONFIG" || update.config`. -/
def refreshes : Bool := update.signal = some .refreshConfig ∨ update.config.isSome

/-- The update changes something. -/
def hasRuntimeConfigUpdate : Bool :=
  update.mode.isSome || update.bankroll.isSome || update.risk.isSome ||
    update.maxLatencyMs.isSome || update.MAX_LATENCY.isSome || update.performance.isSome

/-- The latency limit that the update sets. -/
def latency? : Option Number :=
  update.performance.bind PerformanceUpdate.maxLatencyMs <|> update.maxLatencyMs <|>
    update.MAX_LATENCY

end AdminConfigUpdate

/-! ## Merging -/

/-- `typeof value === "string" && value.length > 0`. -/
def nonemptyText : Value → Option String
  | .string text => if text ≠ "" then some text else none
  | _ => none

/-- The current configuration has every setting, so that the defaults never show. -/
def configFromAdminSnapshot (currentConfig : GlobalRiskConfig) (snapshot : GlobalRiskConfigUpdate)
    (observedAt version : String) : GlobalRiskConfig where
  TRADING_ENABLED := snapshot.TRADING_ENABLED.getD currentConfig.TRADING_ENABLED
  MAX_POSITION_SIZE := snapshot.MAX_POSITION_SIZE.getD currentConfig.MAX_POSITION_SIZE
  MAX_DRAWDOWN_PCT := snapshot.MAX_DRAWDOWN_PCT.getD currentConfig.MAX_DRAWDOWN_PCT
  LATENCY_THRESHOLD_MS := snapshot.LATENCY_THRESHOLD_MS.getD currentConfig.LATENCY_THRESHOLD_MS
  GOLDEN_COLOS := snapshot.GOLDEN_COLOS.getD currentConfig.GOLDEN_COLOS
  CVAR_CONFIDENCE := snapshot.CVAR_CONFIDENCE.getD currentConfig.CVAR_CONFIDENCE
  CVAR_MAX_TAIL_LOSS_BPS :=
    snapshot.CVAR_MAX_TAIL_LOSS_BPS.getD currentConfig.CVAR_MAX_TAIL_LOSS_BPS
  CVAR_LOOKBACK_TRADES := snapshot.CVAR_LOOKBACK_TRADES.getD currentConfig.CVAR_LOOKBACK_TRADES
  updatedAt := (nonemptyText snapshot.updatedAt).getD observedAt
  updatedBy := (nonemptyText snapshot.updatedBy).getD "admin"
  version := (nonemptyText snapshot.version).getD version
  others := currentConfig.others.spread snapshot.others

/-- The limits after an update. -/
def mergeRiskLimits (current : RiskLimits) (update : RiskLimitsUpdate) (updatedAt : String) :
    RiskLimits where
  configVersion := update.configVersion.getD current.configVersion
  killSwitch := update.killSwitch.getD current.killSwitch
  maxGrossExposure := update.maxGrossExposure.getD current.maxGrossExposure
  maxNetExposure := update.maxNetExposure.getD current.maxNetExposure
  maxOrderNotional := update.maxOrderNotional.getD current.maxOrderNotional
  maxDrawdownPct := update.maxDrawdownPct.getD current.maxDrawdownPct
  perAssetMaxPosition :=
    current.perAssetMaxPosition.spread (update.perAssetMaxPosition.getD Rows.empty)
  updatedAt

/-- `{ ...bankroll, ...update, updatedAt }`. -/
def mergeBankroll (current : Bankroll) (update : Option BankrollUpdate) (updatedAt : String) :
    Bankroll where
  currency := (update.bind BankrollUpdate.currency).getD current.currency
  cash := (update.bind BankrollUpdate.cash).getD current.cash
  equity := (update.bind BankrollUpdate.equity).getD current.equity
  realizedPnl := (update.bind BankrollUpdate.realizedPnl).getD current.realizedPnl
  updatedAt

/-- The latency after an update. -/
def resolveMaxLatencyMs (update : AdminConfigUpdate) (fallback : Number) : Number :=
  let candidate := update.latency?.getD fallback
  if candidate.isPositive then candidate else DEFAULT_MAX_LATENCY_MS

def CONFIG_ALARM_INTERVAL_MS : ℤ := 5000

/-! ## Applying an update -/

variable {D : Payloads}

/-- A host on which nothing fails: what it answers, and the times at which the parts of an
update ask for the time. -/
structure UpdateHost (D : Payloads) extends ConfigHost D where
  fetchConfig : GlobalRiskConfig
  readEffectiveConfig : GlobalRiskConfig → EffectiveGovernanceConfig D
  updatedAt : ℤ
  snapshotAt : ℤ
  snapshotVersion : String
  refreshedAt : ℤ
  scheduledAt : ℤ

/-- The state after an update. -/
structure RuntimeConfigUpdateResult (D : Payloads) where
  state : TradingState D
  maxLatencyMs : Number

/-- The update, at what the target was when it came in. -/
def stateAfterRuntimeConfigUpdate (host : UpdateHost D) (update : AdminConfigUpdate)
    (captured : TradingTarget D) : RuntimeConfigUpdateResult D :=
  let currentState := captured.engineState
  let observedAt := Timestamp.isoText host.updatedAt
  let maxLatencyMs := resolveMaxLatencyMs update captured.maxLatencyMs
  let nextRisk := update.risk.elim currentState.risk fun risk =>
    mergeRiskLimits currentState.risk risk observedAt
  { maxLatencyMs
    state :=
      { currentState with
        mode := update.mode.getD currentState.mode
        bankroll := mergeBankroll currentState.bankroll update.bankroll observedAt
        risk := applyLocationRisk host.js nextRisk captured.cachedConfig currentState.location
          observedAt
        maxLatencyMs
        cachedConfig := captured.cachedConfig
        macroBias := captured.macroBias
        temporaryOverride := captured.activeTemporaryOverride
        heartbeatAt := observedAt
        updatedAt := observedAt } }

namespace UpdateHost

variable (host : UpdateHost D) (update : AdminConfigUpdate)

/-- What the governor makes of the update's configuration, else of the stored one. -/
def effectiveConfig (target : TradingTarget D) : EffectiveGovernanceConfig D :=
  host.readEffectiveConfig <| (update.config.map fun snapshot =>
    configFromAdminSnapshot target.cachedConfig snapshot (Timestamp.isoText host.snapshotAt)
      host.snapshotVersion).getD host.fetchConfig

variable [QuoteFields D.Quote]

/-- The configuration is read again. -/
def refreshTradingEngineConfigForTarget (target : TradingTarget D) : TradingTarget D :=
  host.applyConfigRefresh target target.engineState (host.effectiveConfig update target)
    (.iso host.refreshedAt)

/-- The next refresh is scheduled. -/
def scheduleTradingConfigRefreshForTarget (target : TradingTarget D) : TradingTarget D :=
  { target with alarm := some (host.scheduledAt + CONFIG_ALARM_INTERVAL_MS) }

/-- `applyRuntimeConfigUpdateSideEffects`. -/
def applyRuntimeUpdate (captured target : TradingTarget D) : TradingTarget D :=
  let runtimeUpdate := stateAfterRuntimeConfigUpdate host update captured
  { target with maxLatencyMs := runtimeUpdate.maxLatencyMs }.putState runtimeUpdate.state

/-- An update, with a refresh where it asks for one. -/
def applyTradingEngineConfigUpdateForTarget (target : TradingTarget D) : TradingTarget D :=
  if update.refreshes then
    let refreshed := host.scheduleTradingConfigRefreshForTarget
      (host.refreshTradingEngineConfigForTarget update target)
    if update.hasRuntimeConfigUpdate then host.applyRuntimeUpdate update target refreshed
    else refreshed
  else host.applyRuntimeUpdate update target target

end UpdateHost

end Yevow.Engine
