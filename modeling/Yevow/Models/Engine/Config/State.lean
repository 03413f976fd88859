import Yevow.Models.Engine.Config.Placement
import Yevow.Models.Engine.Quotes.Selection
import Yevow.Models.Engine.Slippage

/-!
# The trading engine's state

What an execution report, a janitor run and a change of the configuration read and write of
the engine: its state, the copy of it in the storage, and the configuration in force.
-/

namespace Yevow.Engine

open JavaScript (Record Timestamp Value)

/-- How the engine trades. -/
inductive EngineMode
  | paper
  | live
  | halted
  deriving DecidableEq, Repr

/-- The limits in force. -/
structure RiskLimits where
  configVersion : String
  killSwitch : Bool
  maxGrossExposure : Number
  maxNetExposure : Number
  maxOrderNotional : Number
  maxDrawdownPct : Number
  perAssetMaxPosition : Record Number
  updatedAt : String

/-- The configuration; `others` holds the settings that are passed on only. -/
structure GlobalRiskConfig where
  TRADING_ENABLED : Bool
  MAX_POSITION_SIZE : Number
  MAX_DRAWDOWN_PCT : Number
  LATENCY_THRESHOLD_MS : Number
  GOLDEN_COLOS : String
  CVAR_CONFIDENCE : Number
  CVAR_MAX_TAIL_LOSS_BPS : Number
  CVAR_LOOKBACK_TRADES : Number
  updatedAt : String
  updatedBy : String
  version : String
  others : Record Value

/-- What the last janitor run found. -/
structure JanitorState where
  lastRunAt : Option String
  zombieOrders : List String
  orphanExchangeOrders : List String
  reconciledOrders : List String
  cancelledOrders : List String
  dustPositions : List String
  dustCloseIntents : List String
  prunedTelemetryCount : ℕ
  updatedAt : Option String
  deriving DecidableEq

/-- The types of what the engine keeps without reading it here. -/
structure Payloads where
  Quote : Type
  BiasDetail : Type
  Override : Type
  AssetMatrix : Type
  ProfilerStates : Type

/-- What is read of an asset matrix. -/
class AllocationFields (M : Type) where
  capitalAllocationPct : M → String → Option Number

/-- Nothing is kept beside what is read here. -/
abbrev Payloads.nothing : Payloads := ⟨Unit, Unit, Unit, Unit, Unit⟩

instance : QuoteFields Payloads.nothing.Quote := ⟨fun _ => "", fun _ => .text ""⟩

instance : AllocationFields Payloads.nothing.AssetMatrix := ⟨fun _ _ => none⟩

/-- The engine's state; the accounting of reports works on the part it extends. -/
structure TradingState (D : Payloads) extends EngineState where
  mode : EngineMode
  risk : RiskLimits
  maxLatencyMs : Number
  cachedConfig : GlobalRiskConfig
  macroBias : MacroBias D.BiasDetail
  temporaryOverride : Option D.Override
  assetMatrix : D.AssetMatrix
  profilerStates : D.ProfilerStates
  location : EngineLocation
  quoteState : QuoteState D.Quote
  assetQuoteStates : Record (QuoteState D.Quote)
  janitor : JanitorState
  slippage : SlippageAnalytics

/-- What the governor makes of a configuration. -/
structure EffectiveGovernanceConfig (D : Payloads) where
  config : GlobalRiskConfig
  macroBias : MacroBias D.BiasDetail
  temporaryOverride : Option D.Override

/-- A trading engine, with what its storage holds. -/
structure TradingTarget (D : Payloads) where
  cachedConfig : GlobalRiskConfig
  macroBias : MacroBias D.BiasDetail
  activeTemporaryOverride : Option D.Override
  maxLatencyMs : Number
  killSwitchLogged : Bool
  engineState : TradingState D
  storedState : Option (TradingState D)
  alarm : Option ℤ

variable {D : Payloads}

/-- The limits before any configuration. -/
def defaultRiskLimits (updatedAt : String) : RiskLimits where
  configVersion := "bootstrap"
  killSwitch := true
  maxGrossExposure := .finite 0
  maxNetExposure := .finite 0
  maxOrderNotional := .finite 0
  maxDrawdownPct := .finite 0
  perAssetMaxPosition := Rows.empty
  updatedAt

/-- No janitor run. -/
def defaultJanitorState : JanitorState := ⟨none, [], [], [], [], [], [], 0, none⟩

def DEFAULT_MAX_LATENCY_MS : Number := .finite 250

/-- The state of a new engine, over its default configuration and what is derived from it. -/
def defaultEngineState (now : Timestamp) (defaultConfig : GlobalRiskConfig)
    (neutralMacroBias : MacroBias D.BiasDetail) (assetMatrix : D.AssetMatrix)
    (profilerStates : D.ProfilerStates) : TradingState D where
  bankroll := ⟨"USD", 0, 0, 0, now.toText⟩
  openPositions := Rows.empty
  orderMap := Rows.empty
  lastTradeIntent := none
  inventory := ⟨0⟩
  current_inventory_delta := 0
  updatedAt := now.toText
  heartbeatAt := now.toText
  mode := .paper
  risk := defaultRiskLimits now.toText
  maxLatencyMs := DEFAULT_MAX_LATENCY_MS
  cachedConfig := defaultConfig
  macroBias := neutralMacroBias
  temporaryOverride := none
  assetMatrix
  profilerStates
  location := defaultEngineLocation
  quoteState := defaultQuoteState
  assetQuoteStates :=
    forAssets (defaultAssetQuoteState defaultConfig.TRADING_ENABLED neutralMacroBias now)
  janitor := defaultJanitorState
  slippage := defaultSlippageAnalytics

/-- `target.engineState = state`, followed by a write of it to the storage. -/
def TradingTarget.putState (target : TradingTarget D) (state : TradingState D) :
    TradingTarget D :=
  { target with
    engineState := state
    storedState := some state }

end Yevow.Engine
