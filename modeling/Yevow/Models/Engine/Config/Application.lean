import Yevow.Core.JavaScript.Reference
import Yevow.Models.Engine.Config.Update

/-!
# What an update leaves behind

An update that refreshes the configuration and sets runtime fields writes the engine's state
twice. The second write starts from what the target held before the first, so that the new
configuration shows in the state only where nothing of it is new.
-/

namespace Yevow.Engine

open JavaScript (Record Timestamp)

variable {D : Payloads} [QuoteFields D.Quote]

namespace UpdateHost

variable (host : UpdateHost D) (update : AdminConfigUpdate) (target : TradingTarget D)

/-- The quote states, reconciled with the new configuration. -/
def newQuoteState : ConfigRefreshQuoteState D :=
  configRefreshQuoteState host.js target.engineState (host.effectiveConfig update target)
    (.iso host.refreshedAt)

/-- The order size limit of the new configuration at the location that the refresh derives. -/
def newNotional : Number :=
  locationNotional host.js (host.effectiveConfig update target).config
    (host.refreshedLocation target.engineState (host.effectiveConfig update target).config
      (.iso host.refreshedAt))

/-- The target and its storage hold the new configuration and the fields of the update. -/
structure Applied (final : TradingTarget D) : Prop where
  effective : (⟨final.cachedConfig, final.macroBias, final.activeTemporaryOverride⟩ :
    EffectiveGovernanceConfig D) = host.effectiveConfig update target
  cachedConfig : final.engineState.cachedConfig = final.cachedConfig
  macroBias : final.engineState.macroBias = final.macroBias
  temporaryOverride : final.engineState.temporaryOverride = final.activeTemporaryOverride
  configVersion : final.engineState.risk.configVersion =
    (update.risk.bind RiskLimitsUpdate.configVersion).getD final.cachedConfig.version
  killSwitch : final.engineState.risk.killSwitch =
    (update.risk.bind RiskLimitsUpdate.killSwitch).getD !final.cachedConfig.TRADING_ENABLED
  maxOrderNotional : final.engineState.risk.maxOrderNotional =
    (update.risk.bind RiskLimitsUpdate.maxOrderNotional).getD (host.newNotional update target)
  maxDrawdownPct : final.engineState.risk.maxDrawdownPct =
    (update.risk.bind RiskLimitsUpdate.maxDrawdownPct).getD final.cachedConfig.MAX_DRAWDOWN_PCT
  assetQuoteStates :
    final.engineState.assetQuoteStates = (host.newQuoteState update target).assetQuoteStates
  quoteState : final.engineState.quoteState = (host.newQuoteState update target).quoteState
  maxLatencyMs :
    final.maxLatencyMs = update.latency?.getD final.cachedConfig.LATENCY_THRESHOLD_MS
  mode : final.engineState.mode = update.mode.getD target.engineState.mode
  bankroll : final.engineState.bankroll = mergeBankroll target.engineState.bankroll
    update.bankroll final.engineState.bankroll.updatedAt
  maxGrossExposure : final.engineState.risk.maxGrossExposure =
    (update.risk.bind RiskLimitsUpdate.maxGrossExposure).getD
      target.engineState.risk.maxGrossExposure
  maxNetExposure : final.engineState.risk.maxNetExposure =
    (update.risk.bind RiskLimitsUpdate.maxNetExposure).getD target.engineState.risk.maxNetExposure
  perAssetMaxPosition : final.engineState.risk.perAssetMaxPosition =
    target.engineState.risk.perAssetMaxPosition.spread
      ((update.risk.bind RiskLimitsUpdate.perAssetMaxPosition).getD Rows.empty)
  stored : final.storedState = some final.engineState

/-- Nothing that the refresh brings is new to the target, and the update agrees with it. -/
structure NothingNew : Prop where
  effective : (⟨target.cachedConfig, target.macroBias, target.activeTemporaryOverride⟩ :
    EffectiveGovernanceConfig D) = host.effectiveConfig update target
  configVersion : ∀ version, update.risk.bind RiskLimitsUpdate.configVersion = some version →
    version = target.cachedConfig.version
  killSwitch : ∀ halted, update.risk.bind RiskLimitsUpdate.killSwitch = some halted →
    halted = !target.cachedConfig.TRADING_ENABLED
  maxOrderNotional : (update.risk.bind RiskLimitsUpdate.maxOrderNotional).getD
    (host.newNotional update target) =
      locationNotional host.js target.cachedConfig target.engineState.location
  maxDrawdownPct : ∀ limit, update.risk.bind RiskLimitsUpdate.maxDrawdownPct = some limit →
    limit = target.cachedConfig.MAX_DRAWDOWN_PCT
  quotes : (⟨target.engineState.assetQuoteStates, target.engineState.quoteState⟩ :
    ConfigRefreshQuoteState D) = host.newQuoteState update target
  latency : ∀ latency, update.latency? = some latency → latency.isPositive = true
  threshold : update.latency? = none →
    resolveMaxLatencyMs update target.maxLatencyMs = target.cachedConfig.LATENCY_THRESHOLD_MS

variable {host update target}

/-! ## A refresh alone -/

private theorem fields_of_not_runtime (h : update.hasRuntimeConfigUpdate = false) :
    update.mode = none ∧ update.bankroll = none ∧ update.risk = none ∧ update.latency? = none := by
  simp only [AdminConfigUpdate.hasRuntimeConfigUpdate, Bool.or_eq_false_iff,
    Option.isSome_eq_false_iff, Option.isNone_iff_eq_none] at h
  obtain ⟨⟨⟨⟨⟨hmode, hbankroll⟩, hrisk⟩, hmax⟩, hMAX⟩, hperformance⟩ := h
  refine ⟨hmode, hbankroll, hrisk, ?_⟩
  rw [AdminConfigUpdate.latency?, hmax, hMAX, hperformance]
  rfl

private theorem applied_of_not_runtime (hrefreshes : update.refreshes = true)
    (hruntime : update.hasRuntimeConfigUpdate = false) :
    host.Applied update target (host.applyTradingEngineConfigUpdateForTarget update target) := by
  obtain ⟨hmode, hbankroll, hrisk, hlatency⟩ := fields_of_not_runtime hruntime
  simp only [applyTradingEngineConfigUpdateForTarget, hrefreshes, hruntime, if_true,
    Bool.false_eq_true, if_false]
  constructor
  case mode => rw [hmode]; rfl
  case bankroll => rw [hbankroll]; rfl
  case maxLatencyMs => rw [hlatency]; rfl
  case stored => rfl
  all_goals first | rfl | (rw [hrisk]; rfl)

/-! ## A refresh and a runtime update -/

private theorem applyUpdate_of_runtime (hrefreshes : update.refreshes = true)
    (hruntime : update.hasRuntimeConfigUpdate = true) :
    host.applyTradingEngineConfigUpdateForTarget update target =
      host.applyRuntimeUpdate update target (host.scheduleTradingConfigRefreshForTarget
        (host.refreshTradingEngineConfigForTarget update target)) := by
  simp only [applyTradingEngineConfigUpdateForTarget, hrefreshes, hruntime, if_true]

private theorem eq_getD_iff {α : Type} {o : Option α} {d : α} :
    d = o.getD d ↔ ∀ x, o = some x → x = d := by
  cases o with
  | none => simp
  | some x => simp [eq_comm]

private theorem resolved_eq_iff {fallback threshold : Number} :
    resolveMaxLatencyMs update fallback = update.latency?.getD threshold ↔
      (∀ latency, update.latency? = some latency → latency.isPositive = true) ∧
        (update.latency? = none → resolveMaxLatencyMs update fallback = threshold) := by
  cases hlatency : update.latency? with
  | none => simp
  | some latency =>
    simp only [resolveMaxLatencyMs, hlatency, Option.getD_some, Option.some.injEq, forall_eq',
      reduceCtorEq, false_implies, and_true, ite_eq_left_iff, Bool.not_eq_true]
    constructor
    · intro h
      by_contra hpositive
      have hdefault := h (Bool.not_eq_true _ ▸ hpositive)
      rw [← hdefault] at hpositive
      exact hpositive (by decide)
    · intro hpositive hnot
      rw [hpositive] at hnot
      cases hnot

private theorem nothingNew_of_applied (h : host.Applied update target
    (host.applyRuntimeUpdate update target (host.scheduleTradingConfigRefreshForTarget
      (host.refreshTradingEngineConfigForTarget update target)))) :
    host.NothingNew update target := by
  have hconfig : target.cachedConfig = (host.effectiveConfig update target).config :=
    h.cachedConfig
  have hbias : target.macroBias = (host.effectiveConfig update target).macroBias := h.macroBias
  have hoverride : target.activeTemporaryOverride =
      (host.effectiveConfig update target).temporaryOverride := h.temporaryOverride
  have hversion : target.cachedConfig.version =
      (update.risk.bind RiskLimitsUpdate.configVersion).getD
        (host.effectiveConfig update target).config.version := h.configVersion
  have hkill : (!target.cachedConfig.TRADING_ENABLED) =
      (update.risk.bind RiskLimitsUpdate.killSwitch).getD
        !(host.effectiveConfig update target).config.TRADING_ENABLED := h.killSwitch
  have hdrawdown : target.cachedConfig.MAX_DRAWDOWN_PCT =
      (update.risk.bind RiskLimitsUpdate.maxDrawdownPct).getD
        (host.effectiveConfig update target).config.MAX_DRAWDOWN_PCT := h.maxDrawdownPct
  have hlatency : resolveMaxLatencyMs update target.maxLatencyMs =
      update.latency?.getD (host.effectiveConfig update target).config.LATENCY_THRESHOLD_MS :=
    h.maxLatencyMs
  rw [← hconfig] at hversion hkill hdrawdown hlatency
  constructor
  case effective => rw [hconfig, hbias, hoverride]
  case configVersion => exact eq_getD_iff.mp hversion
  case killSwitch => exact eq_getD_iff.mp hkill
  case maxOrderNotional => exact h.maxOrderNotional.symm
  case maxDrawdownPct => exact eq_getD_iff.mp hdrawdown
  case quotes =>
    have hasset : target.engineState.assetQuoteStates =
      (host.newQuoteState update target).assetQuoteStates := h.assetQuoteStates
    have hquote : target.engineState.quoteState =
      (host.newQuoteState update target).quoteState := h.quoteState
    rw [hasset, hquote]
  case latency => exact (resolved_eq_iff.mp hlatency).1
  case threshold => exact (resolved_eq_iff.mp hlatency).2

private theorem applied_of_nothingNew (h : host.NothingNew update target) :
    host.Applied update target
      (host.applyRuntimeUpdate update target (host.scheduleTradingConfigRefreshForTarget
        (host.refreshTradingEngineConfigForTarget update target))) := by
  have hconfig : target.cachedConfig = (host.effectiveConfig update target).config :=
    congrArg EffectiveGovernanceConfig.config h.effective
  have hbias : target.macroBias = (host.effectiveConfig update target).macroBias :=
    congrArg EffectiveGovernanceConfig.macroBias h.effective
  have hoverride : target.activeTemporaryOverride =
      (host.effectiveConfig update target).temporaryOverride :=
    congrArg EffectiveGovernanceConfig.temporaryOverride h.effective
  have hversion := eq_getD_iff.mpr h.configVersion
  have hkill := eq_getD_iff.mpr h.killSwitch
  have hdrawdown := eq_getD_iff.mpr h.maxDrawdownPct
  have hlatency := resolved_eq_iff.mpr ⟨h.latency, h.threshold⟩
  rw [hconfig] at hversion hkill hdrawdown hlatency
  constructor
  case effective => rfl
  case cachedConfig => exact hconfig
  case macroBias => exact hbias
  case temporaryOverride => exact hoverride
  case configVersion => exact (congrArg GlobalRiskConfig.version hconfig).trans hversion
  case killSwitch => exact (congrArg (!GlobalRiskConfig.TRADING_ENABLED ·) hconfig).trans hkill
  case maxOrderNotional => exact h.maxOrderNotional.symm
  case maxDrawdownPct =>
    exact (congrArg GlobalRiskConfig.MAX_DRAWDOWN_PCT hconfig).trans hdrawdown
  case assetQuoteStates => exact congrArg ConfigRefreshQuoteState.assetQuoteStates h.quotes
  case quoteState => exact congrArg ConfigRefreshQuoteState.quoteState h.quotes
  case maxLatencyMs => exact hlatency
  case mode => rfl
  case bankroll => rfl
  case stored => rfl
  all_goals
    simp only [applyRuntimeUpdate, stateAfterRuntimeConfigUpdate, TradingTarget.putState,
      applyLocationRisk]
    cases update.risk <;> rfl

/-- An update that refreshes the configuration is applied as a whole exactly if it sets no
runtime field or the refresh brings nothing new. -/
theorem applied_iff (hrefreshes : update.refreshes = true) :
    host.Applied update target (host.applyTradingEngineConfigUpdateForTarget update target) ↔
      update.hasRuntimeConfigUpdate = false ∨ host.NothingNew update target := by
  cases hruntime : update.hasRuntimeConfigUpdate with
  | false => simpa using applied_of_not_runtime hrefreshes hruntime
  | true =>
    rw [applyUpdate_of_runtime hrefreshes hruntime]
    constructor
    · intro h
      exact Or.inr (nothingNew_of_applied h)
    · rintro (hnot | h)
      · cases hnot
      · exact applied_of_nothingNew h

end UpdateHost

/-! ## A new configuration with a change of the mode -/

private def configOf (version : String) (tradingEnabled : Bool) : GlobalRiskConfig where
  TRADING_ENABLED := tradingEnabled
  MAX_POSITION_SIZE := .finite 1000
  MAX_DRAWDOWN_PCT := .finite (1 / 10)
  LATENCY_THRESHOLD_MS := .finite 250
  GOLDEN_COLOS := ""
  CVAR_CONFIDENCE := .finite (19 / 20)
  CVAR_MAX_TAIL_LOSS_BPS := .finite 25
  CVAR_LOOKBACK_TRADES := .finite 250
  updatedAt := "t0"
  updatedBy := "admin"
  version
  others := Rows.empty

private def runningTarget : TradingTarget .nothing where
  cachedConfig := configOf "v1" true
  macroBias := ⟨[], ()⟩
  activeTemporaryOverride := none
  maxLatencyMs := .finite 250
  killSwitchLogged := false
  engineState := defaultEngineState (.iso 0) (configOf "v1" true) ⟨[], ()⟩ () ()
  storedState := none
  alarm := none

/-- The stored configuration stops trading. -/
private def haltingHost : UpdateHost .nothing where
  js := JavaScript.reference .double
  env := ⟨none, none, none⟩
  snapshotProfilers := ()
  calculateAssetMatrix _ _ _ _ := ()
  fetchConfig := configOf "v2" false
  readEffectiveConfig config := ⟨config, ⟨[], ()⟩, none⟩
  updatedAt := 1000
  snapshotAt := 1000
  snapshotVersion := "v3"
  refreshedAt := 1001
  scheduledAt := 1002

private def refreshAndGo : AdminConfigUpdate where
  mode := some .live
  bankroll := none
  risk := none
  config := none
  signal := some .refreshConfig
  maxLatencyMs := none
  MAX_LATENCY := none
  performance := none

theorem refreshAndGo_applied_iff :
    haltingHost.Applied refreshAndGo runningTarget
        (haltingHost.applyTradingEngineConfigUpdateForTarget refreshAndGo runningTarget) ↔
      refreshAndGo.hasRuntimeConfigUpdate = false ∨
        haltingHost.NothingNew refreshAndGo runningTarget :=
  UpdateHost.applied_iff rfl

/-- The engine goes live under the new configuration, which stops trading, with the kill switch
and the configuration of the old one. -/
theorem refresh_undone_by_mode :
    ¬haltingHost.Applied refreshAndGo runningTarget
      (haltingHost.applyTradingEngineConfigUpdateForTarget refreshAndGo runningTarget) := by
  intro h
  have hkill := h.killSwitch
  revert hkill
  decide

end Yevow.Engine
