import Yevow.Core.JavaScript.Reference
import Yevow.Models.Engine.Recovery.Runtime

/-!
# What survives a reset and a recovery

An order-book reset persists the state from before the reset of the latency baseline, and a
recovery builds its state and persists its lists from what it captured before its own steps.
Both agree with the engine in memory, and keep what the steps did, only where these steps
changed nothing.
-/

namespace Yevow.Engine.Recovery

open JavaScript (Runtime Timestamp)

variable {D : Kept} {ar : EngineArithmetic} {js : Runtime}

/-! ## Order-book resets -/

/-- A reset of the latency baseline would change nothing but the time of the last update. -/
def EngineState.AtLatencyBaseline (state : EngineState D) (observedAt : Timestamp) : Prop :=
  state.averageLatency = 0 ∧ state.latencySampleCount = 0 ∧
    state.executionProfile = state.executionProfile.atBaseline observedAt

private theorem stateAfterLatencyBaselineReset_eq_iff {state : EngineState D}
    {observedAt : Timestamp} (hupdated : state.updatedAt = observedAt) :
    stateAfterLatencyBaselineReset state observedAt = state ↔
      state.AtLatencyBaseline observedAt := by
  constructor
  · intro h
    exact ⟨(congrArg EngineState.averageLatency h).symm,
      (congrArg EngineState.latencySampleCount h).symm,
      (congrArg EngineState.executionProfile h).symm⟩
  · rintro ⟨haverage, hcount, hprofile⟩
    subst hupdated
    unfold stateAfterLatencyBaselineReset
    rw [← hprofile, ← haverage, ← hcount]

/-- The persisted state is the one in memory. -/
def RecoveryTarget.PersistsState (target : RecoveryTarget D) : Prop :=
  target.storage.engineState = some target.engineState

private theorem persistsState_reset_iff {payload : OrderBookResetRequest} {now : Timestamp}
    {target : RecoveryTarget D} :
    (resetTradingOrderBookForTarget ar payload now target).PersistsState ↔
      payload.source ≠ some .ingestWorker ∨ target.engineState.AtLatencyBaseline now := by
  have hsource : (resolveOrderBookReset payload now).source = .ingestWorker ↔
      payload.source = some .ingestWorker := by
    show payload.source.getD .system = .ingestWorker ↔ _
    cases payload.source with
    | none => simp
    | some source => simp
  by_cases hingest : payload.source = some .ingestWorker
  · have hmemory : (resetTradingOrderBookForTarget ar payload now target).engineState =
        stateAfterLatencyBaselineReset
          (orderBookResetState ar (resolveOrderBookReset payload now) target) now := by
      simp only [resetTradingOrderBookForTarget, applyIngestReset, if_pos (hsource.mpr hingest)]
      rfl
    rw [RecoveryTarget.PersistsState, hmemory]
    show some (orderBookResetState ar (resolveOrderBookReset payload now) target) = _ ↔ _
    have hbaseline : stateAfterLatencyBaselineReset
          (orderBookResetState ar (resolveOrderBookReset payload now) target) now =
            orderBookResetState ar (resolveOrderBookReset payload now) target ↔
        target.engineState.AtLatencyBaseline now := stateAfterLatencyBaselineReset_eq_iff rfl
    rw [Option.some_inj, eq_comm, hbaseline]
    simp only [hingest, ne_eq, not_true_eq_false, false_or]
  · have hmemory : (resetTradingOrderBookForTarget ar payload now target).engineState =
        orderBookResetState ar (resolveOrderBookReset payload now) target := by
      simp only [resetTradingOrderBookForTarget, applyIngestReset,
        if_neg fun h => hingest (hsource.mp h)]
    rw [RecoveryTarget.PersistsState, hmemory]
    exact ⟨fun _ => Or.inl hingest, fun _ => rfl⟩

/-! ## The resets of a recovery -/

private theorem toLower_ne_empty {text : String} (h : text ≠ "") : text.toLower ≠ "" := by
  intro hempty
  apply h
  have hlist : text.toList.map Char.toLower = [] := by
    rw [← String.toList_map]
    exact congrArg String.toList hempty
  exact String.toList_inj.mp (List.map_eq_nil_iff.mp hlist)

private theorem normalizeSourceExchange_ne_empty (value : String) :
    normalizeSourceExchange value ≠ "" := by
  unfold normalizeSourceExchange
  dsimp only
  split_ifs with hname
  · decide
  · exact hname

private theorem sourceExchange_ne_empty (payload : AdminRecoveryRuntimePayload)
    (observedAt : Timestamp) : (adminRecoveryPlan payload observedAt).sourceExchange ≠ "" := by
  show ((nonempty payload.source_exchange).map normalizeSourceExchange).getD "hyperliquid" ≠ _
  cases nonempty payload.source_exchange with
  | none => decide
  | some value => exact normalizeSourceExchange_ne_empty value

private theorem append_usd_ne_empty (value : String) : value ++ "-usd" ≠ "" := by
  intro hempty
  have hlength := congrArg String.length hempty
  rw [String.length_append] at hlength
  have husd : "-usd".length = 4 := rfl
  have hnone : "".length = 0 := rfl
  omega

private theorem resetInstruments_ne_empty {payload : AdminRecoveryRuntimePayload}
    {instrumentCode : String} (h : instrumentCode ∈ maintenanceRecoveryInstruments payload) :
    instrumentCode ≠ "" := by
  rw [maintenanceRecoveryInstruments, List.mem_eraseDups] at h
  obtain ⟨value, hvalue, rfl⟩ := List.mem_map.mp h
  split_ifs with hdash
  · rintro rfl
    cases hdash
  · exact append_usd_ne_empty value

/-- The reset of an instrument, as it is resolved. -/
private theorem resolveOrderBookReset_admin {instrumentCode sourceExchange : String}
    (hcode : instrumentCode ≠ "") (hexchange : sourceExchange ≠ "") (now : Timestamp) :
    resolveOrderBookReset (adminResetRequest instrumentCode sourceExchange) now =
      { now
        source := .admin
        resetInstrument := some instrumentCode.toLower
        resetSourceExchange := some (normalizeSourceExchange sourceExchange)
        resetStreamId := none
        resetMarketKey :=
          some (buildMarketKey (normalizeSourceExchange sourceExchange) instrumentCode.toLower)
        connectionId := none } := by
  have hlower := toLower_ne_empty hcode
  simp [resolveOrderBookReset, adminResetRequest, nonempty, Option.filter, hlower, hexchange]

private theorem reset_admin {instrumentCode sourceExchange : String} (hcode : instrumentCode ≠ "")
    (hexchange : sourceExchange ≠ "") (now : Timestamp) (target : RecoveryTarget D) :
    let request := adminResetRequest instrumentCode sourceExchange
    (resetTradingOrderBookForTarget ar request now target).stores =
        applyOrderBookResetStores target.stores
          (some (buildMarketKey (normalizeSourceExchange sourceExchange) instrumentCode.toLower)) ∧
      (resetTradingOrderBookForTarget ar request now target).engineState =
        orderBookResetState ar (resolveOrderBookReset request now) target := by
  simp only [resetTradingOrderBookForTarget, resolveOrderBookReset_admin hcode hexchange,
    applyIngestReset, reduceCtorEq, if_false, and_self]

/-- The stores as the last of a recovery's resets finds them. -/
def storesBeforeLastReset (sourceExchange : String) (resetInstruments : List String)
    (stores : OrderBookResetStores) : OrderBookResetStores :=
  resetInstruments.dropLast.foldl (fun stores instrumentCode =>
    applyOrderBookResetStores stores
      (some (buildMarketKey (normalizeSourceExchange sourceExchange) instrumentCode.toLower)))
    stores

section Resets

variable {sourceExchange : String} {clock : ℕ → Timestamp} {target : RecoveryTarget D}

private theorem dispatch_append (resetInstruments : List String) (last : String) :
    dispatchAdminRecoveryOrderBookResets ar sourceExchange clock (resetInstruments ++ [last])
        target =
      resetTradingOrderBookForTarget ar (adminResetRequest last sourceExchange)
        (clock resetInstruments.length)
        (dispatchAdminRecoveryOrderBookResets ar sourceExchange clock resetInstruments target) := by
  simp only [dispatchAdminRecoveryOrderBookResets, List.zipIdx_append, List.foldl_append,
    List.zipIdx_cons, List.zipIdx_nil, List.foldl_cons, List.foldl_nil, Nat.zero_add]

private theorem dispatch_lists (resetInstruments : List String) :
    (dispatchAdminRecoveryOrderBookResets ar sourceExchange clock resetInstruments
        target).latencyHistory = target.latencyHistory ∧
      (dispatchAdminRecoveryOrderBookResets ar sourceExchange clock resetInstruments
        target).processingLatencySamples = target.processingLatencySamples := by
  induction resetInstruments using List.reverseRecOn with
  | nil => exact ⟨rfl, rfl⟩
  | append_singleton resetInstruments last ih =>
    rw [dispatch_append]
    exact ih

private theorem dispatch_stores (hexchange : sourceExchange ≠ "") {resetInstruments : List String}
    (hcodes : ∀ code ∈ resetInstruments, code ≠ "") :
    (dispatchAdminRecoveryOrderBookResets ar sourceExchange clock resetInstruments target).stores =
      resetInstruments.foldl (fun stores instrumentCode =>
        applyOrderBookResetStores stores
          (some (buildMarketKey (normalizeSourceExchange sourceExchange) instrumentCode.toLower)))
        target.stores := by
  induction resetInstruments using List.reverseRecOn with
  | nil => rfl
  | append_singleton resetInstruments last ih =>
    have hlast : last ≠ "" := hcodes last (by simp)
    have hstores := ih fun code hcode => hcodes code (List.mem_append_left _ hcode)
    rw [dispatch_append, List.foldl_append, ← hstores]
    exact (reset_admin hlast hexchange _ _).1

/-- The depth and the price of the last reset are those of the stores it found. -/
private theorem dispatch_last (hexchange : sourceExchange ≠ "") {resetInstruments : List String}
    {last : String} (hcodes : ∀ code ∈ resetInstruments ++ [last], code ≠ "") :
    let reset := dispatchAdminRecoveryOrderBookResets ar sourceExchange clock
      (resetInstruments ++ [last]) target
    let stores := storesBeforeLastReset sourceExchange (resetInstruments ++ [last]) target.stores
    reset.engineState.internalOrderBookDepth = countBookLevels stores.bids stores.asks ∧
      reset.engineState.priceDiscovery =
        calculateOrderBookPriceDiscovery ar stores.orderBook (some last.toLower)
          (clock resetInstruments.length) := by
  have hlast : last ≠ "" := hcodes last (by simp)
  have hstores := @dispatch_stores D ar sourceExchange clock target hexchange resetInstruments
    fun code hcode => hcodes code (List.mem_append_left [last] hcode)
  have hlower := toLower_ne_empty hlast
  dsimp only
  rw [dispatch_append, storesBeforeLastReset, List.dropLast_concat, ← hstores,
    (reset_admin hlast hexchange _ _).2, resolveOrderBookReset_admin hlast hexchange]
  constructor
  · rfl
  · simp [orderBookResetState, stateAfterOrderBookReset, nonempty, Option.filter, hlower]

end Resets

/-! ## Recoveries -/

section Recovery

variable {payload : AdminRecoveryRuntimePayload} {observedAt : Timestamp} {clock : ℕ → Timestamp}
  {captured : RecoveryTarget D}

/-- What is stored is what is in memory. -/
structure RecoveryTarget.Persists (target : RecoveryTarget D) : Prop where
  engineState : target.PersistsState
  latencyHistory : target.storage.latencyHistory = some target.latencyHistory
  processingLatencySamples :
    target.storage.processingLatencySamples = some target.processingLatencySamples

/-- The latency baseline, in the state and in the lists beside it. -/
structure RecoveryTarget.ClearsLatency (target : RecoveryTarget D) : Prop where
  averageLatency : target.engineState.averageLatency = 0
  latencySampleCount : target.engineState.latencySampleCount = 0
  profileSampleCount : target.engineState.executionProfile.sampleCount = 0
  latencyHistory : target.latencyHistory = []
  processingLatencySamples : target.processingLatencySamples = []

/-- The recovered engine still has what the steps of the recovery did. -/
structure KeepsSteps (ar : EngineArithmetic) (plan : AdminRecoveryPlan) (clock : ℕ → Timestamp)
    (captured recovered : RecoveryTarget D) : Prop where
  reset : plan.resetInstruments ≠ [] →
    let target := dispatchAdminRecoveryOrderBookResets ar plan.sourceExchange clock
      plan.resetInstruments captured
    recovered.engineState.internalOrderBookDepth = target.engineState.internalOrderBookDepth ∧
      recovered.engineState.priceDiscovery = target.engineState.priceDiscovery
  latency : plan.shouldClearLatency → recovered.ClearsLatency

/-- The last reset finds the depth and the price that the engine had before the recovery. -/
def ResetsChangeNothing (ar : EngineArithmetic) (plan : AdminRecoveryPlan) (clock : ℕ → Timestamp)
    (captured : RecoveryTarget D) : Prop :=
  ∀ last ∈ plan.resetInstruments.getLast?,
    let stores := storesBeforeLastReset plan.sourceExchange plan.resetInstruments captured.stores
    captured.engineState.internalOrderBookDepth = countBookLevels stores.bids stores.asks ∧
      captured.engineState.priceDiscovery =
        calculateOrderBookPriceDiscovery ar stores.orderBook (some last.toLower)
          (clock (plan.resetInstruments.length - 1))

private theorem keepsResets_iff :
    ((adminRecoveryPlan payload observedAt).resetInstruments ≠ [] →
      let target := dispatchAdminRecoveryOrderBookResets ar
        (adminRecoveryPlan payload observedAt).sourceExchange clock
        (adminRecoveryPlan payload observedAt).resetInstruments captured
      captured.engineState.internalOrderBookDepth = target.engineState.internalOrderBookDepth ∧
        captured.engineState.priceDiscovery = target.engineState.priceDiscovery) ↔
      ResetsChangeNothing ar (adminRecoveryPlan payload observedAt) clock captured := by
  have hexchange := sourceExchange_ne_empty payload observedAt
  have hcodes : ∀ code ∈ (adminRecoveryPlan payload observedAt).resetInstruments, code ≠ "" :=
    fun code hcode => resetInstruments_ne_empty hcode
  unfold ResetsChangeNothing
  generalize (adminRecoveryPlan payload observedAt).resetInstruments = instruments at hcodes ⊢
  cases instruments using List.reverseRecOn with
  | nil => simp
  | append_singleton instruments last =>
    obtain ⟨hdepth, hprice⟩ :=
      @dispatch_last D ar _ clock captured hexchange instruments last hcodes
    dsimp only
    rw [hdepth, hprice]
    simp

variable [QuoteFields D.Quote] [GhostBookOperations D]

private theorem recover_lists :
    let recovered := recoverTradingEngineStateForTarget ar js payload observedAt clock captured
    let clears := (adminRecoveryPlan payload observedAt).shouldClearLatency
    recovered.latencyHistory = (if clears then [] else captured.latencyHistory) ∧
      recovered.processingLatencySamples =
        if clears then [] else captured.processingLatencySamples := by
  obtain ⟨hhistory, hsamples⟩ := @dispatch_lists D ar
    (adminRecoveryPlan payload observedAt).sourceExchange clock captured
    (adminRecoveryPlan payload observedAt).resetInstruments
  dsimp only [recoverTradingEngineStateForTarget, applyAdminRecoveryPlanSideEffects]
  split_ifs <;> simp only [resetTradingLatencyBaselineForTarget, hhistory, hsamples, and_self]

private theorem recover_clears_iff :
    let recovered := recoverTradingEngineStateForTarget ar js payload observedAt clock captured
    (recovered.storage.latencyHistory = some recovered.latencyHistory ∧
        recovered.storage.processingLatencySamples = some recovered.processingLatencySamples ∧
        ((adminRecoveryPlan payload observedAt).shouldClearLatency → recovered.ClearsLatency)) ↔
      (payload.clearLatency = some false ∨ captured.ClearsLatency) := by
  obtain ⟨hhistory, hsamples⟩ := @recover_lists D ar js payload observedAt clock captured _ _
  have hclears : (adminRecoveryPlan payload observedAt).shouldClearLatency = true ↔
      payload.clearLatency ≠ some false := decide_eq_true_iff
  dsimp only
  by_cases hkeep : payload.clearLatency = some false
  · have hoff : ¬(adminRecoveryPlan payload observedAt).shouldClearLatency = true :=
      fun h => hclears.mp h hkeep
    rw [if_neg hoff] at hhistory hsamples
    rw [hhistory, hsamples]
    exact ⟨fun _ => Or.inl hkeep, fun _ => ⟨rfl, rfl, fun h => absurd h hoff⟩⟩
  · have hon : (adminRecoveryPlan payload observedAt).shouldClearLatency = true :=
      hclears.mpr hkeep
    rw [if_pos hon] at hhistory hsamples
    rw [hhistory, hsamples]
    constructor
    · rintro ⟨hlatency, hprocessing, hcleared⟩
      obtain ⟨haverage, hcount, hprofile, -, -⟩ := hcleared hon
      exact Or.inr
        ⟨haverage, hcount, hprofile, Option.some_inj.mp hlatency, Option.some_inj.mp hprocessing⟩
    · rintro (hfalse | ⟨haverage, hcount, hprofile, hlatency, hprocessing⟩)
      · exact absurd hfalse hkeep
      · exact ⟨congrArg some hlatency, congrArg some hprocessing, fun _ =>
          ⟨haverage, hcount, hprofile, hhistory, hsamples⟩⟩

/-- An order-book reset persists the state in memory only if it is not an ingest worker's, or
finds the latency baseline already reset. A recovery persists what is in memory and keeps what
its steps did only if its last book reset finds the depth and the price as they were, and the
latency is to be kept or was already cleared. -/
theorem reset_and_recovery_survive_iff (ar : EngineArithmetic) (js : Runtime)
    (request : OrderBookResetRequest) (payload : AdminRecoveryRuntimePayload)
    (observedAt : Timestamp) (clock : ℕ → Timestamp) (target : RecoveryTarget D) :
    ((resetTradingOrderBookForTarget ar request observedAt target).PersistsState ↔
      request.source ≠ some .ingestWorker ∨ target.engineState.AtLatencyBaseline observedAt) ∧
    let plan := adminRecoveryPlan payload observedAt
    let recovered := recoverTradingEngineStateForTarget ar js payload observedAt clock target
    (recovered.Persists ∧ KeepsSteps ar plan clock target recovered ↔
      ResetsChangeNothing ar plan clock target ∧
        (payload.clearLatency = some false ∨ target.ClearsLatency)) := by
  have hclears := @recover_clears_iff D ar js payload observedAt clock target _ _
  refine ⟨persistsState_reset_iff, ?_⟩
  dsimp only at hclears ⊢
  rw [← keepsResets_iff, ← hclears]
  constructor
  · rintro ⟨⟨-, hhistory, hsamples⟩, hreset, hlatency⟩
    exact ⟨hreset, hhistory, hsamples, hlatency⟩
  · rintro ⟨hreset, hhistory, hsamples, hlatency⟩
    exact ⟨⟨rfl, hhistory, hsamples⟩, hreset, hlatency⟩

end Recovery

/-! ## A measured engine -/

/-- An engine that took one latency sample of 12 ms and counts 40 levels, over empty stores. -/
def measuredTarget : RecoveryTarget Kept.nothing where
  engineState :=
    { bankroll := ⟨"USD", 5000, 5000, 0, "2026-05-01T00:00:00.000Z"⟩
      openPositions := Rows.empty
      risk := defaultRiskLimits "2026-05-01T00:00:00.000Z"
      internalOrderBookDepth := 40
      averageLatency := 12
      latencySampleCount := 1
      staleTickCount := 0
      current_inventory_delta := 0
      microstructure := defaultMicrostructure
      priceDiscovery := defaultPriceDiscovery
      inventory := defaultInventoryState (.finite 1) (.finite 1)
      riskMetrics := defaultRiskMetrics 5000 (.text "2026-05-01T00:00:00.000Z")
      quoteState := defaultQuoteState
      assetQuoteStates := Rows.empty
      shadowQueue := ()
      executionProfile := ⟨.stable, 0, 1, some 12, some 12, some 12, none, ()⟩
      citadel := defaultCitadelState (.text "2026-05-01T00:00:00.000Z")
      dom := none
      heartbeatAt := .text "2026-05-01T00:00:00.000Z"
      updatedAt := .text "2026-05-01T00:00:00.000Z"
      rest := () }
  cachedConfig := ⟨true, .finite (1 / 10), .finite 1, .finite 1⟩
  macroBias := ⟨[], ()⟩
  shadowModeSetting := none
  paperBankrollUsd := none
  latencyHistory := [()]
  processingLatencySamples := [12]
  ghostBook := ()
  stores := ⟨Rows.empty, Rows.empty, Rows.empty, Rows.empty⟩
  activeIngestConnections := Rows.empty
  storage := ⟨none, none, none, Rows.empty⟩

/-- A recovery that asks to reset the book of one instrument and leaves the rest as it is by
default. -/
def resetBitcoinBook : AdminRecoveryRuntimePayload :=
  ⟨some (.list ["btc-usd"]), none, none, none, none, none, none, none⟩

/-- The reset of an ingest worker persists the latency that it clears in memory, and the
recovery brings back the depth and the latency that its steps had replaced. -/
theorem measured_engine_not_kept :
    let now : Timestamp := .text "2026-05-01T00:01:00.000Z"
    let js := JavaScript.reference Arithmetic.double
    let recovered := recoverTradingEngineStateForTarget EngineArithmetic.binary64 js
      resetBitcoinBook now (fun _ => now) measuredTarget
    ¬(resetTradingOrderBookForTarget EngineArithmetic.binary64
        ⟨some .ingestWorker, none, none, none, none⟩ now measuredTarget).PersistsState ∧
      ¬recovered.Persists ∧
      ¬KeepsSteps EngineArithmetic.binary64 (adminRecoveryPlan resetBitcoinBook now)
        (fun _ => now) measuredTarget recovered := by
  refine ⟨fun h => ?_, fun h => ?_, fun h => ?_⟩
  · have haverage : (some 12 : Option ℚ) = some 0 :=
      congrArg (Option.map EngineState.averageLatency) h
    exact absurd haverage (by decide)
  · have hlist : some [()] = some [] := h.latencyHistory
    exact absurd hlist (by decide)
  · obtain ⟨hdepth, -⟩ := h.reset (by decide +kernel)
    exact absurd hdepth (by decide +kernel)

end Yevow.Engine.Recovery
