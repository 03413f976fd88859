import Yevow.Core.JavaScript.Reference
import Yevow.Models.Engine.Maintenance.Janitor

/-!
# Reports during maintenance

Execution reports are applied to the engine's state as it is, while a maintenance operation
ends with the state that it took at its start. Whatever the reports did in between is undone,
in the engine and in its storage.
-/

namespace Yevow.Engine

open JavaScript (Record Timestamp)

/-- A report with the latency that it reports. -/
structure TradingExecutionStep extends ExecutionStep where
  latencyMs : Option Number

variable {D : Payloads} (ar : StatisticsArithmetic)

/-- The engine's state after a report. -/
def TradingState.execute (state : TradingState D) (step : TradingExecutionStep) :
    TradingState D :=
  let order := (state.toEngineState.accounting ar.toEngineArithmetic step.toExecutionStep).order
  { state with
    toEngineState := state.toEngineState.execute ar.toEngineArithmetic step.toExecutionStep
    slippage := appendSlippagePoint ar state.slippage
      (buildSlippagePoint ar step.report step.latencyMs order) }

/-- Reports, one after the other. -/
def TradingState.executeAll (state : TradingState D) (steps : List TradingExecutionStep) :
    TradingState D :=
  steps.foldl (TradingState.execute ar) state

/-- A report meets the stored state. -/
def applyTradingExecutionReportForTarget (target : TradingTarget D)
    (step : TradingExecutionStep) : TradingTarget D :=
  target.putState (target.engineState.execute ar step)

/-- A state holds what the reports made of the start state: the portfolio, the bankroll and the
slippage statistics, and the sizes of the orders that they added or filled. -/
structure ReportsKept (start : TradingState D) (reports : List TradingExecutionStep)
    (state : TradingState D) : Prop where
  openPositions : state.openPositions = (start.executeAll ar reports).openPositions
  bankroll : state.bankroll = (start.executeAll ar reports).bankroll
  slippage : state.slippage = (start.executeAll ar reports).slippage
  orders : ∀ clientId order, (start.executeAll ar reports).orderMap.get? clientId = some order →
    (start.orderMap.get? clientId).map ManagedOrder.filledSize ≠ some order.filledSize →
    ∃ kept, state.orderMap.get? clientId = some kept ∧ kept.filledSize = order.filledSize

/-- The engine and its storage hold what the reports made of the start state. -/
def TradingTarget.KeepsReports (final : TradingTarget D) (start : TradingState D)
    (reports : List TradingExecutionStep) : Prop :=
  ReportsKept ar start reports final.engineState ∧
    ∃ stored, final.storedState = some stored ∧ ReportsKept ar start reports stored

/-! ## What reports leave behind -/

variable {ar} {state : TradingState D}

private theorem executeAll_cons (step : TradingExecutionStep) (steps : List TradingExecutionStep) :
    state.executeAll ar (step :: steps) = (state.execute ar step).executeAll ar steps := rfl

private theorem length_points_execute (ar : StatisticsArithmetic) (state : TradingState D)
    (step : TradingExecutionStep) :
    (state.execute ar step).slippage.points.length = min (state.slippage.points.length + 1) 500 :=
  length_points_appendSlippagePoint ar _ _

private theorem length_points_le_executeAll (ar : StatisticsArithmetic)
    (h : state.slippage.points.length ≤ 500) (steps : List TradingExecutionStep) :
    state.slippage.points.length ≤ (state.executeAll ar steps).slippage.points.length := by
  induction steps generalizing state with
  | nil => exact le_rfl
  | cons step steps ih =>
    have hstep := length_points_execute ar state step
    have hbound : (state.execute ar step).slippage.points.length ≤ 500 := by omega
    have hrest := ih hbound
    rw [executeAll_cons]
    omega

/-- As long as there is room for it, a report leaves its point behind. -/
theorem slippage_executeAll_ne (h : state.slippage.points.length < 500)
    {steps : List TradingExecutionStep} (hsteps : steps ≠ []) :
    (state.executeAll ar steps).slippage ≠ state.slippage := by
  cases steps with
  | nil => exact absurd rfl hsteps
  | cons step steps =>
    intro heq
    have hstep := length_points_execute ar state step
    have hbound : (state.execute ar step).slippage.points.length ≤ 500 := by omega
    have hrest := length_points_le_executeAll ar hbound steps
    rw [executeAll_cons] at heq
    rw [heq] at hrest
    omega

private theorem reportsKept_nil (ar : StatisticsArithmetic) {start : TradingState D}
    (hpositions : state.openPositions = start.openPositions)
    (hbankroll : state.bankroll = start.bankroll)
    (hslippage : state.slippage = start.slippage) : ReportsKept ar start [] state := by
  refine ⟨hpositions, hbankroll, hslippage, ?_⟩
  intro clientId order horder hchanged
  have hsame : start.orderMap.get? clientId = some order := horder
  rw [hsame] at hchanged
  exact absurd rfl hchanged

/-! ## Maintenance operations -/

/-- A maintenance that awaits. -/
inductive MaintenanceOperation
  | janitor (orderAckTimeoutMs : Option String) (observedAt : Timestamp)
  | configRefresh (configSnapshot : Option GlobalRiskConfig) (observedAt : Timestamp)

variable [QuoteFields D.Quote]

/-- What an operation does once it has taken the engine's state. -/
def MaintenanceOperation.program (host : ConfigHost D) (state : TradingState D) :
    MaintenanceOperation → MaintenanceProgram D (TradingTarget D → TradingTarget D)
  | janitor orderAckTimeoutMs observedAt =>
    runTradingEngineJanitorMaintenance host.js orderAckTimeoutMs state observedAt
  | configRefresh configSnapshot observedAt =>
    refreshTradingConfig host configSnapshot state observedAt

/-- The operation ran to its end while these reports were applied. -/
def MaintenanceOperation.Completes (ar : StatisticsArithmetic) (host : ConfigHost D)
    (operation : MaintenanceOperation) (start : TradingTarget D)
    (reports : List TradingExecutionStep) (final : TradingTarget D) : Prop :=
  ∃ write during, Program.Interleaved (applyTradingExecutionReportForTarget ar)
    (operation.program host start.engineState) start reports (.ok write) during ∧
      final = write during

/-- The write leaves the portfolio and the statistics of the state that the operation took. -/
def Reinstates (state : TradingState D) (write : TradingTarget D → TradingTarget D) : Prop :=
  ∀ target, (write target).storedState = some (write target).engineState ∧
    (write target).engineState.openPositions = state.openPositions ∧
    (write target).engineState.bankroll = state.bankroll ∧
    (write target).engineState.slippage = state.slippage

variable {host : ConfigHost D} {operation : MaintenanceOperation}
  {start final : TradingTarget D} {reports : List TradingExecutionStep}

private theorem ensures_reinstates : (operation.program host state).Ensures (Reinstates state) := by
  cases operation with
  | janitor orderAckTimeoutMs observedAt =>
    refine Program.ensures_bind fun orders => Program.ensures_bind fun _ =>
      Program.ensures_bind fun rows => ?_
    intro target
    exact ⟨rfl, rfl, rfl, rfl⟩
  | configRefresh configSnapshot observedAt =>
    cases configSnapshot
    all_goals
      refine Program.ensures_bind fun config => Program.ensures_bind fun effective => ?_
      intro target
      exact ⟨rfl, rfl, rfl, rfl⟩

/-- The end state has the portfolio and the statistics of the start state, whatever the reports
did in between. -/
theorem MaintenanceOperation.Completes.reinstates
    (h : operation.Completes ar host start reports final) :
    final.storedState = some final.engineState ∧
      final.engineState.openPositions = start.engineState.openPositions ∧
      final.engineState.bankroll = start.engineState.bankroll ∧
      final.engineState.slippage = start.engineState.slippage := by
  obtain ⟨write, during, hrun, rfl⟩ := h
  exact hrun.ensures ensures_reinstates during

/-- An operation keeps what the reports booked if no report was applied before its end; with
fewer than five hundred slippage points at its start, only then. -/
theorem maintenance_keeps_reports (h : operation.Completes ar host start reports final) :
    (reports = [] → final.KeepsReports ar start.engineState reports) ∧
      (start.engineState.slippage.points.length < 500 →
        final.KeepsReports ar start.engineState reports → reports = []) := by
  obtain ⟨hstored, hpositions, hbankroll, hslippage⟩ := h.reinstates
  constructor
  · rintro rfl
    have hkept := reportsKept_nil ar hpositions hbankroll hslippage
    exact ⟨hkept, final.engineState, hstored, hkept⟩
  · intro hroom hkeeps
    by_contra hreports
    exact slippage_executeAll_ne hroom hreports (hkeeps.1.slippage.symm.trans hslippage)

/-! ## A fill while the janitor waits -/

private def waitingConfig : GlobalRiskConfig where
  TRADING_ENABLED := true
  MAX_POSITION_SIZE := .finite 1000
  MAX_DRAWDOWN_PCT := .finite (1 / 10)
  LATENCY_THRESHOLD_MS := .finite 250
  GOLDEN_COLOS := ""
  CVAR_CONFIDENCE := .finite (19 / 20)
  CVAR_MAX_TAIL_LOSS_BPS := .finite 25
  CVAR_LOOKBACK_TRADES := .finite 250
  updatedAt := "t0"
  updatedBy := "admin"
  version := "v1"
  others := Rows.empty

private def waitingTarget : TradingTarget .nothing where
  cachedConfig := waitingConfig
  macroBias := ⟨[], ()⟩
  activeTemporaryOverride := none
  maxLatencyMs := .finite 250
  killSwitchLogged := false
  engineState := defaultEngineState (.iso 0) waitingConfig ⟨[], ()⟩ () ()
  storedState := none
  alarm := none

private def waitingHost : ConfigHost .nothing where
  js := JavaScript.reference .double
  env := ⟨none, none, none⟩
  snapshotProfilers := ()
  calculateAssetMatrix _ _ _ _ := ()

private def statistics : StatisticsArithmetic := ⟨.binary64, id⟩

private def newFill : TradingExecutionStep where
  report :=
    { clientId := "c"
      exchangeOrderId := none
      instrumentCode := some "btc"
      side := some .buy
      orderSize := some (.finite 1)
      status := .filled
      filledSize := some (.finite 1)
      fillIncrementSize := none
      achievedPrice := some (.finite 100)
      expectedPrice := some (.finite 100)
      fees := none
      observedAt := "t1" }
  observedAt := none
  markPrice _ fallback := fallback
  inventory := ⟨1⟩
  latencyMs := none

/-- The fill is applied before the exchange answers with no open orders. -/
private theorem fill_during_janitor : ∃ final,
    (MaintenanceOperation.janitor none (.iso 1000)).Completes statistics waitingHost waitingTarget
      [newFill] final :=
  ⟨_, _, _, .act (.answer (.ok (.listed [])) (.answer (.ok 0) (.done _ _))), rfl⟩

theorem fill_during_janitor_kept_iff :
    ∃ final, (MaintenanceOperation.janitor none (.iso 1000)).Completes statistics waitingHost
        waitingTarget [newFill] final ∧
      ([newFill] = [] → final.KeepsReports statistics waitingTarget.engineState [newFill]) ∧
      (waitingTarget.engineState.slippage.points.length < 500 →
        final.KeepsReports statistics waitingTarget.engineState [newFill] → [newFill] = []) := by
  obtain ⟨final, hrun⟩ := fill_during_janitor
  exact ⟨final, hrun, maintenance_keeps_reports hrun⟩

/-- The janitor run ends without the position that the fill opened. -/
theorem fill_during_janitor_lost :
    ∃ final, (MaintenanceOperation.janitor none (.iso 1000)).Completes statistics waitingHost
        waitingTarget [newFill] final ∧
      ¬final.KeepsReports statistics waitingTarget.engineState [newFill] := by
  obtain ⟨final, hrun⟩ := fill_during_janitor
  refine ⟨final, hrun, ?_⟩
  intro hkeeps
  have hpositions := hrun.reinstates.2.1.symm.trans hkeeps.1.openPositions
  have hlookup := congrArg (fun positions => (Rows.get? positions "btc").isSome) hpositions
  revert hlookup
  decide +kernel

end Yevow.Engine
