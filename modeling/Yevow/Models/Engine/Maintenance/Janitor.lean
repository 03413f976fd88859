import Yevow.Core.Effect.Suspension
import Yevow.Models.Engine.Config.Refresh
import Yevow.Models.Engine.Maintenance.Reconciliation
import Yevow.Models.Engine.Quotes.Suppression

/-!
# Maintenance operations

A janitor run and a configuration refresh take the engine's state when they start, wait for
calls that leave the engine, and end with a write of a state that they build from the one
they took.
-/

namespace Yevow.Engine

open JavaScript (Record Runtime Timestamp)

/-- The calls that suspend a maintenance operation. -/
inductive MaintenanceOp
  | fetchOpenOrders
  | cancelOrder (request : JanitorCancellationRequest)
  | pruneOperationalLogs
  | fetchConfig
  | readEffectiveConfig (config : GlobalRiskConfig)

/-- What they answer; pruning reports the number of rows. -/
@[reducible] def MaintenanceRet (D : Payloads) : MaintenanceOp → Type
  | .fetchOpenOrders => OpenOrdersAnswer
  | .cancelOrder _ => Unit
  | .pruneOperationalLogs => ℕ
  | .fetchConfig => GlobalRiskConfig
  | .readEffectiveConfig _ => EffectiveGovernanceConfig D

/-- A maintenance operation; it returns what it does to the target at its end, at once. -/
abbrev MaintenanceProgram (D : Payloads) (α : Type) : Type :=
  Program MaintenanceOp (MaintenanceRet D) String α

variable {D : Payloads}

/-- `await` of a call that leaves the engine. -/
def awaiting (op : MaintenanceOp) : MaintenanceProgram D (MaintenanceRet D op) :=
  Program.perform op

/-! ## The janitor -/

/-- What the janitor reads. -/
structure JanitorInput where
  orderMap : Record ManagedOrder
  positions : Record Position
  observedAt : Timestamp
  ackTimeoutMs : ℤ
  dustThreshold : ℚ

/-- `nowMs - Date.parse(createdAt) > ackTimeoutMs`, false where one of the times is NaN. -/
def isOverdue (js : Runtime) (observedAt : Timestamp) (ackTimeoutMs : ℤ) (createdAt : String) :
    Bool :=
  match observedAt.parse js, js.dateParse createdAt with
  | some nowMs, some createdMs => ackTimeoutMs < nowMs - createdMs
  | _, _ => false

/-- `JanitorAgent.run`. -/
def runBaseReport (js : Runtime) (input : JanitorInput) : JanitorState :=
  { defaultJanitorState with
    lastRunAt := some input.observedAt.toText
    zombieOrders := (input.orderMap.values.filter fun order =>
      order.status = .pending ∧
        isOverdue js input.observedAt input.ackTimeoutMs order.createdAt).map
      ManagedOrder.clientId
    dustPositions := (input.positions.values.filter fun position =>
      0 < |position.quantity| ∧ |position.quantity| < input.dustThreshold).map
      Position.instrumentCode
    updatedAt := some input.observedAt.toText }

/-- No dust position is closed: taker execution is disabled. -/
def recordPostOnlyDustCloseSkips (_instrumentCodes : List String) : List String := []

/-- What the janitor found. -/
def buildJanitorReport (baseReport : JanitorState) (reconciliation : JanitorOrderReconciliation)
    (dustCloseIntents : List String) (prunedRows : ℕ) : JanitorState :=
  { baseReport with
    orphanExchangeOrders := reconciliation.orphanExchangeOrders
    reconciledOrders := reconciliation.reconciledOrders
    cancelledOrders := reconciliation.cancelledOrders.eraseDups
    dustCloseIntents
    prunedTelemetryCount := prunedRows }

/-- The state after a janitor run. -/
def stateAfterJanitorRun (state : TradingState D) (orderMap : Record ManagedOrder)
    (report : JanitorState) (observedAt : String) : TradingState D :=
  { state with
    orderMap
    janitor := report
    updatedAt := observedAt
    heartbeatAt := observedAt }

/-- A fetch that throws is answered by no orders. -/
def fetchExchangeOpenOrders : MaintenanceProgram D (List ExchangeOpenOrder) :=
  (do
    let answer ← awaiting .fetchOpenOrders
    return fetchJanitorExchangeOpenOrders answer).tryCatch fun _ => return []

/-- The cancels, one after the other. -/
def dispatchJanitorCancellationRequests :
    List JanitorCancellationRequest → MaintenanceProgram D Unit
  | [] => return ()
  | request :: requests => do
    awaiting (.cancelOrder request)
    dispatchJanitorCancellationRequests requests

/-- A janitor run on the state it took; `applyState` writes it to the target and the storage. -/
def runTradingEngineJanitorMaintenance (js : Runtime) (orderAckTimeoutMs : Option String)
    (state : TradingState D) (observedAt : Timestamp) :
    MaintenanceProgram D (TradingTarget D → TradingTarget D) := do
  let baseReport := runBaseReport js
    { orderMap := state.orderMap
      positions := state.openPositions
      observedAt
      ackTimeoutMs := readPositiveInteger js orderAckTimeoutMs 2000 100 60000
      dustThreshold := js.arithmetic.fraction (1 / 10 ^ 6) }
  let exchangeOpenOrders ← fetchExchangeOpenOrders
  let reconciliation := reconcileJanitorOrders
    { orderMap := state.orderMap
      exchangeOpenOrders
      zombieOrders := baseReport.zombieOrders
      observedAt := observedAt.toText }
  dispatchJanitorCancellationRequests reconciliation.cancellationRequests
  let dustCloseIntents := recordPostOnlyDustCloseSkips baseReport.dustPositions
  let prunedRows ← awaiting .pruneOperationalLogs
  let report := buildJanitorReport baseReport reconciliation dustCloseIntents prunedRows
  return fun target => target.putState
    (stateAfterJanitorRun state reconciliation.orderMap report observedAt.toText)

/-! ## Refreshing the configuration -/

variable [QuoteFields D.Quote]

/-- A refresh on the state it took, with a given configuration or the stored one. -/
def refreshTradingConfig (host : ConfigHost D) (configSnapshot : Option GlobalRiskConfig)
    (state : TradingState D) (observedAt : Timestamp) :
    MaintenanceProgram D (TradingTarget D → TradingTarget D) := do
  let config ← match configSnapshot with
    | some config => pure config
    | none => awaiting .fetchConfig
  let effective ← awaiting (.readEffectiveConfig config)
  return fun target => host.applyConfigRefresh target state effective observedAt

end Yevow.Engine
