import Yevow.Models.Engine.Planning.Camouflage
import Yevow.Models.Engine.Planning.Routing

/-!
# Execution plans

An intent that is not suspended and that the pit boss approves is camouflaged and routed. Its
children are the routes, or the camouflage's chunks if there is none, and each of them becomes a
tracked order.
-/

namespace Yevow.Engine

open JavaScript (Runtime Timestamp)

/-- The metadata of the log entry for an order that the books do not fill. -/
structure SorResidual where
  intentId : String
  instrumentCode : String
  approvedSize : ℚ
  unfilledSize : ℚ
  deriving DecidableEq

/-- A plan that may be sent. -/
structure ApprovedExecutionPlan where
  intent : ExecutionIntent
  camouflage : CamouflageResult
  sorPlan : SorPlan
  orders : List ManagedOrder
  residualLogMetadata : Option SorResidual

/-- The child of a route; routes are numbered from one. -/
def routeChild (intent : ExecutionIntent) (count : ℕ) (route : SorRoute × ℕ) :
    ExecutionIntent :=
  { intent with
    intentId := intent.intentId ++ ":sor:" ++ toString (route.2 + 1)
    marketKey := some route.1.marketKey
    source_exchange := some route.1.source_exchange
    intendedPrice := route.1.expectedPrice
    expectedPrice := route.1.expectedPrice
    requestedSize := route.1.size
    approvedSize := some route.1.size
    rationale := intent.rationale ++ "; SOR child " ++ toString (route.2 + 1) ++ "/" ++
      toString count }

/-- The children of a plan, one for each part of a route. -/
def executionChildrenFromRoutePlan (camouflage : CamouflageResult) (sorPlan : SorPlan) :
    List ExecutionIntent :=
  if sorPlan.routes = [] then camouflage.icebergChunks
  else sorPlan.routes.zipIdx.map (routeChild camouflage.intent sorPlan.routes.length)

/-- The order of a child. -/
def managedOrder (parentIntentId observedAt ackDeadlineAt : String) (chunk : ExecutionIntent) :
    ManagedOrder where
  clientId := chunk.intentId
  exchangeOrderId := none
  intentId := some parentIntentId
  instrumentCode := chunk.instrumentCode
  side := chunk.action
  price := .finite chunk.expectedPrice
  size := .finite chunk.size
  filledSize := 0
  status := .pending
  createdAt := observedAt
  updatedAt := observedAt
  ackDeadlineAt

/-- When an order should have been acknowledged. -/
def executionAckDeadline (js : Runtime) (observedAt : Timestamp) (ackTimeoutMs : Number) :
    Except String String := do
  return (← observedAt.plus js ackTimeoutMs).toText

/-- The plan of an approved intent. -/
def buildApprovedExecutionPlan (js : Runtime) (draws : Draws) (decision : PitBossDecision)
    (orderBooks : List InternalOrderBook) (observedAt : Timestamp) (ackTimeoutMs : Number) :
    Except String (Option ApprovedExecutionPlan) :=
  if decision.approved then do
    let camouflage := camouflageIntent draws decision.intent decision.intent.size
    let sorPlan := planSmartOrderRoute camouflage.intent orderBooks
    let children := executionChildrenFromRoutePlan camouflage sorPlan
    let ackDeadlineAt ← executionAckDeadline js observedAt ackTimeoutMs
    return some
      { intent := camouflage.intent
        camouflage := { camouflage with icebergChunks := children }
        sorPlan
        orders := children.map
          (managedOrder camouflage.intent.intentId observedAt.toText ackDeadlineAt)
        residualLogMetadata :=
          if 0 < sorPlan.unfilledSize then
            some ⟨camouflage.intent.intentId, camouflage.intent.instrumentCode,
              camouflage.intent.size, sorPlan.unfilledSize⟩
          else none }
  else return none

variable {D : Payloads}

/-- What a plan is made from. -/
structure PrepareApprovedExecutionPlanInput (D : Payloads) where
  intent : Option ExecutionIntent
  riskState : TradingState D
  config : GlobalRiskConfig
  observedAt : Timestamp
  bypassQuoteSuspension : Bool
  maxPositionPct : Number
  kellyFraction : Number
  orderBooks : List InternalOrderBook
  ackTimeoutMs : Number

/-- No plan while quotes are suspended. -/
def shouldSkipExecutionPlanForQuoteSuspension (js : Runtime) (intent : ExecutionIntent)
    (input : PrepareApprovedExecutionPlanInput D) : Bool :=
  !input.bypassQuoteSuspension &&
    isQuoteSuspendedAt js
      (quoteStateForInstrumentState input.riskState.assetQuoteStates intent.instrumentCode
        input.riskState.quoteState)
      input.observedAt

variable [AllocationFields D.AssetMatrix]

/-- The pit boss's decision on an intent. -/
def PrepareApprovedExecutionPlanInput.decision (input : PrepareApprovedExecutionPlanInput D)
    (intent : ExecutionIntent) : PitBossDecision :=
  approve intent input.riskState input.config input.maxPositionPct input.kellyFraction

/-- `prepareApprovedExecutionPlan` with `PitBossAgent.approve`. -/
def prepareApprovedExecutionPlan (js : Runtime) (draws : Draws)
    (input : PrepareApprovedExecutionPlanInput D) :
    Except String (Option ApprovedExecutionPlan) :=
  match input.intent with
  | none => return none
  | some intent =>
    if shouldSkipExecutionPlanForQuoteSuspension js intent input then return none
    else if (input.decision intent).approved then
      buildApprovedExecutionPlan js draws (input.decision intent) input.orderBooks
        input.observedAt input.ackTimeoutMs
    else return none

end Yevow.Engine
