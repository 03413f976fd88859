import Yevow.Core.Control.Except
import Yevow.Core.JavaScript.Reference
import Yevow.Models.Engine.Planning.Plan

/-!
# What a plan adds up to

The children of a plan make up the camouflaged size but for what the books do not fill, and at
the intent's price they keep to the budget. Routes take the prices of the books, whichever they
are, so that at their own prices children may be worse than expected and cost more.
-/

namespace Yevow.Engine

open JavaScript (Runtime)

variable {D : Payloads} [AllocationFields D.AssetMatrix]

/-- The limit of the configuration, if it is positive, and the capped part of the bankroll. -/
def planBudget (input : PrepareApprovedExecutionPlanInput D) (intent : ExecutionIntent) : ℚ :=
  maxNotional input.config.MAX_POSITION_SIZE
    (bankrollSize input.riskState * (input.decision intent).cappedFraction)

namespace ApprovedExecutionPlan

/-- The intents that the plan dispatches. -/
def children (plan : ApprovedExecutionPlan) : List ExecutionIntent := plan.camouflage.icebergChunks

/-- The size that the plan dispatches. -/
def totalSize (plan : ApprovedExecutionPlan) : ℚ := (plan.children.map ExecutionIntent.size).sum

/-- What the children cost at their own expected prices. -/
def totalNotional (plan : ApprovedExecutionPlan) : ℚ :=
  (plan.children.map fun child => child.size * child.expectedPrice).sum

/-- What a plan for an intent adds up to. -/
structure Sound (plan : ApprovedExecutionPlan) (input : PrepareApprovedExecutionPlanInput D)
    (intent : ExecutionIntent) : Prop where
  distinct : (plan.children.map ExecutionIntent.intentId).Nodup
  positive : ∀ child ∈ plan.children, 0 < child.size
  conserved : plan.totalSize = plan.camouflage.camouflagedSize -
    if plan.sorPlan.routes = [] then 0 else plan.sorPlan.unfilledSize
  within : plan.totalSize ≤ (input.decision intent).intent.size
  unrouted : plan.sorPlan.routes = [] →
    ∀ child ∈ plan.children, child.expectedPrice = intent.expectedPrice
  routed : plan.sorPlan.routes ≠ [] →
    (∀ child ∈ plan.children, ∃ size,
      IsCandidateLevel intent input.orderBooks child.expectedPrice size) ∧
    (plan.children.map ExecutionIntent.expectedPrice).Pairwise (NoWorse intent.action)
  budget : plan.totalSize * intent.expectedPrice ≤ planBudget input intent
  ownBudget : (∀ child ∈ plan.children, child.expectedPrice ≤ intent.expectedPrice) →
    plan.totalNotional ≤ planBudget input intent
  orders : plan.orders.map (fun order => (order.clientId, order.size, order.price)) =
    plan.children.map fun child =>
      (child.intentId, .finite child.size, .finite child.expectedPrice)

end ApprovedExecutionPlan

/-! ## The children of routes -/

variable {intent : ExecutionIntent} {count : ℕ} {routes : List SorRoute}

private theorem map_size_routeChild :
    (routes.zipIdx.map (routeChild intent count)).map ExecutionIntent.size =
      routes.map SorRoute.size := by
  conv_rhs => rw [← List.zipIdx_map_fst 0 routes, List.map_map]
  rw [List.map_map]
  rfl

private theorem map_expectedPrice_routeChild :
    (routes.zipIdx.map (routeChild intent count)).map ExecutionIntent.expectedPrice =
      routes.map SorRoute.expectedPrice := by
  conv_rhs => rw [← List.zipIdx_map_fst 0 routes, List.map_map]
  rw [List.map_map]
  rfl

private theorem nodup_intentId_routeChild :
    ((routes.zipIdx.map (routeChild intent count)).map ExecutionIntent.intentId).Nodup := by
  have hids : (routes.zipIdx.map (routeChild intent count)).map ExecutionIntent.intentId =
      (List.range' 0 routes.length).map fun i =>
        intent.intentId ++ ":sor:" ++ toString (i + 1) := by
    rw [← List.zipIdx_map_snd 0 routes, List.map_map, List.map_map]
    rfl
  rw [hids]
  refine List.Nodup.map ?_ (List.nodup_range' ..)
  intro i j heq
  have hnumber := Nat.repr_injective (Text.append_left_inj heq)
  omega

/-! ## A plan for a camouflaged size -/

section Children

variable {draws : Draws} {size : ℚ} {books : List InternalOrderBook}

/-- The camouflage of an approved size. -/
private def camouflaged (draws : Draws) (intent : ExecutionIntent) (size : ℚ) :
    CamouflageResult :=
  camouflageIntent draws { intent with approvedSize := some size } size

private theorem camouflaged_pos (hsize : 0 < size) :
    0 < (camouflaged draws intent size).intent.size :=
  (camouflagedSize_bounds draws intent hsize).1

private theorem camouflaged_le (hsize : 0 < size) :
    (camouflaged draws intent size).intent.size ≤ size :=
  (camouflagedSize_bounds draws intent hsize).2

/-- The children that are planned for the camouflaged size. -/
private def planned (draws : Draws) (intent : ExecutionIntent) (size : ℚ)
    (books : List InternalOrderBook) : List ExecutionIntent :=
  executionChildrenFromRoutePlan (camouflaged draws intent size)
    (planSmartOrderRoute (camouflaged draws intent size).intent books)

private theorem planned_of_unrouted
    (h : (planSmartOrderRoute (camouflaged draws intent size).intent books).routes = []) :
    planned draws intent size books = iceberg draws (camouflaged draws intent size).intent
      (camouflaged draws intent size).intent.size := by
  rw [planned, executionChildrenFromRoutePlan, if_pos h]
  rfl

private theorem planned_of_routed
    (h : (planSmartOrderRoute (camouflaged draws intent size).intent books).routes ≠ []) :
    planned draws intent size books =
      (planSmartOrderRoute (camouflaged draws intent size).intent books).routes.zipIdx.map
        (routeChild (camouflaged draws intent size).intent
          (planSmartOrderRoute (camouflaged draws intent size).intent books).routes.length) := by
  rw [planned, executionChildrenFromRoutePlan, if_neg h]

private theorem nodup_planned :
    ((planned draws intent size books).map ExecutionIntent.intentId).Nodup := by
  by_cases h : (planSmartOrderRoute (camouflaged draws intent size).intent books).routes = []
  · rw [planned_of_unrouted h]
    exact nodup_intentId_iceberg
  · rw [planned_of_routed h]
    exact nodup_intentId_routeChild

private theorem sum_planned (hsize : 0 < size) :
    ((planned draws intent size books).map ExecutionIntent.size).sum =
      (camouflaged draws intent size).intent.size -
        if (planSmartOrderRoute (camouflaged draws intent size).intent books).routes = [] then 0
        else (planSmartOrderRoute (camouflaged draws intent size).intent books).unfilledSize := by
  split_ifs with h
  · rw [planned_of_unrouted h, sum_iceberg (camouflaged_pos hsize).le, sub_zero]
  · rw [planned_of_routed h, map_size_routeChild, sum_routes]

private theorem positive_planned (hsize : 0 < size)
    (hbooks : ∀ book ∈ books, ∀ action, ∀ level ∈ book.sideLevels action, 0 < level.size)
    {child : ExecutionIntent} (hchild : child ∈ planned draws intent size books) :
    0 < child.size := by
  by_cases h : (planSmartOrderRoute (camouflaged draws intent size).intent books).routes = []
  · rw [planned_of_unrouted h] at hchild
    exact (mem_iceberg (camouflaged_pos hsize) hchild).1
  · rw [planned_of_routed h] at hchild
    have hmem := List.mem_map_of_mem (f := ExecutionIntent.size) hchild
    rw [map_size_routeChild] at hmem
    obtain ⟨route, hroute, hsizes⟩ := List.mem_map.mp hmem
    rw [← hsizes]
    refine route_size_pos ?_ hroute
    rintro price levelSize ⟨book, hbook, -, level, hlevel, -, rfl⟩
    exact hbooks book hbook _ level (List.mem_of_mem_take hlevel)

private theorem sum_planned_le (hsize : 0 < size) :
    ((planned draws intent size books).map ExecutionIntent.size).sum ≤ size := by
  rw [sum_planned hsize]
  refine le_trans (sub_le_self _ ?_) (camouflaged_le hsize)
  split_ifs
  · exact le_rfl
  · exact unfilledSize_nonneg (camouflaged_pos hsize).le

end Children

/-! ## Plans -/

variable {js : Runtime} {draws : Draws} {input : PrepareApprovedExecutionPlanInput D}
  {plan : ApprovedExecutionPlan}

/-- A plan is made for an approved intent, from its camouflage and the routes of that. -/
private theorem plan_parts (h : prepareApprovedExecutionPlan js draws input = .ok (some plan)) :
    ∃ intent, input.intent = some intent ∧ (input.decision intent).approved = true ∧
      ∃ ackDeadlineAt, plan.camouflage.camouflagedSize =
          (camouflageIntent draws (input.decision intent).intent
            (input.decision intent).intent.size).camouflagedSize ∧
        plan.sorPlan = planSmartOrderRoute (camouflageIntent draws (input.decision intent).intent
          (input.decision intent).intent.size).intent input.orderBooks ∧
        plan.children = executionChildrenFromRoutePlan (camouflageIntent draws
          (input.decision intent).intent (input.decision intent).intent.size) plan.sorPlan ∧
        plan.orders = plan.children.map (managedOrder plan.intent.intentId
          input.observedAt.toText ackDeadlineAt) := by
  unfold prepareApprovedExecutionPlan at h
  cases hintent : input.intent with
  | none =>
    rw [hintent] at h
    cases h
  | some intent =>
    simp only [hintent] at h
    split_ifs at h with hskip happroved
    · cases h
    · simp only [buildApprovedExecutionPlan, happroved, if_true] at h
      obtain ⟨ackDeadlineAt, -, hplan⟩ := Except.bind_eq_ok.mp h
      cases hplan
      exact ⟨intent, rfl, happroved, ackDeadlineAt, rfl, rfl, rfl, rfl⟩
    · cases h

private theorem price_planned_of_unrouted {size : ℚ} {books : List InternalOrderBook}
    (hsize : 0 < size)
    (h : (planSmartOrderRoute (camouflaged draws intent size).intent books).routes = [])
    {child : ExecutionIntent} (hchild : child ∈ planned draws intent size books) :
    child.expectedPrice = intent.expectedPrice := by
  rw [planned_of_unrouted h] at hchild
  exact (mem_iceberg (camouflaged_pos hsize) hchild).2

private theorem price_planned_of_routed {size : ℚ} {books : List InternalOrderBook}
    (h : (planSmartOrderRoute (camouflaged draws intent size).intent books).routes ≠ [])
    {child : ExecutionIntent} (hchild : child ∈ planned draws intent size books) :
    ∃ levelSize, IsCandidateLevel intent books child.expectedPrice levelSize := by
  rw [planned_of_routed h] at hchild
  have hmem := List.mem_map_of_mem (f := ExecutionIntent.expectedPrice) hchild
  rw [map_expectedPrice_routeChild] at hmem
  obtain ⟨route, hroute, hprice⟩ := List.mem_map.mp hmem
  rw [← hprice]
  obtain ⟨levelSize, hlevel⟩ := route_isCandidateLevel hroute
  exact ⟨levelSize, hlevel⟩

private theorem notional_le {children : List ExecutionIntent} {price : ℚ}
    (hpositive : ∀ child ∈ children, 0 < child.size)
    (hprice : ∀ child ∈ children, child.expectedPrice ≤ price) :
    (children.map fun child => child.size * child.expectedPrice).sum ≤
      (children.map ExecutionIntent.size).sum * price := by
  rw [← List.sum_map_mul_right]
  apply List.sum_le_sum
  intro child hchild
  exact mul_le_mul_of_nonneg_left (hprice child hchild) (hpositive child hchild).le

/-- Every plan is sound, whatever the books and the draws. -/
theorem plan_sound
    (hbooks : ∀ book ∈ input.orderBooks, ∀ action, ∀ level ∈ book.sideLevels action,
      0 < level.size)
    (h : prepareApprovedExecutionPlan js draws input = .ok (some plan)) :
    ∃ intent, input.intent = some intent ∧ plan.Sound input intent := by
  obtain ⟨intent, hintent, happroved, ackDeadlineAt, hcamouflaged, hsorPlan, hchildren, horders⟩ :=
    plan_parts h
  obtain ⟨size, hdecided, hsize, hprice, hbudget⟩ := approved_budget happroved
  have hdecision : (input.decision intent).intent = { intent with approvedSize := some size } :=
    hdecided
  rw [hdecision] at hcamouflaged hsorPlan hchildren
  have hsor : plan.sorPlan =
    planSmartOrderRoute (camouflaged draws intent size).intent input.orderBooks := hsorPlan
  have hplanned : plan.children = planned draws intent size input.orderBooks := by
    rw [hchildren, hsorPlan]
    rfl
  have hpositive : ∀ child ∈ plan.children, 0 < child.size := by
    rw [hplanned]
    exact fun child => positive_planned hsize hbooks
  have htotal : plan.totalSize ≤ size := by
    rw [ApprovedExecutionPlan.totalSize, hplanned]
    exact sum_planned_le hsize
  have hcost : plan.totalSize * intent.expectedPrice ≤ planBudget input intent :=
    (mul_le_mul_of_nonneg_right htotal hprice.le).trans hbudget
  refine ⟨intent, hintent, ?_⟩
  constructor
  case distinct =>
    rw [hplanned]
    exact nodup_planned
  case positive => exact hpositive
  case conserved =>
    rw [ApprovedExecutionPlan.totalSize, hplanned, sum_planned hsize, hcamouflaged, hsor]
    rfl
  case within =>
    rw [hdecision]
    exact htotal
  case unrouted =>
    rw [hplanned, hsor]
    exact fun hroutes child => price_planned_of_unrouted hsize hroutes
  case routed =>
    rw [hplanned, hsor]
    intro hroutes
    refine ⟨fun child => price_planned_of_routed hroutes, ?_⟩
    rw [planned_of_routed hroutes, map_expectedPrice_routeChild]
    have hbest := @pairwise_routes (camouflaged draws intent size).intent input.orderBooks
    exact hbest
  case budget => exact hcost
  case ownBudget =>
    intro hprices
    exact (notional_le hpositive hprices).trans hcost
  case orders =>
    rw [horders, List.map_map]
    rfl

/-! ## An order on a thin market -/

private def thinDraws : Draws := ⟨fun _ => 1 / 2, fun _ => by norm_num, fun _ => by norm_num⟩

private def thinConfig : GlobalRiskConfig where
  TRADING_ENABLED := true
  MAX_POSITION_SIZE := .finite 1000
  MAX_DRAWDOWN_PCT := .finite (1 / 10)
  LATENCY_THRESHOLD_MS := .finite 250
  GOLDEN_COLOS := ""
  CVAR_CONFIDENCE := .finite (99 / 100)
  CVAR_MAX_TAIL_LOSS_BPS := .finite 25
  CVAR_LOOKBACK_TRADES := .finite 500
  updatedAt := "t0"
  updatedBy := "admin"
  version := "v1"
  others := Rows.empty

private def thinIntent : ExecutionIntent where
  instrumentCode := "btc"
  action := .buy
  intentId := "i"
  marketKey := none
  source_exchange := none
  intendedPrice := 100
  expectedPrice := 100
  requestedSize := 10
  approvedSize := none
  probabilityWin := .finite (3 / 5)
  profit := .finite 1
  loss := .finite 1
  expectedValue := .finite 1
  minEvThreshold := .finite 0
  rationale := ""

/-- The only book asks for twice the price that the intent expects. -/
private def thinBook : InternalOrderBook where
  marketKey := "m"
  source := .binance
  sourceExchange := "x"
  sourceWeight := 1
  instrumentCode := "btc"
  exchangeCode := "x"
  bids := []
  asks := [⟨200, 10, "t0"⟩]
  bestBid := none
  bestAsk := some 200
  lastSequence := none
  tickSize := 1
  ttbLatencyMs := none
  isSynced := true
  desyncReason := none
  sequence := 0
  updatedAt := "t0"

private def thinState : TradingState .nothing :=
  { defaultEngineState (.iso 0) thinConfig ⟨[], ()⟩ () () with
    bankroll := ⟨"USD", 5000, 5000, 0, "t0"⟩ }

private def thinInput : PrepareApprovedExecutionPlanInput .nothing where
  intent := some thinIntent
  riskState := thinState
  config := thinConfig
  observedAt := .iso 0
  bypassQuoteSuspension := true
  maxPositionPct := .finite 1
  kellyFraction := .finite (1 / 2)
  orderBooks := [thinBook]
  ackTimeoutMs := .finite 2000

private abbrev thinResult : Except String (Option ApprovedExecutionPlan) :=
  prepareApprovedExecutionPlan (JavaScript.reference .double) thinDraws thinInput

private def isOverpriced : Except String (Option ApprovedExecutionPlan) → Bool
  | .ok (some plan) => planBudget thinInput thinIntent < plan.totalNotional ∧
      plan.children.any fun child => thinIntent.expectedPrice < child.expectedPrice
  | _ => false

/-- The plan buys at twice the expected price, for twice the budget. -/
theorem thin_market_overpriced : ∃ plan, thinResult = .ok (some plan) ∧
    (∃ child ∈ plan.children,
      ¬NoWorse thinIntent.action child.expectedPrice thinIntent.expectedPrice) ∧
    planBudget thinInput thinIntent < plan.totalNotional := by
  have hoverpriced : isOverpriced thinResult = true := by decide +kernel
  match hresult : thinResult, hoverpriced with
  | .ok (some plan), hoverpriced =>
    simp only [isOverpriced, decide_eq_true_eq, List.any_eq_true] at hoverpriced
    obtain ⟨hcost, child, hchild, hprice⟩ := hoverpriced
    exact ⟨plan, rfl, ⟨child, hchild, not_le.mpr hprice⟩, hcost⟩

theorem thin_market_sound : ∃ plan, thinResult = .ok (some plan) ∧
    ∃ intent, thinInput.intent = some intent ∧ plan.Sound thinInput intent := by
  obtain ⟨plan, hplan, -⟩ := thin_market_overpriced
  refine ⟨plan, hplan, plan_sound ?_ hplan⟩
  intro book hbook action level hlevel
  rw [List.mem_singleton.mp hbook] at hlevel
  cases action with
  | buy =>
    rw [List.mem_singleton.mp hlevel]
    norm_num
  | sell => cases hlevel

end Yevow.Engine
