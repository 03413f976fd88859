import Yevow.Models.Engine.Config.State

/-!
# Sizing an order

The pit boss approves a part of the size that an intent asks for: a fraction of the bankroll,
after Kelly, the asset's allocation and the tail of the observed slippage, and no more than the
configured limit. Sizes and prices are computed exactly, without the rounding to eight decimals.
-/

namespace Yevow.Engine

/-- A trade intent as execution plans read it. -/
structure ExecutionIntent extends TradeIntent where
  intentId : String
  marketKey : Option String
  source_exchange : Option String
  intendedPrice : ℚ
  expectedPrice : ℚ
  requestedSize : ℚ
  approvedSize : Option ℚ
  probabilityWin : Number
  profit : Number
  loss : Number
  expectedValue : Number
  minEvThreshold : Number
  rationale : String
  deriving DecidableEq

/-- `intent.approvedSize ?? intent.requestedSize`. -/
def ExecutionIntent.size (intent : ExecutionIntent) : ℚ :=
  intent.approvedSize.getD intent.requestedSize

/-! ## The tail of the slippage -/

/-- A number between two bounds. -/
def clamp (value : Number) (minimum maximum : ℚ) : ℚ :=
  match value with
  | .finite v => min maximum (max minimum v)
  | .infinite _ => min maximum minimum
  | .nan => min maximum minimum

/-- `points.slice(-Math.max(1, Math.floor(lookbackTrades)))`. -/
def lookbackPoints (points : List SlippagePoint) : Number → List SlippagePoint
  | .finite q => points.drop (points.length - (max 1 ⌊q⌋).toNat)
  | .infinite negative => if negative then points.drop (points.length - 1) else points
  | .nan => points

/-- `Math.max(0, slippageBps)`, where it is finite. -/
def slippageLoss (point : SlippagePoint) : Option ℚ :=
  match point.slippageBps with
  | .finite q => some (max 0 q)
  | .infinite negative => if negative then some 0 else none
  | .nan => none

/-- The loss in the tail and its samples. -/
structure TailLoss where
  cvarBps : ℚ
  tailSampleCount : ℕ
  deriving DecidableEq

/-- The mean loss beyond a quantile. -/
def estimateTailLossBps (slippage : SlippageAnalytics) (confidence lookbackTrades : Number) :
    TailLoss :=
  let confidenceBound := clamp confidence (9 / 10) (999 / 1000)
  let losses := Sorting.sortBy (fun left right => (left - right).num)
    ((lookbackPoints slippage.points lookbackTrades).filterMap slippageLoss)
  if losses = [] then ⟨0, 0⟩
  else
    let start := min (losses.length - 1) ⌊losses.length * confidenceBound⌋₊
    let tail := losses.drop start
    ⟨Arithmetic.mathRound (tail.sum / tail.length * 10 ^ 4) / 10 ^ 4, tail.length⟩

/-- The size after the tail loss. -/
structure CvarSizingDecision where
  cappedFraction : ℚ
  cvarBps : ℚ
  tailSampleCount : ℕ
  reason : String
  deriving DecidableEq

/-- A size is scaled down by the tail loss. -/
def applyCvarSizing (baseFraction : Number) (slippage : SlippageAnalytics)
    (confidence maxTailLossBps lookbackTrades : Number) : CvarSizingDecision :=
  let baseFraction := clamp baseFraction 0 1
  let maxTailLossBps := Number.max (.finite (1 / 10 ^ 6)) maxTailLossBps
  let tail := estimateTailLossBps slippage confidence lookbackTrades
  if Number.lt maxTailLossBps (.finite tail.cvarBps) ∨ maxTailLossBps = .nan then
    let tailScale := clamp (Number.div id maxTailLossBps (.finite tail.cvarBps)) 0 1
    ⟨baseFraction * tailScale, tail.cvarBps, tail.tailSampleCount, "CVAR_TAIL_CAP_APPLIED"⟩
  else ⟨baseFraction, tail.cvarBps, tail.tailSampleCount, "CVAR_WITHIN_LIMIT"⟩

/-! ## The pit boss -/

/-- An intent with its approved size. -/
structure PitBossDecision where
  approved : Bool
  intent : ExecutionIntent
  kellyFraction : Number
  cappedFraction : ℚ
  capitalAllocationPct : Number
  assetMaxNotional : ℚ
  reason : String

variable {D : Payloads}

/-- The equity or the cash, whichever is more. -/
def bankrollSize (state : TradingState D) : ℚ :=
  max (max state.bankroll.equity state.bankroll.cash) 0

/-- The limit of the configuration, if it is positive, and the part of the bankroll. -/
def maxNotional (MAX_POSITION_SIZE : Number) (budget : ℚ) : ℚ :=
  match MAX_POSITION_SIZE with
  | .finite limit => if 0 < limit then min limit budget else budget
  | .infinite _ => budget
  | .nan => budget

/-- Kelly's fraction of the bankroll for the intent's odds, scaled down. -/
def scaledKelly (intent : ExecutionIntent) (kellyFractionOverride : Number) : Number :=
  let b :=
    if Number.lt (.finite 0) intent.loss then Number.div id intent.profit intent.loss
    else .finite 0
  let rawKelly :=
    if Number.lt (.finite 0) b then
      Number.div id
        (Number.sub id (Number.mul id intent.probabilityWin (Number.add id b (.finite 1)))
          (.finite 1)) b
    else .finite 0
  let effectiveKelly :=
    Number.min (.finite 1) (Number.max (.finite 0) kellyFractionOverride)
  Number.max (.finite 0) (Number.mul id rawKelly effectiveKelly)

variable [AllocationFields D.AssetMatrix]

/-- `PitBossAgent.approve`. -/
def approve (intent : ExecutionIntent) (engineState : TradingState D)
    (config : GlobalRiskConfig) (maxPositionPct kellyFractionOverride : Number) :
    PitBossDecision :=
  let kellyFraction := scaledKelly intent kellyFractionOverride
  let allocation := (AllocationFields.capitalAllocationPct engineState.assetMatrix
    intent.instrumentCode).getD (.finite 1)
  let safeAllocation := Number.min (.finite 1) (Number.max (.finite 0) allocation)
  let assetMaxFraction :=
    Number.max (.finite 0) (Number.mul id maxPositionPct safeAllocation)
  let preCvarFraction :=
    Number.min (Number.min kellyFraction assetMaxFraction) (.finite (1 / 20))
  let cvar := applyCvarSizing preCvarFraction engineState.slippage config.CVAR_CONFIDENCE
    config.CVAR_MAX_TAIL_LOSS_BPS config.CVAR_LOOKBACK_TRADES
  let maxNotional :=
    maxNotional config.MAX_POSITION_SIZE (bankrollSize engineState * cvar.cappedFraction)
  let approvedSize :=
    if 0 < intent.expectedPrice then min intent.requestedSize (maxNotional / intent.expectedPrice)
    else 0
  let approved := 0 < approvedSize ∧ Number.lt intent.minEvThreshold intent.expectedValue
  { approved
    intent := { intent with approvedSize := some approvedSize }
    kellyFraction
    cappedFraction := cvar.cappedFraction
    capitalAllocationPct := safeAllocation
    assetMaxNotional := maxNotional
    reason :=
      if approved then
        "APPROVED_FRACTIONAL_KELLY_VOL_WEIGHTED_ASSET_BUDGET_" ++ cvar.reason
      else "REJECTED_BY_KELLY_OR_EV" }

/-! ## What is approved -/

variable {intent : ExecutionIntent} {engineState : TradingState D} {config : GlobalRiskConfig}
  {maxPositionPct kellyFractionOverride : Number}

/-- What an approved intent may cost at its expected price. -/
theorem approved_budget
    (happroved : (approve intent engineState config maxPositionPct kellyFractionOverride).approved =
      true) :
    ∃ size, (approve intent engineState config maxPositionPct kellyFractionOverride).intent =
        { intent with approvedSize := some size } ∧ 0 < size ∧ 0 < intent.expectedPrice ∧
      size * intent.expectedPrice ≤ maxNotional config.MAX_POSITION_SIZE
        (bankrollSize engineState * (approve intent engineState config maxPositionPct
          kellyFractionOverride).cappedFraction) := by
  simp only [approve, decide_eq_true_eq] at happroved ⊢
  obtain ⟨hsize, -⟩ := happroved
  by_cases hprice : 0 < intent.expectedPrice
  · simp only [hprice, if_true] at hsize ⊢
    refine ⟨_, rfl, hsize, trivial, ?_⟩
    rw [← le_div_iff₀ hprice]
    exact min_le_right _ _
  · simp [hprice] at hsize

end Yevow.Engine
