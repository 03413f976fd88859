import Yevow.Core.Number.Extended
import Yevow.Models.Engine.ExecutionAccounting

/-!
# Slippage

Every execution report adds a point to the slippage statistics, which keep the last five
hundred.
-/

namespace Yevow.Engine

/-- The arithmetic of the engine with a square root. -/
structure StatisticsArithmetic extends EngineArithmetic where
  sqrt : ℚ → ℚ

/-- The slippage of one order. -/
structure SlippagePoint where
  expectedPrice : Number
  achievedPrice : Number
  slippageBps : Number
  implementationShortfall : Number
  latencyMs : Number
  observedAt : String
  deriving DecidableEq

/-- The slippages so far. -/
structure SlippageAnalytics where
  points : List SlippagePoint
  averageSlippageBps : Number
  latencyCorrelation : Option Number
  executionCostBufferBps : Number
  updatedAt : Option String
  deriving DecidableEq

/-- No slippage so far. -/
def defaultSlippageAnalytics : SlippageAnalytics := ⟨[], .finite 0, none, .finite 0, none⟩

variable (ar : StatisticsArithmetic)

/-- `buildSlippagePoint` for a report with a latency. -/
def buildSlippagePoint (report : ExecutionReport) (latencyMs : Option Number)
    (order : ManagedOrder) : SlippagePoint :=
  let expectedPrice := report.expectedPrice.getD order.price
  let achievedPrice := report.achievedPrice.getD expectedPrice
  let sideMultiplier : ℚ := if order.side = .buy then 1 else -1
  let change := Number.sub ar.number achievedPrice expectedPrice
  let filled := Number.max (.finite order.filledSize) order.size
  { expectedPrice
    achievedPrice
    slippageBps :=
      if Number.lt (.finite 0) expectedPrice then
        Number.mul ar.number
          (Number.mul ar.number (Number.div ar.number change expectedPrice) (.finite 10000))
          (.finite sideMultiplier)
      else .finite 0
    implementationShortfall :=
      Number.add ar.number (Number.mul ar.number change.abs filled) (.finite (report.fees.getD 0))
    latencyMs := latencyMs.getD (.finite 0)
    observedAt := report.observedAt }

/-- `Math.round(value * 100_000_000) / 100_000_000`. -/
def roundNumber : Number → Number
  | .finite value => .finite (ar.roundCrypto value)
  | value => value

/-- The correlation of two series of the same length. -/
def pearson (x y : List Number) : Option Number :=
  if x.length < 2 then none
  else
    let count : Number := .finite x.length
    let meanX := Number.div ar.number (Number.sum ar.number x) count
    let meanY := Number.div ar.number (Number.sum ar.number y) count
    let dx := x.map fun value => Number.sub ar.number value meanX
    let dy := y.map fun value => Number.sub ar.number value meanY
    let numerator := Number.sum ar.number (List.zipWith (Number.mul ar.number) dx dy)
    let varianceX := Number.sum ar.number (dx.map fun d => Number.mul ar.number d d)
    let varianceY := Number.sum ar.number (dy.map fun d => Number.mul ar.number d d)
    let denominator := Number.sqrt ar.sqrt (Number.mul ar.number varianceX varianceY)
    if Number.lt (.finite 0) denominator then
      some (roundNumber ar (Number.div ar.number numerator denominator))
    else none

/-- A slippage is added. -/
def appendSlippagePoint (current : SlippageAnalytics) (point : SlippagePoint) :
    SlippageAnalytics :=
  let all := current.points ++ [point]
  let points := all.drop (all.length - 500)
  let averageSlippageBps := Number.div ar.number
    (Number.sum ar.number (points.map SlippagePoint.slippageBps))
    (.finite (max 1 points.length : ℕ))
  { points
    averageSlippageBps
    latencyCorrelation := pearson ar (points.map SlippagePoint.latencyMs)
      (points.map fun point => point.slippageBps.abs)
    executionCostBufferBps :=
      if Number.lt current.executionCostBufferBps averageSlippageBps then averageSlippageBps
      else current.executionCostBufferBps
    updatedAt := some point.observedAt }

/-- The points are counted up to five hundred. -/
theorem length_points_appendSlippagePoint (current : SlippageAnalytics) (point : SlippagePoint) :
    (appendSlippagePoint ar current point).points.length = min (current.points.length + 1) 500 := by
  simp only [appendSlippagePoint, List.length_drop, List.length_append, List.length_singleton]
  omega

end Yevow.Engine
