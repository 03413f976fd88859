import Mathlib.Algebra.Order.Archimedean.Real.Basic
import Yevow.Core.Number.Extended

/-!
# The size of a cascade position

The numbers that the cascade strategy computes with, and the size it gives to a position: the
least of what the risk of a trade, the notional and the liquidity of the asset and the heat that
is left allow.
-/

namespace Yevow.Cascade

/-! The numerals that several formulas over arbitrary fields are written with. -/

scoped instance instAtLeastTwoTwo : Nat.AtLeastTwo 2 := ⟨by omega⟩
scoped instance instAtLeastTwoTen : Nat.AtLeastTwo 10 := ⟨by omega⟩
scoped instance instAtLeastTwoHundred : Nat.AtLeastTwo 100 := ⟨by omega⟩
scoped instance instAtLeastTwoThousand : Nat.AtLeastTwo 1000 := ⟨by omega⟩
scoped instance instAtLeastTwoTenThousand : Nat.AtLeastTwo 10000 := ⟨by omega⟩
scoped instance instAtLeastTwoHourMs : Nat.AtLeastTwo 3600000 := ⟨by omega⟩

/-- Sizes of type `S` and prices of type `P`, with what is stored of exact sizes and how they
are cut to eight decimals. Prices may be values that no comparison accepts. -/
structure CascadeArithmetic (S P : Type) where
  number : S → S
  /-- `Number(value.toFixed(8))`. -/
  toFixed : S → S
  lt : P → P → Bool
  le : P → P → Bool
  add : P → P → P
  sub : P → P → P
  mul : P → P → P
  div : P → P → P
  max : P → P → P
  mathRound : P → P
  literal : ℕ → P
  /-- `Number(value.toFixed(8))`. -/
  priceToFixed : P → P

namespace CascadeArithmetic

/-- Real numbers, where nothing is rounded. -/
noncomputable def real : CascadeArithmetic ℝ ℝ where
  number := id
  toFixed := id
  lt a b := decide (a < b)
  le a b := decide (a ≤ b)
  add a b := a + b
  sub a b := a - b
  mul a b := a * b
  div a b := a / b
  max a b := a ⊔ b
  mathRound a := ⌊a + 1 / 2⌋
  literal n := n
  priceToFixed := id

end CascadeArithmetic

/-- The bound that a size meets. -/
inductive LimitingFactor
  | risk
  | notional
  | liquidity
  | heat
  | invalidInput
  deriving DecidableEq

/-- What a size is computed from. -/
structure PositionSizeInput (S : Type) where
  equity : S
  riskPerTradePct : S
  entryPrice : S
  stopPrice : S
  maxPositionNotionalPct : S
  assetLiquidityCap : S
  currentHeat : S
  heatCapPct : S

/-- The units that each bound allows. -/
structure SizeBounds (S : Type) where
  riskUnits : S
  notionalUnits : S
  liquidityUnits : S
  heatUnits : S

/-- The size of a position, or why there is none. -/
structure PositionSizeDecision (S : Type) where
  approved : Bool
  units : S
  notionalUsd : S
  riskUsd : S
  riskPct : S
  heatAfterPct : S
  limitingFactor : LimitingFactor
  reason : String
  bounds : SizeBounds S

variable {S P : Type} [Field S] [LinearOrder S] (ar : CascadeArithmetic S P)

/-- A size that is refused. -/
def emptyDecision (limitingFactor : LimitingFactor) (reason : String) (bounds : SizeBounds S) :
    PositionSizeDecision S :=
  ⟨false, 0, 0, 0, 0, 0, limitingFactor, reason, bounds⟩

/-- The bound that the selected size equals. -/
def findLimitingFactor (bounds : SizeBounds S) (selectedUnits : S) : LimitingFactor :=
  if selectedUnits = bounds.heatUnits then .heat
  else if selectedUnits = bounds.liquidityUnits then .liquidity
  else if selectedUnits = bounds.notionalUnits then .notional
  else .risk

/-- The size of a position, for inputs that are finite. -/
def calculatePositionSize (input : PositionSizeInput S) : PositionSizeDecision S :=
  let stopDistance := |ar.number (input.entryPrice - input.stopPrice)|
  if ¬0 < input.equity ∨ ¬0 < input.entryPrice ∨ ¬0 < stopDistance ∨
      ¬0 ≤ input.riskPerTradePct ∨ ¬0 ≤ input.maxPositionNotionalPct ∨
      ¬0 ≤ input.assetLiquidityCap ∨ ¬0 ≤ input.currentHeat ∨ ¬0 ≤ input.heatCapPct then
    emptyDecision .invalidInput "Invalid sizing input." ⟨0, 0, 0, 0⟩
  else
    let remainingHeatPct := max 0 (ar.number (input.heatCapPct - input.currentHeat))
    if remainingHeatPct ≤ 0 then
      emptyDecision .heat "Portfolio heat cap is already exhausted." ⟨0, 0, 0, 0⟩
    else
      let riskUnits := ar.number (ar.number (input.equity * input.riskPerTradePct) / stopDistance)
      let notionalUnits :=
        ar.number (ar.number (input.equity * input.maxPositionNotionalPct) / input.entryPrice)
      let liquidityUnits := ar.number (input.assetLiquidityCap / input.entryPrice)
      let heatUnits := ar.number (ar.number (input.equity * remainingHeatPct) / stopDistance)
      let bounds := ⟨riskUnits, notionalUnits, liquidityUnits, heatUnits⟩
      let selectedUnits := min (min (min riskUnits notionalUnits) liquidityUnits) heatUnits
      if ¬0 < selectedUnits then
        emptyDecision .invalidInput
          "No positive position size is available after applying all caps." bounds
      else
        let units := ar.toFixed selectedUnits
        let riskUsd := ar.toFixed (ar.number (units * stopDistance))
        let riskPct := ar.toFixed (ar.number (riskUsd / input.equity))
        { approved := true
          units
          notionalUsd := ar.toFixed (ar.number (units * input.entryPrice))
          riskUsd
          riskPct
          heatAfterPct := ar.toFixed (ar.number (input.currentHeat + riskPct))
          limitingFactor := findLimitingFactor bounds selectedUnits
          reason := "Position size approved."
          bounds :=
            ⟨ar.toFixed riskUnits, ar.toFixed notionalUnits, ar.toFixed liquidityUnits,
              ar.toFixed heatUnits⟩ }

end Yevow.Cascade
