import Mathlib.Algebra.BigOperators.Group.List.Basic
import Yevow.Core.JavaScript.Record
import Yevow.Models.Cascade.PositionManager

/-!
# The heat of the cascade positions

The heat of a position is the share of its risk that is still at stake. Heats of one direction
add up by the correlations of their assets, and those of the two directions plainly. Everything
but the final rounding is computed exactly.
-/

namespace Yevow.Cascade

open JavaScript (Record)

variable {S P : Type} [Field S] [LinearOrder S]

/-- `DEFAULT_CASCADE_CORRELATIONS`. -/
def defaultCascadeCorrelations : Record S :=
  Record.fromEntries
    [("BTC:ETH", 85 / 100), ("BTC:SOL", 75 / 100), ("ETH:SOL", 80 / 100), ("BTC:HYPE", 65 / 100),
      ("ETH:HYPE", 60 / 100), ("HYPE:SOL", 55 / 100)]

/-- The settings of a heat manager. -/
structure HeatManager (S : Type) where
  heatCapPct : S
  correlations : Record S

/-- The heat of one position. -/
structure HeatContribution (S : Type) where
  instrumentCode : String
  direction : CascadeRecoveryDirection
  heat : S

/-- A position whose status is not closed. -/
def isActivePosition (position : CascadeOpenPosition S P) : Bool :=
  match position.status with
  | .pendingEntry | .entered | .firstTargetHit | .secondTargetHit => true
  | .closed | .stoppedOut | .timeStopped => false

/-- The part of a code before its first hyphen, in capitals; only ASCII letters are changed. -/
def baseAsset (instrumentCode : String) : String :=
  ((instrumentCode.splitOn "-").headD instrumentCode).toUpper

/-- The two assets of a key stand in the order of their texts. -/
def correlationFor (correlations : Record S) (leftInstrument rightInstrument : String) : S :=
  let left := baseAsset leftInstrument
  let right := baseAsset rightInstrument
  if left = right then 1
  else
    let key := if right < left then right ++ ":" ++ left else left ++ ":" ++ right
    (correlations.get? key).getD 0

/-- The variance that `correlatedHeat` sums up. -/
def heatVariance (correlations : Record S) : List (HeatContribution S) → S
  | [] => 0
  | outer :: rest =>
    outer.heat * outer.heat +
      (rest.map fun inner =>
        2 * max 0 (correlationFor correlations outer.instrumentCode inner.instrumentCode) *
          outer.heat * inner.heat).sum +
      heatVariance correlations rest

/-- The heat of a position as one of a direction, unless there is none. -/
def heatContribution (direction : CascadeRecoveryDirection) (position : CascadeOpenPosition S P) :
    Option (HeatContribution S) :=
  if !isActivePosition position || position.totalSize ≤ 0 || position.remainingSize ≤ 0 then none
  else
    let heat := max 0 (position.remainingSize / position.totalSize * position.initialRiskPct)
    if heat ≤ 0 ∨ position.direction ≠ direction then none
    else some ⟨position.instrumentCode, position.direction, heat⟩

variable (ar : CascadeArithmetic S P) (sqrt : S → S)

/-- Heats added up by correlation. -/
def correlatedHeat (correlations : Record S) (contributions : List (HeatContribution S)) : S :=
  sqrt (max 0 (heatVariance correlations contributions))

/-- The heat of both directions. -/
def HeatManager.currentHeat (manager : HeatManager S) (positions : List (CascadeOpenPosition S P)) :
    S :=
  ar.toFixed
    (correlatedHeat sqrt manager.correlations (positions.filterMap (heatContribution .long)) +
      correlatedHeat sqrt manager.correlations (positions.filterMap (heatContribution .short)))

end Yevow.Cascade
