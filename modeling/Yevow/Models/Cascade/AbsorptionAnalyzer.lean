import Yevow.Models.Cascade.Detector

/-!
# Absorption of cascades

A cascade is absorbed once the price has held near its extreme for a while and the forced flow is
exhausted: it falls from minute to minute, the volume delta turns, or the open interest is steady.
-/

namespace Yevow.Cascade

/-- The thresholds of absorption. -/
structure AbsorptionAnalyzerConfig (N : Type) where
  absorptionWindowMs : N
  priceBandBps : N
  minHoldSeconds : N
  oiStabilityBps : N
  maxActiveCascades : ℕ

/-- A cascade that is watched, and what was observed of it. -/
structure ActiveAbsorption (N : Type) where
  cascade : CascadeEvent (CascadeDetail N)
  startedAtMs : ℤ
  holdStartedAtMs : Option ℤ
  observations : ℕ
  firstCvd : Option N
  latestCvd : Option N
  takerBuckets : Rows ℤ N
  openInterestValues : List N
  confirmed : Bool

/-- The cascades that are watched, under their ids. -/
structure AbsorptionAnalyzer (N : Type) where
  active : Rows String (ActiveAbsorption N)

/-- What a confirmation asks of an observation. -/
structure AbsorptionCriteria where
  priceHeld : Bool
  takerExhaustion : Bool
  cvdReversal : Bool
  openInterestStabilized : Bool
  deriving DecidableEq

/-- What a confirmation reports besides its cascade and its time. -/
structure AbsorptionDetail (N : Type) where
  direction : CascadeDirection
  elapsedMs : ℤ
  price : N
  criteria : AbsorptionCriteria
  observations : ℕ

/-- An analyzer that watches nothing. -/
def AbsorptionAnalyzer.new {N : Type} : AbsorptionAnalyzer N := ⟨Rows.empty⟩

variable {N : Type} [Field N] [LinearOrder N] (ar : CascadeArithmetic N N)
  (dateParse : String → Option ℤ) (config : AbsorptionAnalyzerConfig N)

/-- Drop what is confirmed, out of its window, or beyond what may be active. -/
def AbsorptionAnalyzer.prune (analyzer : AbsorptionAnalyzer N) (nowMs : ℤ) :
    AbsorptionAnalyzer N :=
  ⟨analyzer.active.entries.foldl (fun active (cascadeId, absorption) =>
    if absorption.confirmed ∨
        config.absorptionWindowMs < ((nowMs - absorption.startedAtMs : ℤ) : N) ∨
        config.maxActiveCascades < active.entries.length
    then active.delete cascadeId else active) analyzer.active⟩

/-- A cascade is watched from its detection on. -/
def AbsorptionAnalyzer.trackCascade (analyzer : AbsorptionAnalyzer N)
    (cascade : CascadeEvent (CascadeDetail N)) : AbsorptionAnalyzer N :=
  match dateParse cascade.detectedAt with
  | none => analyzer
  | some startedAtMs =>
    let active := analyzer.active.set cascade.cascadeId
      { cascade
        startedAtMs
        holdStartedAtMs := none
        observations := 0
        firstCvd := none
        latestCvd := none
        takerBuckets := Rows.empty
        openInterestValues := []
        confirmed := false }
    (AbsorptionAnalyzer.mk active).prune config startedAtMs

/-- The taker volume on the forced side. -/
def forcedSideVolume (direction : CascadeDirection) (observation : AbsorptionObservation N) : N :=
  match direction with
  | .longLiquidation => max 0 observation.takerSellVolume
  | .shortLiquidation => max 0 observation.takerBuyVolume

/-- The price is within a band of the peak. -/
def isHoldingCascadeExtreme (priceAtPeak price : N) : Bool :=
  if price ≤ 0 ∨ priceAtPeak ≤ 0 then false
  else
    let band := ar.number (priceAtPeak * ar.number (config.priceBandBps / 10000))
    |ar.number (price - priceAtPeak)| ≤ band

/-- An observation is added to a watched cascade. -/
def updateActive (active : ActiveAbsorption N) (observation : AbsorptionObservation N)
    (observedAtMs : ℤ) : ActiveAbsorption N :=
  let minute := observedAtMs / 60000 * 60000
  let forcedTakerVolume := forcedSideVolume active.cascade.rest.direction observation
  let openInterestValues := match observation.openInterest with
    | none => active.openInterestValues
    | some openInterest =>
      let values := active.openInterestValues ++ [openInterest]
      if 12 < values.length then values.tail else values
  { active with
    observations := active.observations + 1
    firstCvd := some (active.firstCvd.getD observation.cumulativeVolumeDelta)
    latestCvd := some observation.cumulativeVolumeDelta
    takerBuckets := active.takerBuckets.set minute
      (ar.number ((active.takerBuckets.get? minute).getD 0 + forcedTakerVolume))
    openInterestValues
    holdStartedAtMs :=
      if isHoldingCascadeExtreme ar config active.cascade.rest.priceAtPeak observation.price then
        some (active.holdStartedAtMs.getD observedAtMs)
      else none }

/-- The forced volume falls from minute to minute. -/
def takerVolumeTrendingDown (active : ActiveAbsorption N) : Bool :=
  let buckets := (Sorting.sortBy (fun left right => left.1 - right.1)
    active.takerBuckets.entries).map Prod.snd
  match buckets.reverse with
  | first :: second :: third :: _ => second < third && first < second
  | _ => false

/-- The volume delta turns against the cascade. -/
def cvdReversed (active : ActiveAbsorption N) : Bool :=
  match active.firstCvd, active.latestCvd with
  | some firstCvd, some latestCvd =>
    match active.cascade.rest.direction with
    | .longLiquidation => firstCvd < 0 && 0 ≤ latestCvd
    | .shortLiquidation => 0 < firstCvd && latestCvd ≤ 0
  | _, _ => false

/-- The last open interests differ little. -/
def openInterestStable (active : ActiveAbsorption N) : Bool :=
  let values := (lastOf 3 active.openInterestValues).filter fun value => 0 < value
  match values with
  | [first, second, third] =>
    let least := min (min first second) third
    let greatest := max (max first second) third
    let midpoint := ar.number (ar.number (least + greatest) / 2)
    0 < midpoint &&
      ar.number (ar.number (ar.number (greatest - least) / midpoint) * 10000) ≤
        config.oiStabilityBps
  | _ => false

/-- The criteria an observation meets for a watched cascade. -/
def absorptionCriteria (active : ActiveAbsorption N) (observedAtMs : ℤ) : AbsorptionCriteria where
  priceHeld :=
    let holdMs : ℤ := active.holdStartedAtMs.elim 0 fun startedAtMs =>
      max 0 (observedAtMs - startedAtMs)
    ar.number (config.minHoldSeconds * 1000) ≤ (holdMs : N)
  takerExhaustion := takerVolumeTrendingDown active
  cvdReversal := cvdReversed active
  openInterestStabilized := openInterestStable ar config active

/-- One sign of exhaustion is enough. -/
def hasAnyExhaustion (criteria : AbsorptionCriteria) : Bool :=
  criteria.takerExhaustion || criteria.cvdReversal || criteria.openInterestStabilized

/-- An observation is shown to the watched cascades in turn, up to the first that it confirms. Of
its instrument code only ASCII letters are lowered. -/
def observeActive (observation : AbsorptionObservation N) (observedAtMs : ℤ) :
    List (String × ActiveAbsorption N) → Rows String (ActiveAbsorption N) →
      Rows String (ActiveAbsorption N) × Option (AbsorptionConfirmed (AbsorptionDetail N))
  | [], rows => (rows, none)
  | (cascadeId, active) :: rest, rows =>
    if active.confirmed ∨ active.cascade.instrumentCode ≠ observation.instrumentCode.toLower ∨
        config.absorptionWindowMs < ((observedAtMs - active.startedAtMs : ℤ) : N) then
      observeActive observation observedAtMs rest rows
    else
      let active := updateActive ar config active observation observedAtMs
      let criteria := absorptionCriteria ar config active observedAtMs
      if criteria.priceHeld && hasAnyExhaustion criteria then
        (rows.set cascadeId { active with confirmed := true },
          some
            { cascadeId := active.cascade.cascadeId
              instrumentCode := active.cascade.instrumentCode
              confirmedAt := observation.observedAt
              rest :=
                { direction := active.cascade.rest.direction
                  elapsedMs := max 0 (observedAtMs - active.startedAtMs)
                  price := observation.price
                  criteria
                  observations := active.observations } })
      else observeActive observation observedAtMs rest (rows.set cascadeId active)

/-- An observation, and the first cascade that it confirms. -/
def AbsorptionAnalyzer.observe (analyzer : AbsorptionAnalyzer N)
    (observation : AbsorptionObservation N) :
    AbsorptionAnalyzer N × Option (AbsorptionConfirmed (AbsorptionDetail N)) :=
  match dateParse observation.observedAt with
  | none => (analyzer, none)
  | some observedAtMs =>
    let (active, confirmed) :=
      observeActive ar config observation observedAtMs analyzer.active.entries analyzer.active
    ((AbsorptionAnalyzer.mk active).prune config observedAtMs, confirmed)

end Yevow.Cascade
