import Yevow.Core.JavaScript.Timestamp
import Yevow.Models.Cascade.Backtester

/-!
# Detection of cascades

A cascade is a window of liquidations whose notional is large by itself, large against the windows
before it, mostly of one side, and goes with a large enough move of the price.
-/

namespace Yevow.Cascade

/-- The side that was liquidated. -/
inductive LiquidationSide
  | long
  | short
  | unknown
  deriving DecidableEq

/-- Which side a cascade liquidates. -/
inductive CascadeDirection
  | longLiquidation
  | shortLiquidation
  deriving DecidableEq

def CascadeDirection.text : CascadeDirection → String
  | .longLiquidation => "LONG_LIQUIDATION"
  | .shortLiquidation => "SHORT_LIQUIDATION"

/-- What only the detector reads of a liquidation. -/
structure LiquidationDetail (N : Type) where
  side : LiquidationSide
  notionalUsd : N

/-- What a cascade says besides its instrument and its time. -/
structure CascadeDetail (N : Type) where
  direction : CascadeDirection
  priceAtPeak : N
  liquidationNotional : N
  liquidationCount : ℕ
  zScore : N
  priceMoveAtr : N
  directionalPct : N

/-- The thresholds of a cascade. -/
structure CascadeDetectorConfig (N : Type) where
  windowMs : N
  notionalThresholdUsd : N
  zScoreThreshold : N
  lookbackHours : N
  directionalPct : N
  minPriceMoveAtr : N
  minBaselineWindows : N
  minCascadeSeparationMs : N
  maxEventsPerInstrument : ℕ

/-- The liquidations and the last cascade of each instrument. -/
structure CascadeDetector (N : Type) where
  eventsByInstrument : Rows String (List (LiquidationEvent N (LiquidationDetail N)))
  lastCascadeAtByInstrument : Rows String String

/-- A detector that has observed nothing. -/
def CascadeDetector.new {N : Type} : CascadeDetector N := ⟨Rows.empty, Rows.empty⟩

variable {N : Type} [Field N] [LinearOrder N] [FloorRing N] (ar : CascadeArithmetic N N)
  (dateParse : String → Option ℤ) (sqrt : N → N)

/-- `Math.round(value * scale) / scale`. -/
def roundMetric (value : N) (decimals : ℕ) : N :=
  let scale : N := 10 ^ decimals
  ar.number (ar.mathRound (ar.number (value * scale)) / scale)

/-- `Date.parse` of a text passes a test, which NaN does not. -/
def parsedTo (test : N → Bool) (text : String) : Bool := (dateParse text).any fun ms : ℤ => test ms

/-- The notional of a window and its direction. -/
structure WindowAggregate (N : Type) where
  totalNotional : N
  direction : CascadeDirection
  directionalPct : N

/-- The notional liquidated on one side. -/
def sideNotional (side : LiquidationSide)
    (events : List (LiquidationEvent N (LiquidationDetail N))) : N :=
  events.foldl (fun sum event =>
    if event.rest.side = side then ar.number (sum + event.rest.notionalUsd) else sum) 0

/-- The notional of both sides of a window. -/
def aggregateWindow (events : List (LiquidationEvent N (LiquidationDetail N))) :
    WindowAggregate N :=
  let longNotional := sideNotional ar .long events
  let shortNotional := sideNotional ar .short events
  let totalNotional := ar.number (longNotional + shortNotional)
  { totalNotional
    direction := if shortNotional ≤ longNotional then .longLiquidation else .shortLiquidation
    directionalPct :=
      if 0 < totalNotional then ar.number (max longNotional shortNotional / totalNotional) else 0 }

/-- How far a cascade has moved the price. -/
structure PriceImpact (N : Type) where
  priceAtPeak : N
  priceMoveAtr : N

/-- The move of the price, in average ranges. -/
def calculatePriceImpact (events : List (LiquidationEvent N (LiquidationDetail N)))
    (direction : CascadeDirection) (configuredPriceAtStart atr1h : N) : Option (PriceImpact N) :=
  if atr1h ≤ 0 then none
  else
    let firstPrice := (events.find? fun event => 0 < event.price).map LiquidationEvent.price
    match if 0 < configuredPriceAtStart then some configuredPriceAtStart else firstPrice with
    | none => none
    | some priceAtStart =>
      let prices := (events.filter fun event => 0 < event.price).map LiquidationEvent.price
      let priceAtPeak := match direction with
        | .longLiquidation => prices.foldl min priceAtStart
        | .shortLiquidation => prices.foldl max priceAtStart
      let directionalMove := match direction with
        | .longLiquidation => ar.number (priceAtStart - priceAtPeak)
        | .shortLiquidation => ar.number (priceAtPeak - priceAtStart)
      some
        { priceAtPeak := roundMetric ar priceAtPeak 8
          priceMoveAtr := ar.number (max 0 directionalMove / atr1h) }

/-- The mean of the buckets so far and the sum of their squared distances from it. -/
def welford (buckets : List N) : N × N :=
  buckets.zipIdx.foldl (fun (mean, m2) (bucket, index) =>
    let delta := ar.number (bucket - mean)
    let mean := ar.number (mean + ar.number (delta / (index + 1)))
    (mean, ar.number (m2 + ar.number (delta * ar.number (bucket - mean))))) (0, 0)

/-- How far the notional of the window lies above those of the windows of the lookback. -/
def zScore (config : CascadeDetectorConfig N)
    (events : List (LiquidationEvent N (LiquidationDetail N))) (windowStartMs nowMs : N)
    (currentNotional : N) : N :=
  let lookbackStartMs :=
    ar.number (windowStartMs - ar.number (config.lookbackHours * 3600000))
  let historicalWindowCount :=
    ⌊ar.number (ar.number (windowStartMs - lookbackStartMs) / config.windowMs)⌋
  if (historicalWindowCount : N) < config.minBaselineWindows then 0
  else
    let bucketOf (event : LiquidationEvent N (LiquidationDetail N)) : Option ℤ :=
      (dateParse event.observedAt).bind fun eventMs =>
        if (eventMs : N) < lookbackStartMs ∨ windowStartMs ≤ eventMs ∨ nowMs < eventMs then none
        else some ⌊ar.number (ar.number (eventMs - lookbackStartMs) / config.windowMs)⌋
    let buckets := (List.range historicalWindowCount.toNat).map fun index : ℕ =>
      (events.filter fun event => bucketOf event = some (index : ℤ)).foldl
        (fun sum event => ar.number (sum + event.rest.notionalUsd)) 0
    let (mean, m2) := welford ar buckets
    let variance :=
      if 1 < buckets.length then ar.number (m2 / (buckets.length - 1 : ℕ)) else 0
    let stdDev := sqrt (max 0 variance)
    if stdDev = 0 then if mean < currentNotional then 1000000 else 0
    else ar.number (ar.number (currentNotional - mean) / stdDev)

/-- The identifier of a cascade. -/
def cascadeId (instrumentCode : String) (direction : CascadeDirection) (nowMs : ℤ)
    (notionalUsd : N) : String :=
  "cascade:" ++ instrumentCode ++ ":" ++ direction.text ++ ":" ++ toString (nowMs / 1000) ++ ":" ++
    toString ⌊ar.mathRound notionalUsd⌋

/-- The events of the instrument, with a further one and without those out of the lookback. -/
def appendEvent (config : CascadeDetectorConfig N)
    (current : List (LiquidationEvent N (LiquidationDetail N)))
    (event : LiquidationEvent N (LiquidationDetail N)) (nowMs : ℤ) :
    List (LiquidationEvent N (LiquidationDetail N)) :=
  let lookbackMs := ar.number (ar.number (config.lookbackHours * 3600000) + config.windowMs)
  let cutoffMs := ar.number (nowMs - lookbackMs)
  lastOf config.maxEventsPerInstrument ((current ++ [event]).filter fun item =>
    parsedTo dateParse (fun itemMs => cutoffMs ≤ itemMs) item.observedAt)

/-- The cascade that the events of an instrument make up at a time. -/
def detectCascade (config : CascadeDetectorConfig N) (instrumentCode : String)
    (events : List (LiquidationEvent N (LiquidationDetail N))) (nowMs : ℤ)
    (atr1h priceAtStart : N) : Option (CascadeEvent (CascadeDetail N)) :=
  let windowStartMs := ar.number (nowMs - config.windowMs)
  let currentEvents :=
    Sorting.sortBy (fun left right => compareTimes dateParse left.observedAt right.observedAt)
      (events.filter fun item =>
        parsedTo dateParse (fun itemMs => windowStartMs ≤ itemMs && itemMs ≤ nowMs) item.observedAt)
  if currentEvents.length = 0 then none
  else
    let aggregate := aggregateWindow ar currentEvents
    let score :=
      zScore ar dateParse sqrt config events windowStartMs nowMs aggregate.totalNotional
    if aggregate.totalNotional < config.notionalThresholdUsd then none
    else if aggregate.directionalPct < config.directionalPct then none
    else if score < config.zScoreThreshold then none
    else
      (calculatePriceImpact ar currentEvents aggregate.direction priceAtStart atr1h).bind
        fun priceImpact =>
          if priceImpact.priceMoveAtr < config.minPriceMoveAtr then none
          else some
            { cascadeId := cascadeId ar instrumentCode aggregate.direction nowMs
                aggregate.totalNotional
              instrumentCode
              detectedAt := JavaScript.Timestamp.isoText nowMs
              rest :=
                { direction := aggregate.direction
                  priceAtPeak := priceImpact.priceAtPeak
                  liquidationNotional := roundMetric ar aggregate.totalNotional 2
                  liquidationCount := currentEvents.length
                  zScore := roundMetric ar score 4
                  priceMoveAtr := roundMetric ar priceImpact.priceMoveAtr 4
                  directionalPct := roundMetric ar aggregate.directionalPct 4 } }

/-- `observe`, at the time of the event; of an instrument code only ASCII letters are lowered. -/
def CascadeDetector.observe (config : CascadeDetectorConfig N) (detector : CascadeDetector N)
    (event : LiquidationEvent N (LiquidationDetail N)) (atr1h priceAtStart : N) :
    CascadeDetector N × Option (CascadeEvent (CascadeDetail N)) :=
  match dateParse event.observedAt with
  | none => (detector, none)
  | some nowMs =>
    let instrumentCode := event.instrumentCode.toLower
    let events := appendEvent ar dateParse config
      ((detector.eventsByInstrument.get? instrumentCode).getD []) event nowMs
    let detector :=
      { detector with eventsByInstrument := detector.eventsByInstrument.set instrumentCode events }
    let tooSoon := (detector.lastCascadeAtByInstrument.get? instrumentCode).any fun lastCascadeAt =>
      parsedTo dateParse (fun lastMs => ar.number (nowMs - lastMs) < config.minCascadeSeparationMs)
        lastCascadeAt
    if tooSoon then (detector, none)
    else
      match detectCascade ar dateParse sqrt config instrumentCode events nowMs atr1h
        priceAtStart with
      | none => (detector, none)
      | some cascade =>
        ({ detector with
            lastCascadeAtByInstrument :=
              detector.lastCascadeAtByInstrument.set instrumentCode cascade.detectedAt },
          some cascade)

/-- What a detector is stored as. -/
structure CascadeDetectorState (N : Type) where
  schemaVersion : String
  events : List (LiquidationEvent N (LiquidationDetail N))
  lastCascadeAtByInstrument : List (String × String)

/-- The state that a restart finds. -/
def CascadeDetector.serialize (detector : CascadeDetector N) : CascadeDetectorState N where
  schemaVersion := "cascade.detector.v1"
  events := detector.eventsByInstrument.entries.flatMap Prod.snd
  lastCascadeAtByInstrument := detector.lastCascadeAtByInstrument.entries

/-- A restart from a stored state. -/
def CascadeDetector.hydrate (detector : CascadeDetector N) (state : CascadeDetectorState N) :
    CascadeDetector N :=
  if state.schemaVersion ≠ "cascade.detector.v1" then detector
  else
    { eventsByInstrument := state.events.foldl (fun rows event =>
        let key := event.instrumentCode.toLower
        rows.set key ((rows.get? key).getD [] ++ [event])) Rows.empty
      lastCascadeAtByInstrument := state.lastCascadeAtByInstrument.foldl
        (fun rows (instrumentCode, detectedAt) => rows.set instrumentCode.toLower detectedAt)
        Rows.empty }

end Yevow.Cascade
