import Yevow.Models.Cascade.AbsorptionAnalyzer

/-!
# Recovery signals

A signal is emitted on an absorbed cascade once a candle reclaims a level or is impulsive, unless
a gate is shut or the stop is too near or too far. What a backtest holds fixed (the regime, the
news, the volatility percentile and the loss limits) passes its gates.
-/

namespace Yevow.Cascade

open JavaScript (Timestamp)

/-- The thresholds of a signal. -/
structure CascadeRecoverySignalConfig (N : Type) where
  entryWindowSeconds : N
  impulsiveBarBodyAtr : N
  impulsiveBarVolumeMult : N
  stopBufferAtr : N
  minStopDistanceBps : N
  maxStopDistanceBps : N
  minTimeSinceLastCascadeSeconds : N
  maxRealizedVolPercentile : N
  timeStopHours : N
  partial1R : N
  partial1SizePct : N
  partial2R : N
  partial2SizePct : N
  runnerTrailingType : TrailingType
  runnerTrailingParam : N

/-- What a candle did to trigger a signal. -/
inductive CascadeRecoveryTriggerType
  | structuralReclaim
  | vwapReclaim
  | impulsiveBar
  deriving DecidableEq

def CascadeRecoveryTriggerType.text : CascadeRecoveryTriggerType → String
  | .structuralReclaim => "STRUCTURAL_RECLAIM"
  | .vwapReclaim => "VWAP_RECLAIM"
  | .impulsiveBar => "IMPULSIVE_BAR"

/-- A stop and its distance. -/
structure Stop (N : Type) where
  stopPrice : N
  distanceBps : N

variable {N : Type} [Field N] [LinearOrder N] (ar : CascadeArithmetic N N)

/-- A recovery takes the side that was liquidated. -/
def recoveryDirection : CascadeDirection → CascadeRecoveryDirection
  | .shortLiquidation => .short
  | .longLiquidation => .long

/-! ## Triggers -/

/-- `left < right` of two texts. -/
def textBefore (left right : String) : Bool := Text.codeUnits left < Text.codeUnits right

/-- The closed candles before another. -/
def priorCandles (candles : List (ReplayCandle N)) (reclaimCandle : ReplayCandle N) :
    List (ReplayCandle N) :=
  candles.filter fun candle => candle.isClosed && textBefore candle.closedAt reclaimCandle.closedAt

/-- A level is reclaimed by a close beyond it, unless the candle before closed there already. -/
def reclaims (direction : CascadeRecoveryDirection) (level : Option N)
    (candles : List (ReplayCandle N)) (reclaimCandle : ReplayCandle N) : Bool :=
  level.any fun level =>
    let previousClose := (priorCandles candles reclaimCandle).getLast?.map ReplayCandle.close
    match direction with
    | .long => level < reclaimCandle.close && previousClose.all fun close => close ≤ level
    | .short => reclaimCandle.close < level && previousClose.all fun close => level ≤ close

/-- The volume of the last twenty candles before. -/
def averagePriorVolume (candles : List (ReplayCandle N)) (reclaimCandle : ReplayCandle N) : N :=
  let prior := lastOf 20 (priorCandles candles reclaimCandle)
  if prior.length = 0 then 0
  else
    ar.number (prior.foldl (fun total candle => ar.number (total + candle.volume)) 0 / prior.length)

/-- A candle with a large body, a strong close and volume. -/
def impulsiveBar (config : CascadeRecoverySignalConfig N) (direction : CascadeRecoveryDirection)
    (atr1m : Option N) (candles : List (ReplayCandle N)) (candle : ReplayCandle N) : Bool :=
  atr1m.any fun atr1m =>
    if atr1m ≤ 0 then false
    else
      let body := |ar.number (candle.close - candle.«open»)|
      let range := max 0 (ar.number (candle.high - candle.low))
      let closeLocation :=
        if 0 < range then ar.number (ar.number (candle.close - candle.low) / range) else 1 / 2
      let averageVolume := averagePriorVolume ar candles candle
      let directionalCloseOk := match direction with
        | .long => ar.number (2 / 3) ≤ closeLocation
        | .short => closeLocation ≤ ar.number (1 / 3)
      decide (ar.number (config.impulsiveBarBodyAtr * atr1m) ≤ body) && directionalCloseOk &&
        0 < averageVolume &&
        ar.number (config.impulsiveBarVolumeMult * averageVolume) ≤ candle.volume

variable {C A : Type} (config : CascadeRecoverySignalConfig N)

/-- The first trigger that passes. -/
def selectedTrigger (input : SignalInput N C A) (direction : CascadeRecoveryDirection) :
    Option CascadeRecoveryTriggerType :=
  let swingLevel := match direction with
    | .long => input.preCascadeSwingLow
    | .short => input.preCascadeSwingHigh
  if reclaims direction swingLevel input.recent1mCandles input.reclaimCandle then
    some .structuralReclaim
  else if reclaims direction input.cascadeVwap input.recent1mCandles input.reclaimCandle then
    some .vwapReclaim
  else if impulsiveBar ar config direction input.atr1m input.recent1mCandles
      input.reclaimCandle then
    some .impulsiveBar
  else none

/-! ## Gates -/

variable (dateParse : String → Option ℤ)

/-- `(Date.parse(left) - Date.parse(right)) / 1_000`. -/
def secondsBetween (left right : String) : Option N := do
  let leftMs ← dateParse left
  let rightMs ← dateParse right
  return ar.number (((leftMs - rightMs : ℤ) : N) / 1000)

/-- The gates that are shut, by their names. -/
def shutGates (input : SignalInput N C A) (direction : CascadeRecoveryDirection)
    (emittedAt : String) (trigger : Option CascadeRecoveryTriggerType) : List String :=
  let entryWindow := (secondsBetween ar dateParse emittedAt input.absorption.confirmedAt).any
    fun seconds => 0 ≤ seconds && seconds ≤ config.entryWindowSeconds
  let cvdAligned := match direction with
    | .long => decide (0 < input.cvd1m)
    | .short => decide (input.cvd1m < 0)
  let secondCascade := match input.recentSecondCascadeAt with
    | none => true
    | some cascadeAt => (secondsBetween ar dateParse emittedAt cascadeAt).any
        fun seconds => config.minTimeSinceLastCascadeSeconds ≤ seconds
  ([("entryWindow", entryWindow), ("triggerPresent", trigger.isSome),
    ("cvdAlignment", cvdAligned),
    ("openInterest", input.openInterestDelta.any fun delta => 0 ≤ delta),
    ("secondCascade", secondCascade),
    ("realizedVolatility", decide (1 / 2 ≤ config.maxRealizedVolPercentile))].filter
      fun gate => !gate.2).map Prod.fst

/-! ## Stops and targets -/

variable [FloorRing N]

/-- The stop beyond the peak of a cascade. -/
def calculateStop (priceAtPeak : N) (direction : CascadeRecoveryDirection) (atr1h : Option N)
    (entryPrice : N) : Option (Stop N) :=
  atr1h.bind fun atr1h =>
    if atr1h ≤ 0 ∨ entryPrice ≤ 0 then none
    else
      let buffer := ar.number (config.stopBufferAtr * atr1h)
      let stopPrice := match direction with
        | .long => ar.number (priceAtPeak - buffer)
        | .short => ar.number (priceAtPeak + buffer)
      let rDistance := match direction with
        | .long => ar.number (entryPrice - stopPrice)
        | .short => ar.number (stopPrice - entryPrice)
      if rDistance ≤ 0 then none
      else some ⟨roundMetric ar stopPrice 8, ar.number (ar.number (rDistance / entryPrice) * 10000)⟩

/-- Why the stop does not pass, if it does not. -/
def stopRejection : Option (Stop N) → Option String
  | none => some "STOP_UNAVAILABLE"
  | some stop =>
    if config.minStopDistanceBps ≤ stop.distanceBps ∧
        stop.distanceBps ≤ config.maxStopDistanceBps then none
    else some "STOP_DISTANCE_BPS"

/-- A price at a multiple of the risk. -/
def targetPrice (direction : CascadeRecoveryDirection) (entryPrice rDistance multiple : N) : N :=
  let distance := ar.number (rDistance * multiple)
  match direction with
  | .long => roundMetric ar (ar.number (entryPrice + distance)) 8
  | .short => roundMetric ar (ar.number (entryPrice - distance)) 8

/-- `hashString`. -/
def signalHash (value : String) : String :=
  let hash := (Text.codeUnits value).foldl
    (fun hash code => ((hash ^^^ code) * 16777619) % 2 ^ 32) 2166136261
  String.ofList (Nat.toDigits 16 hash)

/-- The identifier of a signal. -/
def signalId (cascadeId : String) (triggerType : CascadeRecoveryTriggerType) (emittedAt : String) :
    String :=
  "signal:" ++ signalHash (cascadeId ++ ":" ++ triggerType.text ++ ":" ++ emittedAt)

/-- `new Date(Date.parse(emittedAt) + timeStopHours * 3_600_000).toISOString()`, for a time stop
within the range of dates. -/
def timeStopText (emittedAt : String) : String :=
  match dateParse emittedAt with
  | none => "Invalid Date"
  | some emittedMs =>
    let stopMs := ar.number (emittedMs + ar.number (config.timeStopHours * 3600000))
    Timestamp.isoText (if 0 ≤ stopMs then ⌊stopMs⌋ else ⌈stopMs⌉)

/-- A signal with its stop and targets. -/
def recoverySignal (input : SignalInput N (CascadeDetail N) A)
    (direction : CascadeRecoveryDirection) (triggerType : CascadeRecoveryTriggerType)
    (stop : Stop N) (emittedAt : String) : EmittedSignal N :=
  let entryPrice := roundMetric ar input.reclaimCandle.close 8
  let rDistance := roundMetric ar |ar.number (entryPrice - stop.stopPrice)| 8
  { signalId := signalId input.cascade.cascadeId triggerType emittedAt
    cascadeId := input.cascade.cascadeId
    instrumentCode := input.cascade.instrumentCode
    direction
    entryPrice
    stopPrice := stop.stopPrice
    rDistance
    targets :=
      { partial1 := ⟨targetPrice ar direction entryPrice rDistance config.partial1R,
          config.partial1R, config.partial1SizePct⟩
        partial2 := ⟨targetPrice ar direction entryPrice rDistance config.partial2R,
          config.partial2R, config.partial2SizePct⟩
        runner := ⟨config.runnerTrailingType, config.runnerTrailingParam,
          max 0 (ar.number (ar.number (100 - config.partial1SizePct) - config.partial2SizePct))⟩ }
    timeStopAt := timeStopText ar config dateParse emittedAt
    emittedAt }

/-- The signal, or the reasons against it. `now` is the time of the clock, which a signal is dated
by whose own time is none. -/
def evaluateRecoverySignal (now : String) (input : SignalInput N (CascadeDetail N) A) :
    Except (List String) (EmittedSignal N) :=
  let emittedAt := (dateParse input.observedAt).elim now Timestamp.isoText
  let direction := recoveryDirection input.cascade.rest.direction
  let trigger := selectedTrigger ar config input direction
  let stop := calculateStop ar config input.cascade.rest.priceAtPeak direction input.atr1h
    input.reclaimCandle.close
  let reasons := shutGates ar config dateParse input direction emittedAt trigger ++
    (stopRejection config stop).toList
  match reasons, trigger, stop with
  | [], some triggerType, some stop =>
    .ok (recoverySignal ar config dateParse input direction triggerType stop emittedAt)
  | reasons, none, _ => .error ("NO_ENTRY_TRIGGER" :: reasons)
  | reasons, some _, _ => .error reasons

/-! ## The strategy of a backtest -/

/-- The settings of the components that a backtest builds. -/
structure CascadeStrategyConfig (N : Type) where
  /-- `detectorConfigForInstrument`. -/
  detector : String → CascadeDetectorConfig N
  analyzer : AbsorptionAnalyzerConfig N
  signal : CascadeRecoverySignalConfig N

/-- The detector, the analyzer and the signal engine of a backtest. -/
def cascadeStrategy (sqrt : N → N) (now : String) (config : CascadeStrategyConfig N)
    (dateParse_isoText : ∀ text ms, dateParse text = some ms →
      dateParse (Timestamp.isoText ms) = some ms) : Strategy dateParse N where
  LiquidationDetail := LiquidationDetail N
  CascadeDetail := CascadeDetail N
  AbsorptionDetail := AbsorptionDetail N
  Detector := CascadeDetector N
  Analyzer := AbsorptionAnalyzer N
  Rejection := List String
  newDetector := CascadeDetector.new
  newAnalyzer := AbsorptionAnalyzer.new
  observeLiquidation detector liquidation atr1h priceAtStart :=
    detector.observe ar dateParse sqrt (config.detector liquidation.instrumentCode) liquidation
      atr1h priceAtStart
  trackCascade analyzer cascade := analyzer.trackCascade dateParse config.analyzer cascade
  observeCandle analyzer observation :=
    analyzer.observe ar dateParse config.analyzer observation
  evaluate := evaluateRecoverySignal ar config.signal dateParse now
  dateParse_emittedAt := by
    intro input signal hsignal ms hms
    unfold evaluateRecoverySignal at hsignal
    dsimp only at hsignal
    split at hsignal
    · obtain rfl := Except.ok.inj hsignal
      show dateParse ((dateParse input.observedAt).elim now Timestamp.isoText) = some ms
      rw [hms]
      exact dateParse_isoText _ _ hms
    · exact nomatch hsignal
    · exact nomatch hsignal

end Yevow.Cascade
