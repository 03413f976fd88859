import Yevow.Core.Text.CodeUnits
import Yevow.Models.Cascade.HeatManager

/-!
# Backtests of the cascade strategy

Candles and liquidations are replayed in the order of their times. What detects cascades,
confirms their absorption and emits signals may be any deterministic components; the replay, the
lookups of recent data, the sizing, the simulated fills and the equity are the backtester's.
Statistics, validation checks and the texts of the report are left out.
-/

namespace Yevow.Cascade

section Data

/-- A closed one-minute candle. -/
structure ReplayCandle (N : Type) where
  instrumentCode : String
  openedAt : String
  closedAt : String
  «open» : N
  high : N
  low : N
  close : N
  volume : N
  notionalVolume : N
  buyVolume : N
  sellVolume : N
  isClosed : Bool
  deriving DecidableEq

/-- A row of open interest. -/
structure OpenInterestPoint (N : Type) where
  instrumentCode : String
  observedAt : String
  openInterest : N
  delta : N
  deriving DecidableEq

/-- A liquidation; `R` holds what only the detector reads. -/
structure LiquidationEvent (N R : Type) where
  instrumentCode : String
  price : N
  observedAt : String
  rest : R

/-- A detected cascade. -/
structure CascadeEvent (R : Type) where
  cascadeId : String
  instrumentCode : String
  detectedAt : String
  rest : R

/-- A confirmed absorption. -/
structure AbsorptionConfirmed (R : Type) where
  cascadeId : String
  instrumentCode : String
  confirmedAt : String
  rest : R

/-- What is observed of an instrument between two candles. -/
structure AbsorptionObservation (N : Type) where
  instrumentCode : String
  observedAt : String
  price : N
  takerBuyVolume : N
  takerSellVolume : N
  cumulativeVolumeDelta : N
  openInterest : Option N

/-- What a signal is evaluated on; inputs that a backtest holds fixed are left out. -/
structure SignalInput (N C A : Type) where
  cascade : CascadeEvent C
  absorption : AbsorptionConfirmed A
  reclaimCandle : ReplayCandle N
  recent1mCandles : List (ReplayCandle N)
  atr1m : Option N
  atr1h : Option N
  preCascadeSwingLow : Option N
  preCascadeSwingHigh : Option N
  cascadeVwap : Option N
  cvd1m : N
  openInterestDelta : Option N
  recentSecondCascadeAt : Option String
  observedAt : String

/-- A signal and the moment it was emitted. -/
structure EmittedSignal (N : Type) extends CascadeRecoverySignal N N where
  emittedAt : String

/-- What the replay asks of the strategy. A signal is emitted at the time it is evaluated for. -/
structure Strategy (dateParse : String → Option ℤ) (N : Type) where
  LiquidationDetail : Type
  CascadeDetail : Type
  AbsorptionDetail : Type
  Detector : Type
  Analyzer : Type
  Rejection : Type
  newDetector : Detector
  newAnalyzer : Analyzer
  /-- `configure` for the instrument, then `observe` with the range and the price at the start. -/
  observeLiquidation : Detector → LiquidationEvent N LiquidationDetail → N → N →
    Detector × Option (CascadeEvent CascadeDetail)
  trackCascade : Analyzer → CascadeEvent CascadeDetail → Analyzer
  observeCandle : Analyzer → AbsorptionObservation N →
    Analyzer × Option (AbsorptionConfirmed AbsorptionDetail)
  evaluate : SignalInput N CascadeDetail AbsorptionDetail → Except Rejection (EmittedSignal N)
  dateParse_emittedAt : ∀ {input signal}, evaluate input = .ok signal →
    ∀ {ms}, dateParse input.observedAt = some ms → dateParse signal.emittedAt = some ms

/-- What an observation without open interest counts as. -/
inductive MissingOpenInterestPolicy
  | block
  | assumeStable
  deriving DecidableEq

/-- The normalized settings that the replay reads itself. -/
structure BacktestConfig (N : Type) where
  feeBps : N
  slippageBps : N
  adverseSelectionMinBps : N
  adverseSelectionMaxBps : N
  riskPerTradePct : N
  heatCapPct : N
  /-- The notional share and the liquidity cap in the profile of an instrument. -/
  assetProfile : String → N × N
  missingOpenInterestPolicy : MissingOpenInterestPolicy

/-- The side of a booked trade. -/
inductive TradeSide
  | buy
  | sell
  deriving DecidableEq

/-- Whether a trade opens a position or closes some of it. -/
inductive TradeStatus
  | entry
  | exit
  deriving DecidableEq

/-- A booked trade. -/
structure BacktestTrade (N : Type) where
  tradeId : String
  instrumentCode : String
  side : TradeSide
  status : TradeStatus
  cascadeId : String
  signalId : String
  entryAt : String
  exitAt : String
  entryPrice : N
  exitPrice : N
  size : N
  pnl : N
  rMultiple : Option N
  fees : N
  slippageBps : N
  deriving DecidableEq

end Data

/-! ## Indicators -/

section Indicators

variable {N : Type} [Field N] [LinearOrder N] (ar : CascadeArithmetic N N)

/-- The range of a candle and the close before it. -/
def trueRange (candle : ReplayCandle N) : Option N → N
  | none => ar.number (candle.high - candle.low)
  | some previousClose =>
    max (max (ar.number (candle.high - candle.low)) |ar.number (candle.high - previousClose)|)
      |ar.number (candle.low - previousClose)|

/-- The true range of each candle. -/
def trueRanges (candles : List (ReplayCandle N)) : List N :=
  candles.zipWith (fun candle previous => trueRange ar candle previous)
    (none :: candles.map fun candle => some candle.close)

/-- The average true range, smoothed over a period. -/
def calculateAtr (candles : List (ReplayCandle N)) (period : ℕ) : Option N :=
  if period = 0 ∨ candles.length < period then none
  else
    let ranges := trueRanges ar candles
    let seed := ar.number
      ((ranges.take period).foldl (fun sum value => ar.number (sum + value)) 0 / period)
    some ((ranges.drop period).foldl (fun atr range =>
      ar.number (ar.number (ar.number (atr * (period - 1)) + range) / period)) seed)

/-- Bought less sold volume over the candles. -/
def cumulativeVolumeDelta (candles : List (ReplayCandle N)) : N :=
  candles.foldl (fun cvd candle =>
    ar.number (cvd + ar.number (candle.buyVolume - candle.sellVolume))) 0

/-- The average price, weighted by volume. -/
def calculateVwap (candles : List (ReplayCandle N)) : Option N :=
  let notional := candles.foldl (fun sum candle => ar.number (sum + candle.notionalVolume)) 0
  let volume := candles.foldl (fun sum candle => ar.number (sum + candle.volume)) 0
  if 0 < volume then some (ar.number (notional / volume)) else none

/-- The last `count` items. -/
def lastOf {α : Type} (count : ℕ) (items : List α) : List α := items.drop (items.length - count)

/-- The lowest of the last twenty closed candles. -/
def recentSwingLow (candles : List (ReplayCandle N)) : Option N :=
  ((lastOf 20 (candles.filter (·.isClosed))).map ReplayCandle.low).min?

/-- The highest of the last twenty closed candles. -/
def recentSwingHigh (candles : List (ReplayCandle N)) : Option N :=
  ((lastOf 20 (candles.filter (·.isClosed))).map ReplayCandle.high).max?

end Indicators

/-! ## Times -/

section Times

variable (dateParse : String → Option ℤ)

/-- `Date.parse(left) <= Date.parse(right)`. -/
def atOrBefore (left right : String) : Bool :=
  match dateParse left, dateParse right with
  | some left, some right => left ≤ right
  | _, _ => false

/-- `Date.parse(left) > Date.parse(right)`. -/
def isAfter (left right : String) : Bool :=
  match dateParse left, dateParse right with
  | some left, some right => right < left
  | _, _ => false

/-- `Date.parse(left) - Date.parse(right)`, where a sort takes NaN for zero. -/
def compareTimes (left right : String) : ℤ :=
  match dateParse left, dateParse right with
  | some left, some right => left - right
  | _, _ => 0

end Times

/-! ## The replay -/

section Replay

variable (dateParse : String → Option ℤ) {N : Type} [Field N] [LinearOrder N]
  (ar : CascadeArithmetic N N) (sqrt : N → N)

/-! ### Data -/

/-- What a replay reads and never writes. -/
structure ReplayData (N : Type) where
  config : BacktestConfig N
  candles : List (ReplayCandle N)
  openInterest : List (OpenInterestPoint N)
  slippageSamples : List N

/-- What a backtest replays. -/
inductive TimelineEvent (N R : Type)
  | liquidation (liquidation : LiquidationEvent N R)
  | candle (candle : ReplayCandle N)

/-- The moment an event is replayed at. -/
def TimelineEvent.observedAt {N R : Type} : TimelineEvent N R → String
  | .liquidation event => event.observedAt
  | .candle event => event.closedAt

/-- Candles and liquidations in order of time. -/
def timeline {R : Type} (candles : List (ReplayCandle N))
    (liquidations : List (LiquidationEvent N R)) : List (TimelineEvent N R) :=
  Sorting.sortBy (fun left right => compareTimes dateParse left.observedAt right.observedAt)
    (liquidations.map .liquidation ++ candles.map .candle)

/-- A stored slippage. -/
structure ExecutionQualityRow (N : Type) where
  observedAt : String
  instrumentCode : String
  slippageBps : N

/-- The request of a backtest. Its instruments are normalized. -/
structure BacktestInput (N R : Type) where
  fromDate : String
  toDate : String
  instruments : List String
  startingEquity : N
  /-- The strategy mode is neither `OFF` nor `MARKET_MAKING`. -/
  enabled : Bool
  config : BacktestConfig N
  candles : List (ReplayCandle N)
  liquidations : List (LiquidationEvent N R)
  openInterest : List (OpenInterestPoint N)

/-- The stored one-minute candles, liquidations and execution qualities. -/
structure BacktestTables (N R : Type) where
  candles : List (ReplayCandle N)
  cascadeLiquidations : List (LiquidationEvent N R)
  executionQuality : List (ExecutionQualityRow N)

/-- The closed candles of the instruments asked for. -/
def sanitizeCandles (candles : List (ReplayCandle N)) (instruments : List String) :
    List (ReplayCandle N) :=
  (candles.filter fun candle =>
    instruments.contains candle.instrumentCode.toLower && candle.isClosed).map fun candle =>
      { candle with instrumentCode := candle.instrumentCode.toLower }

/-- The liquidations of the instruments asked for. -/
def sanitizeLiquidations {R : Type} (liquidations : List (LiquidationEvent N R))
    (instruments : List String) : List (LiquidationEvent N R) :=
  (liquidations.filter fun event => instruments.contains event.instrumentCode.toLower).map
    fun event => { event with instrumentCode := event.instrumentCode.toLower }

/-- The open interest of the instruments asked for. -/
def sanitizeOpenInterest (points : List (OpenInterestPoint N)) (instruments : List String) :
    List (OpenInterestPoint N) :=
  (points.filter fun point => instruments.contains point.instrumentCode.toLower).map
    fun point => { point with instrumentCode := point.instrumentCode.toLower }

/-- The order of two texts in a query. -/
def compareTexts (left right : String) : ℤ :=
  if left < right then -1 else if left = right then 0 else 1

/-- The order of two keys of two columns. -/
def compareColumns (left right : String × String) : ℤ :=
  if left.1 = right.1 then compareTexts left.2 right.2 else compareTexts left.1 right.1

namespace BacktestInput

variable {R : Type} (input : BacktestInput N R)

/-- `observed_at >= ? AND observed_at <= ?`. -/
def spans (observedAt : String) : Bool := input.fromDate ≤ observedAt && observedAt ≤ input.toDate

/-- The stored candles of the instruments and dates asked for. -/
def loadCandles (candles : List (ReplayCandle N)) : List (ReplayCandle N) :=
  (Sorting.sortBy (fun left right => compareColumns (left.instrumentCode, left.closedAt)
    (right.instrumentCode, right.closedAt)) (candles.filter fun candle =>
      input.spans candle.closedAt && input.instruments.contains candle.instrumentCode)).map
    fun candle => { candle with instrumentCode := candle.instrumentCode.toLower }

/-- The stored liquidations of the instruments and dates asked for. -/
def loadLiquidations (liquidations : List (LiquidationEvent N R)) :
    List (LiquidationEvent N R) :=
  (Sorting.sortBy (fun left right => compareTexts left.observedAt right.observedAt)
    (liquidations.filter fun event =>
      input.spans event.observedAt && input.instruments.contains event.instrumentCode)).map
    fun event => { event with instrumentCode := event.instrumentCode.toLower }

/-- The first stored slippages, in order of time. -/
def loadSlippageSamples (rows : List (ExecutionQualityRow N)) : List N :=
  ((Sorting.sortBy (fun left right => compareTexts left.observedAt right.observedAt)
    (rows.filter fun row =>
      input.spans row.observedAt && input.instruments.contains row.instrumentCode)).take
    5000).map fun row => |row.slippageBps|

variable (tables : BacktestTables N R)

/-- Stored candles are read only where the request brings none along. -/
def allCandles : List (ReplayCandle N) :=
  let requestedCandles := sanitizeCandles input.candles input.instruments
  let d1Candles := if 0 < requestedCandles.length then [] else input.loadCandles tables.candles
  Sorting.sortBy (fun left right => compareTimes dateParse left.closedAt right.closedAt)
    (requestedCandles ++ d1Candles)

/-- The liquidations of the request, or else the stored ones. -/
def allLiquidations : List (LiquidationEvent N R) :=
  let requestedLiquidations := sanitizeLiquidations input.liquidations input.instruments
  let d1Liquidations :=
    if 0 < requestedLiquidations.length then []
    else input.loadLiquidations tables.cascadeLiquidations
  Sorting.sortBy (fun left right => compareTimes dateParse left.observedAt right.observedAt)
    (requestedLiquidations ++ d1Liquidations)

/-- The candles and tables that a run reads. -/
def replayData : ReplayData N where
  config := input.config
  candles := input.allCandles dateParse tables
  openInterest :=
    Sorting.sortBy (fun left right => compareTimes dateParse left.observedAt right.observedAt)
      (sanitizeOpenInterest input.openInterest input.instruments)
  slippageSamples := input.loadSlippageSamples tables.executionQuality

end BacktestInput

variable (data : ReplayData N)

/-! ### Rows up to a time -/

/-- The candles of an instrument in `candlesByInstrument`, up to a time. -/
def recentCandles (instrumentCode observedAt : String) (count : ℕ) : List (ReplayCandle N) :=
  lastOf count ((data.candles.filter fun candle =>
    candle.instrumentCode.toLower = instrumentCode.toLower).filter fun candle =>
      atOrBefore dateParse candle.closedAt observedAt)

/-- The points of an instrument in `openInterestByInstrument`, up to a time. -/
def openInterestUntil (instrumentCode observedAt : String) : List (OpenInterestPoint N) :=
  (data.openInterest.filter fun point =>
    point.instrumentCode.toLower = instrumentCode.toLower).filter fun point =>
      atOrBefore dateParse point.observedAt observedAt

/-- The first of the latest points. -/
def latestOpenInterest (instrumentCode observedAt : String) : Option (OpenInterestPoint N) :=
  (openInterestUntil dateParse data instrumentCode observedAt).foldl
    (fun selected point =>
      if selected.all fun best => isAfter dateParse point.observedAt best.observedAt
      then some point else selected) none

/-- The last change of open interest up to a moment. -/
def openInterestDeltaAt (instrumentCode observedAt : String) : Option N :=
  (openInterestUntil dateParse data instrumentCode observedAt).getLast?.map
    OpenInterestPoint.delta

/-- The tick of a closed candle. -/
def candleTick (candle : ReplayCandle N) : PositionManagerTick N where
  instrumentCode := candle.instrumentCode
  price := candle.close
  observedAt := candle.closedAt
  candles := (recentCandles dateParse data candle.instrumentCode candle.closedAt 64).map
    fun recent => ⟨recent.close⟩
  atr := calculateAtr ar
    (recentCandles dateParse data candle.instrumentCode candle.closedAt 32) 14

variable {dateParse} (strategy : Strategy dateParse N)

/-- What a replay keeps up to date. -/
structure ReplayRuntime {dateParse : String → Option ℤ} {N : Type}
    (strategy : Strategy dateParse N) where
  positionManager : PositionManager N N
  detector : strategy.Detector
  absorptionAnalyzer : strategy.Analyzer
  cascadesById : Rows String (CascadeEvent strategy.CascadeDetail)
  absorptionsById : Rows String (AbsorptionConfirmed strategy.AbsorptionDetail)
  cvdByInstrument : Rows String N
  entryPriceByPosition : Rows String N

/-- The state before the first event. -/
def createRuntime : ReplayRuntime strategy :=
  ⟨PositionManager.new, strategy.newDetector, strategy.newAnalyzer, Rows.empty, Rows.empty,
    Rows.empty, Rows.empty⟩

/-- The last absorption of an instrument. -/
def latestAbsorption (runtime : ReplayRuntime strategy) (instrumentCode : String) :
    Option (AbsorptionConfirmed strategy.AbsorptionDetail) :=
  runtime.absorptionsById.entries.foldl (fun selected entry =>
    if entry.2.instrumentCode ≠ instrumentCode.toLower then selected
    else if selected.all fun best => isAfter dateParse entry.2.confirmedAt best.confirmedAt
      then some entry.2 else selected) none

/-- When the last other cascade of the instrument was detected. -/
def latestOtherCascadeAt (runtime : ReplayRuntime strategy)
    (current : CascadeEvent strategy.CascadeDetail) : Option String :=
  runtime.cascadesById.entries.foldl (fun selected entry =>
    if entry.2.cascadeId = current.cascadeId ∨ entry.2.instrumentCode ≠ current.instrumentCode
    then selected
    else if selected.all fun best => best = "" ∨ isAfter dateParse entry.2.detectedAt best
      then some entry.2.detectedAt else selected) none

/-! ### Simulated fills -/

/-- A text as an index. -/
def hashToIndex (value : String) (modulo : ℕ) : ℕ :=
  (Text.codeUnits value).foldl (fun hash code => (hash * 31 + code) % modulo) 0

/-- The stored slippage that a trade is given. -/
def empiricalSlippage (samples : List N) (instrumentCode observedAt : String) : Option N :=
  if samples.length = 0 then none
  else samples[hashToIndex (instrumentCode ++ ":" ++ observedAt ++ ":slippage") samples.length]?

/-- The adverse selection that a trade is given. -/
def deterministicAdverseSelectionBps (config : BacktestConfig N)
    (instrumentCode observedAt : String) : N :=
  let span := max 0 (ar.number (config.adverseSelectionMaxBps - config.adverseSelectionMinBps))
  let share := ar.number
    ((hashToIndex (instrumentCode ++ ":" ++ observedAt) 10000 : N) / 10000)
  ar.number (config.adverseSelectionMinBps + ar.number (share * span))

/-- The slippage of a trade. -/
def simulatedSlippageBps (instrumentCode observedAt : String) : N :=
  let empirical := empiricalSlippage data.slippageSamples instrumentCode observedAt
  let adverse := deterministicAdverseSelectionBps ar data.config instrumentCode observedAt
  max 0 (ar.number (empirical.getD data.config.slippageBps + adverse))

/-- A price after slippage. -/
def applySlippage (price : N) (side : TradeSide) (slippageBps : N) : N :=
  match side with
  | .buy => ar.number (price * ar.number (1 + ar.number (slippageBps / 10000)))
  | .sell => ar.number (price * ar.number (1 - ar.number (slippageBps / 10000)))

/-- `fillPrice * size * (feeBps / 10_000)`. -/
def fillFees (fillPrice size : N) : N :=
  ar.number (ar.number (fillPrice * size) * ar.number (data.config.feeBps / 10000))

/-- The side that opens a position. -/
def CascadeRecoveryDirection.entrySide : CascadeRecoveryDirection → TradeSide
  | .long => .buy
  | .short => .sell

/-- The side that closes a position. -/
def CascadeRecoveryDirection.exitSide : CascadeRecoveryDirection → TradeSide
  | .long => .sell
  | .short => .buy

/-- The trade that opens a position. -/
def entryTrade (signal : EmittedSignal N) (size : N) (candle : ReplayCandle N) :
    BacktestTrade N :=
  let side := signal.direction.entrySide
  let slippageBps := simulatedSlippageBps ar data signal.instrumentCode signal.emittedAt
  let fillPrice := applySlippage ar signal.entryPrice side slippageBps
  let fees := fillFees ar data fillPrice size
  { tradeId := "bt-entry-" ++ signal.signalId
    instrumentCode := signal.instrumentCode
    side
    status := .entry
    cascadeId := signal.cascadeId
    signalId := signal.signalId
    entryAt := candle.closedAt
    exitAt := candle.closedAt
    entryPrice := ar.toFixed fillPrice
    exitPrice := ar.toFixed fillPrice
    size := ar.toFixed size
    pnl := ar.toFixed (-fees)
    rMultiple := some 0
    fees := ar.toFixed fees
    slippageBps := ar.toFixed slippageBps }

/-- The close of a part of a position; the id of the trade also shows the size. -/
def closeTrade (entryPriceByPosition : Rows String N) (position : CascadeOpenPosition N N)
    (closeSize : N) (candle : ReplayCandle N) : BacktestTrade N :=
  let side := position.direction.exitSide
  let slippageBps := simulatedSlippageBps ar data position.instrumentCode candle.closedAt
  let fillPrice := applySlippage ar candle.close side slippageBps
  let entryPrice := (entryPriceByPosition.get? position.positionId).getD position.entryPrice
  let grossPnl := match position.direction with
    | .long => ar.number (ar.number (fillPrice - entryPrice) * closeSize)
    | .short => ar.number (ar.number (entryPrice - fillPrice) * closeSize)
  let fees := fillFees ar data fillPrice closeSize
  { tradeId := "bt-exit-" ++ position.positionId ++ "-" ++ candle.closedAt
    instrumentCode := position.instrumentCode
    side
    status := .exit
    cascadeId := position.cascadeId
    signalId := position.signalId
    entryAt := position.enteredAt.getD position.updatedAt
    exitAt := candle.closedAt
    entryPrice := ar.toFixed entryPrice
    exitPrice := ar.toFixed fillPrice
    size := ar.toFixed closeSize
    pnl := ar.toFixed (ar.number (grossPnl - fees))
    rMultiple :=
      if 0 < position.rDistance ∧ 0 < closeSize then
        some (ar.toFixed (ar.number (grossPnl / ar.number (position.rDistance * closeSize))))
      else none
    fees := ar.toFixed fees
    slippageBps := ar.toFixed slippageBps }

/-! ### Events -/

/-- A liquidation reaches the detector. -/
def processLiquidation (liquidation : LiquidationEvent N strategy.LiquidationDetail)
    (runtime : ReplayRuntime strategy) : ReplayRuntime strategy :=
  let recent := recentCandles dateParse data liquidation.instrumentCode
    liquidation.observedAt 64
  let atr1h :=
    (calculateAtr ar recent 14).getD (ar.number (liquidation.price * ar.number (1 / 100)))
  let priceAtStart := (recent.getLast?.map ReplayCandle.close).getD liquidation.price
  let (detector, detected) :=
    strategy.observeLiquidation runtime.detector liquidation atr1h priceAtStart
  match detected with
  | none => { runtime with detector }
  | some cascade =>
    { runtime with
      detector
      absorptionAnalyzer := strategy.trackCascade runtime.absorptionAnalyzer cascade
      cascadesById := runtime.cascadesById.set cascade.cascadeId cascade }

/-- The trades of the intents that a tick gives. -/
def closeTrades (entryPriceByPosition : Rows String N) (candle : ReplayCandle N)
    (updates : List (PositionManagerUpdate N N)) : List (BacktestTrade N) :=
  updates.flatMap fun update =>
    (update.intents.filter fun intent => intent.kind = .close ∧ 0 < intent.size).map fun intent =>
      closeTrade ar data entryPriceByPosition update.position intent.size candle

/-- A candle reaches the analyzer. -/
def observeAbsorption (candle : ReplayCandle N) (runtime : ReplayRuntime strategy) :
    ReplayRuntime strategy :=
  let instrument := candle.instrumentCode.toLower
  let previousCvd := (runtime.cvdByInstrument.get? instrument).getD 0
  let nextCvd := ar.number (ar.number (previousCvd + ar.number (candle.buyVolume * candle.close)) -
    ar.number (candle.sellVolume * candle.close))
  let (absorptionAnalyzer, confirmed) := strategy.observeCandle runtime.absorptionAnalyzer
    { instrumentCode := instrument
      observedAt := candle.closedAt
      price := candle.close
      takerBuyVolume := max 0 candle.buyVolume
      takerSellVolume := max 0 candle.sellVolume
      cumulativeVolumeDelta := nextCvd
      openInterest :=
        (latestOpenInterest dateParse data instrument candle.closedAt).map
          OpenInterestPoint.openInterest }
  { runtime with
    cvdByInstrument := runtime.cvdByInstrument.set instrument nextCvd
    absorptionAnalyzer
    absorptionsById := confirmed.elim runtime.absorptionsById fun absorption =>
      runtime.absorptionsById.set absorption.cascadeId absorption }

/-- A candle is tried as a signal. -/
def evaluateSignal (candle : ReplayCandle N) (runtime : ReplayRuntime strategy) :
    Option (Except strategy.Rejection (EmittedSignal N)) := do
  let absorption ← latestAbsorption strategy runtime candle.instrumentCode
  let cascade ← runtime.cascadesById.get? absorption.cascadeId
  let recent := recentCandles dateParse data candle.instrumentCode candle.closedAt 64
  let openInterestDelta :=
    openInterestDeltaAt dateParse data candle.instrumentCode candle.closedAt
  return strategy.evaluate
    { cascade
      absorption
      reclaimCandle := candle
      recent1mCandles := recent
      atr1m := calculateAtr ar recent 14
      atr1h := calculateAtr ar recent 14
      preCascadeSwingLow := recentSwingLow recent
      preCascadeSwingHigh := recentSwingHigh recent
      cascadeVwap := calculateVwap ar recent
      cvd1m := cumulativeVolumeDelta ar recent
      openInterestDelta :=
        match data.config.missingOpenInterestPolicy with
        | .assumeStable => some (openInterestDelta.getD 0)
        | .block => openInterestDelta
      recentSecondCascadeAt := latestOtherCascadeAt strategy runtime cascade
      observedAt := candle.closedAt }

/-- The size of a signal, from the heat of the positions as they are. -/
def sizeBacktestSignal (signal : EmittedSignal N) (equity : N) (manager : PositionManager N N) :
    PositionSizeDecision N :=
  let heatManager : HeatManager N := ⟨data.config.heatCapPct, defaultCascadeCorrelations⟩
  calculatePositionSize ar
    { equity
      riskPerTradePct := data.config.riskPerTradePct
      entryPrice := signal.entryPrice
      stopPrice := signal.stopPrice
      maxPositionNotionalPct := (data.config.assetProfile signal.instrumentCode).1
      assetLiquidityCap := (data.config.assetProfile signal.instrumentCode).2
      currentHeat := heatManager.currentHeat ar sqrt (manager.positions.entries.map Prod.snd)
      heatCapPct := data.config.heatCapPct }

/-- What an event of the timeline gives. -/
structure EventResult {dateParse : String → Option ℤ} {N : Type}
    (strategy : Strategy dateParse N) where
  runtime : ReplayRuntime strategy
  trades : List (BacktestTrade N)
  signals : List (EmittedSignal N)

/-- The entry on a signal whose size is approved. -/
def enterBacktestSignal (candle : ReplayCandle N) (signal : EmittedSignal N)
    (sizeDecision : PositionSizeDecision N) (runtime : ReplayRuntime strategy) :
    EventResult strategy :=
  { runtime :=
      { runtime with
        positionManager := (registerFromSignal signal.toCascadeRecoverySignal sizeDecision
          candle.closedAt runtime.positionManager).toOption.getD runtime.positionManager
        entryPriceByPosition := runtime.entryPriceByPosition.set
          ("cascade-position-" ++ signal.signalId) signal.entryPrice }
    trades := [entryTrade ar data signal sizeDecision.units candle]
    signals := [signal] }

/-- A candle reaches positions, analyzer and signals. -/
def processCandle (candle : ReplayCandle N) (equity : N) (runtime : ReplayRuntime strategy) :
    EventResult strategy :=
  let (positionManager, updates) :=
    onTick ar dateParse (candleTick dateParse ar data candle)
      runtime.positionManager
  let closed := closeTrades ar data runtime.entryPriceByPosition candle updates
  let runtime := observeAbsorption ar data strategy candle { runtime with positionManager }
  match evaluateSignal ar data strategy candle runtime with
  | some (.ok signal) =>
    let sizeDecision := sizeBacktestSignal ar sqrt data signal equity runtime.positionManager
    if sizeDecision.approved then
      let entered := enterBacktestSignal ar data strategy candle signal sizeDecision runtime
      { entered with trades := closed ++ entered.trades }
    else ⟨runtime, closed, []⟩
  | _ => ⟨runtime, closed, []⟩

/-! ### Runs -/

/-- A replay so far. -/
structure Replay {dateParse : String → Option ℤ} {N : Type} (strategy : Strategy dateParse N) where
  runtime : ReplayRuntime strategy
  equity : N
  trades : List (BacktestTrade N)
  signals : List (EmittedSignal N)
  equityCurve : List (String × N)

/-- A trade is booked into the equity. -/
def Replay.book (replay : Replay strategy) (trade : BacktestTrade N) : Replay strategy :=
  let equity := ar.toFixed (ar.number (replay.equity + trade.pnl))
  { replay with
    equity
    trades := replay.trades ++ [trade]
    equityCurve := replay.equityCurve ++ [(trade.exitAt, ar.toFixed equity)] }

/-- One event of the timeline. -/
def Replay.process (replay : Replay strategy) :
    TimelineEvent N strategy.LiquidationDetail → Replay strategy
  | .liquidation liquidation =>
    { replay with runtime := processLiquidation ar data strategy liquidation replay.runtime }
  | .candle candle =>
    let result := processCandle ar sqrt data strategy candle replay.equity replay.runtime
    let booked := result.trades.foldl (Replay.book ar strategy)
      { replay with runtime := result.runtime }
    { booked with signals := booked.signals ++ result.signals }

/-- A run over the whole timeline. -/
def replayEvents (startingEquity : N) (events : List (TimelineEvent N strategy.LiquidationDetail)) :
    Replay strategy :=
  events.foldl (Replay.process ar sqrt data strategy)
    ⟨createRuntime strategy, startingEquity, [], [], []⟩

/-- What a run reports. -/
structure BacktestReport (N : Type) where
  startingEquity : N
  endingEquity : N
  totalPnl : N
  equityCurve : List (String × N)
  trades : List (BacktestTrade N)
  signals : List (EmittedSignal N)

/-- The replay of a backtest, unless the strategy is switched off. -/
def replayInput (input : BacktestInput N strategy.LiquidationDetail)
    (tables : BacktestTables N strategy.LiquidationDetail) : Replay strategy :=
  replayEvents ar sqrt (input.replayData dateParse tables) strategy input.startingEquity
    (if input.enabled then
      timeline dateParse (input.allCandles dateParse tables)
        (input.allLiquidations dateParse tables)
    else [])

/-- A backtest. -/
def run (input : BacktestInput N strategy.LiquidationDetail)
    (tables : BacktestTables N strategy.LiquidationDetail) : BacktestReport N :=
  let replay := replayInput ar sqrt strategy input tables
  { startingEquity := input.startingEquity
    endingEquity := if input.enabled then ar.toFixed replay.equity else input.startingEquity
    totalPnl :=
      if input.enabled then ar.toFixed (ar.number (replay.equity - input.startingEquity)) else 0
    equityCurve := replay.equityCurve
    trades := replay.trades
    signals := replay.signals }

end Replay

end Yevow.Cascade
