import Yevow.Core.Collection.Rows
import Yevow.Core.Collection.Sorting
import Yevow.Core.JavaScript.Timestamp

/-!
# Aggregation of ticks into candles

Every tick goes into the candle of its interval, for each of five timeframes. A candle is closed by
the first tick outside of its interval; closed candles are handed out, stored, and the last of
them kept. Dates that `toISOString` gives are kept as their milliseconds. What rounds sums is a
parameter.
-/

namespace Yevow.Cascade.Aggregation

/-- The timeframes of candles. -/
inductive Timeframe
  | m1
  | m5
  | m15
  | h1
  | h4
  | d1
  deriving DecidableEq

def Timeframe.text : Timeframe → String
  | .m1 => "1m"
  | .m5 => "5m"
  | .m15 => "15m"
  | .h1 => "1h"
  | .h4 => "4h"
  | .d1 => "1d"

/-- `TIMEFRAME_MS`. -/
def timeframeDurationMs : Timeframe → ℤ
  | .m1 => 60000
  | .m5 => 5 * 60000
  | .m15 => 15 * 60000
  | .h1 => 60 * 60000
  | .h4 => 4 * 60 * 60000
  | .d1 => 24 * 60 * 60000

/-- `CASCADE_TIMEFRAMES`. -/
def cascadeTimeframes : List Timeframe := [.m1, .m5, .m15, .h1, .h4]

/-- The taker side of a tick. -/
inductive TickSide
  | buy
  | sell
  | unknown
  deriving DecidableEq

/-- What is read of a tick; `observedAtMs` is the parsed time, synchronized if it is. -/
structure MarketTick (N : Type) where
  instrumentCode : String
  price : N
  size : N
  side : TickSide
  observedAtMs : Option ℤ

/-- A candle of one timeframe. -/
structure Candle (N : Type) where
  instrumentCode : String
  timeframe : Timeframe
  openedAt : ℤ
  closedAt : ℤ
  «open» : N
  high : N
  low : N
  close : N
  volume : N
  notionalVolume : N
  buyVolume : N
  sellVolume : N
  trades : ℕ
  isClosed : Bool
  deriving DecidableEq

/-- The key of an instrument and a timeframe. -/
def candleKey (instrumentCode : String) (timeframe : Timeframe) : String :=
  instrumentCode ++ ":" ++ timeframe.text

/-- The open candles and the last closed ones. -/
structure CascadeCandleAggregator (N : Type) where
  activeCandles : Rows String (Candle N)
  recentClosedCandles : Rows String (List (Candle N))
  updatedAt : Option ℤ

/-- An aggregator without candles. -/
def CascadeCandleAggregator.new {N : Type} : CascadeCandleAggregator N :=
  ⟨Rows.empty, Rows.empty, none⟩

/-- `CandleAggregatorState`. -/
structure AggregatorState (N : Type) where
  activeCandles : List (Candle N)
  recentClosedCandles : List (Candle N)
  updatedAt : Option ℤ

variable {N : Type} [Field N] [LinearOrder N] (roundMetric : N → ℕ → N)

/-- `new Date(ms).toISOString()`, kept as its milliseconds. -/
def isoDate (ms : ℤ) : Except String ℤ :=
  if |ms| ≤ JavaScript.Timestamp.maxTime then .ok ms else .error "Invalid time value"

/-- The size of a tick, at least zero. -/
def tradeVolume (tick : MarketTick N) : N := if 0 < tick.size then tick.size else 0

/-- The start of the interval of a time. -/
def intervalStart (timeframe : Timeframe) (observedAtMs : ℤ) : ℤ :=
  observedAtMs / timeframeDurationMs timeframe * timeframeDurationMs timeframe

/-- The candle that a tick opens. -/
def createCandle (tick : MarketTick N) (timeframe : Timeframe) (openedAtMs durationMs : ℤ) :
    Except String (Candle N) := do
  let openedAt ← isoDate openedAtMs
  let closedAt ← isoDate (openedAtMs + durationMs)
  let volume := tradeVolume tick
  return {
    instrumentCode := tick.instrumentCode
    timeframe
    openedAt
    closedAt
    «open» := tick.price
    high := tick.price
    low := tick.price
    close := tick.price
    volume
    notionalVolume := volume * tick.price
    buyVolume := if tick.side = .buy then volume else 0
    sellVolume := if tick.side = .sell then volume else 0
    trades := if 0 < volume then 1 else 0
    isClosed := false }

/-- A tick is added to a candle. -/
def mergeTickIntoCandle (candle : Candle N) (tick : MarketTick N) : Candle N :=
  let volume := tradeVolume tick
  { candle with
    high := max candle.high tick.price
    low := min candle.low tick.price
    close := tick.price
    volume := roundMetric (candle.volume + volume) 12
    notionalVolume := roundMetric (candle.notionalVolume + volume * tick.price) 8
    buyVolume := roundMetric (candle.buyVolume + if tick.side = .buy then volume else 0) 12
    sellVolume := roundMetric (candle.sellVolume + if tick.side = .sell then volume else 0) 12
    trades := candle.trades + if 0 < volume then 1 else 0 }

namespace CascadeCandleAggregator

variable (aggregator : CascadeCandleAggregator N)

/-- The last thousand closed candles are kept, one for each start. -/
def appendClosedCandle (candle : Candle N) : CascadeCandleAggregator N :=
  let key := candleKey candle.instrumentCode candle.timeframe
  let existing := (aggregator.recentClosedCandles.get? key).getD []
  let deduped := existing.filter (fun item => item.openedAt ≠ candle.openedAt) ++ [candle]
  let sorted := Sorting.sortBy (fun left right => left.openedAt - right.openedAt) deduped
  { aggregator with
    recentClosedCandles :=
      aggregator.recentClosedCandles.set key (sorted.drop (sorted.length - 1000)) }

/-- The aggregator after a tick, with the candle that the tick closed. -/
def ingestTimeframe (tick : MarketTick N) (timeframe : Timeframe) (observedAtMs : ℤ) :
    Except String (CascadeCandleAggregator N × Option (Candle N)) := do
  let durationMs := timeframeDurationMs timeframe
  let openedAtMs := intervalStart timeframe observedAtMs
  let key := candleKey tick.instrumentCode timeframe
  match aggregator.activeCandles.get? key with
  | none =>
    let candle ← createCandle tick timeframe openedAtMs durationMs
    return ({ aggregator with activeCandles := aggregator.activeCandles.set key candle }, none)
  | some active =>
    if active.openedAt = openedAtMs then
      return ({ aggregator with
        activeCandles :=
          aggregator.activeCandles.set key (mergeTickIntoCandle roundMetric active tick) }, none)
    else
      let closed := { active with isClosed := true }
      let aggregator := aggregator.appendClosedCandle closed
      let candle ← createCandle tick timeframe openedAtMs durationMs
      return ({ aggregator with activeCandles := aggregator.activeCandles.set key candle },
        some closed)

/-- A tick is merged into the candle of each timeframe. -/
def ingestTimeframes (tick : MarketTick N) (observedAtMs : ℤ) :
    List Timeframe → CascadeCandleAggregator N →
      Except String (CascadeCandleAggregator N × List (Candle N))
  | [], aggregator => return (aggregator, [])
  | timeframe :: timeframes, aggregator => do
    let (aggregator, nextClosed) ←
      aggregator.ingestTimeframe roundMetric tick timeframe observedAtMs
    let (aggregator, closed) ← ingestTimeframes tick observedAtMs timeframes aggregator
    return (aggregator, nextClosed.toList ++ closed)

/-- The aggregator after a tick, with the candles that the tick closed. -/
def ingestTick (tick : MarketTick N) :
    Except String (CascadeCandleAggregator N × List (Candle N)) := do
  if tick.price ≤ 0 then return (aggregator, [])
  match tick.observedAtMs with
  | none => return (aggregator, [])
  | some observedAtMs =>
    let (aggregator, closed) ←
      ingestTimeframes roundMetric tick observedAtMs cascadeTimeframes aggregator
    let updatedAt ← isoDate observedAtMs
    return ({ aggregator with updatedAt := some updatedAt }, closed)

omit [Field N] [LinearOrder N] in
/-- The state that a restart finds. -/
def serialize : AggregatorState N where
  activeCandles := aggregator.activeCandles.rows
  recentClosedCandles :=
    Sorting.sortBy (fun left right => left.openedAt - right.openedAt)
      aggregator.recentClosedCandles.rows.flatten
  updatedAt := aggregator.updatedAt

/-- What a state is hydrated to; its numbers are finite. -/
def hydrate (state : AggregatorState N) : CascadeCandleAggregator N :=
  let activeCandles := (state.activeCandles.filter fun candle => !candle.isClosed).foldl
    (fun rows candle => rows.set (candleKey candle.instrumentCode candle.timeframe) candle)
    Rows.empty
  let aggregator := (state.recentClosedCandles.filter fun candle => candle.isClosed).foldl
    appendClosedCandle ⟨activeCandles, Rows.empty, none⟩
  { aggregator with updatedAt := state.updatedAt }

end CascadeCandleAggregator

/-- The `candles` table: closed candles under their instruments, timeframes and starts. -/
structure D1CandleStore (N : Type) where
  candles : Rows (String × Timeframe × ℤ) (Candle N)

/-- Closed candles are stored. -/
def D1CandleStore.persistClosed (store : D1CandleStore N) (candles : List (Candle N)) :
    D1CandleStore N :=
  ⟨(candles.filter fun candle => candle.isClosed).foldl
    (fun rows candle =>
      rows.set (candle.instrumentCode, candle.timeframe, candle.openedAt) candle) store.candles⟩

end Yevow.Cascade.Aggregation
