import Yevow.Core.JavaScript.Timestamp
import Yevow.Models.Engine.ExecutionAccounting

/-!
# Depth events of a Binance stream

A depth event tells the new sizes at some prices, and the window of update identifiers they
come from. Its levels become ticks, whose time is corrected by the clock difference to the
exchange and decides whether they are too old to forward. A tick's metadata other than its
times and sequence numbers, all taken from the configuration, is left out.
-/

namespace Yevow.Ingest

open JavaScript (Runtime Timestamp safeInteger?)
open Engine (TradeSide)

/-- What an event says about its time. A text that reads as a number counts as one. -/
inductive EventTime
  | missing
  | number (value : ℚ)
  | text (value : String)
  deriving DecidableEq

/-- A depth event as received. Its fields are read as numbers, and what is no pair in a list
of levels is a pair of NaN. -/
structure DiffEvent where
  firstUpdateId : Number
  finalUpdateId : Number
  eventTime : EventTime
  bids : List (Number × Number)
  asks : List (Number × Number)
  /-- The event's own sequence number, or the hash that stands in for one. -/
  sequence : ℤ
  /-- The time at which the event is normalised. -/
  receivedMs : ℤ
  deriving DecidableEq

/-- The first and the last update of an event. -/
structure BinanceSequenceWindow where
  firstUpdateId : ℤ
  finalUpdateId : ℤ
  deriving DecidableEq

/-- A tick as it is handed on. -/
structure MarketTick where
  price : ℚ
  size : ℚ
  side : TradeSide
  sequence : ℤ
  exchangeTimestamp : Timestamp
  synchronizedExchangeTimestamp : Timestamp
  receivedAt : Timestamp
  providerSequence : Option ℤ
  deriving DecidableEq

/-- The new size at a price of one side. -/
structure LevelUpdate where
  side : TradeSide
  price : ℚ
  size : ℚ
  deriving DecidableEq

/-- What a tick says of a price level. -/
def MarketTick.update (tick : MarketTick) : LevelUpdate := ⟨tick.side, tick.price, tick.size⟩

variable (js : Runtime)

/-- The window of an event, if it is one. -/
def readBinanceSequenceWindow (event : DiffEvent) : Option BinanceSequenceWindow :=
  match safeInteger? js.arithmetic event.firstUpdateId,
      safeInteger? js.arithmetic event.finalUpdateId with
  | some first, some final => if 0 ≤ first ∧ first ≤ final then some ⟨first, final⟩ else none
  | _, _ => none

/-- The levels whose price and size are numbers. -/
def normalizeDepthLevels (levels : List (Number × Number)) : List (ℚ × ℚ) :=
  levels.filterMap fun level =>
    match level with
    | (.finite price, .finite size) => if 0 ≤ price ∧ 0 ≤ size then some (price, size) else none
    | _ => none

/-- The level updates of an event, in the order in which it becomes ticks. -/
def DiffEvent.levelUpdates (event : DiffEvent) : List LevelUpdate :=
  (normalizeDepthLevels event.bids).map (fun level => ⟨.buy, level.1, level.2⟩) ++
    (normalizeDepthLevels event.asks).map fun level => ⟨.sell, level.1, level.2⟩

/-- The time of an event as a timestamp, absent where it says nothing. -/
def coerceExchangeTime : EventTime → Except String (Option Timestamp)
  | .missing => .ok none
  | .number value =>
    let millis := if 10000000000 < value then value else js.arithmetic.fraction (value * 1000)
    let time := Timestamp.truncate millis
    if |time| ≤ Timestamp.maxTime then .ok (some (.iso time)) else .error "Invalid time value"
  | .text value => .ok (some (.text value))

/-- How the clock of the exchange is followed. -/
structure ClockSyncSettings where
  alpha : ℚ
  maxOffsetMs : ℚ

/-- A number between two bounds. -/
def clampNumber (value minimum maximum : ℚ) : ℚ := min maximum (max minimum value)

/-- `ClockSyncTracker.observe`: the new offset, and the time corrected by it. -/
def observe (clock : ClockSyncSettings) (offsetMs : Option ℚ)
    (exchangeTimestamp receivedAt : Timestamp) : Option ℚ × Except String Timestamp :=
  match exchangeTimestamp.parse js, receivedAt.parse js with
  | some exchangeMs, some receivedMs =>
    let round := js.arithmetic.fraction
    let observed := clampNumber (receivedMs - exchangeMs) (-clock.maxOffsetMs) clock.maxOffsetMs
    let offset := match offsetMs with
      | none => observed
      | some offset => round (offset + round (clock.alpha * round (observed - offset)))
    (some offset, exchangeTimestamp.plus js (.finite offset))
  | _, _ => (offsetMs, .ok receivedAt)

/-- The ticks of some level updates, numbered from a sequence number on. -/
def ticksFrom (exchangeTimestamp synchronized receivedAt : Timestamp) :
    ℤ → List LevelUpdate → List MarketTick
  | _, [] => []
  | sequence, update :: updates =>
    ⟨update.price, update.size, update.side, sequence, exchangeTimestamp, synchronized, receivedAt,
      none⟩ :: ticksFrom exchangeTimestamp synchronized receivedAt (sequence + 1) updates

/-- `normalizeBinanceData` on a depth event, which moves the clock offset even where it throws
afterwards. -/
def normalizeBinanceData (clock : ClockSyncSettings) (offsetMs : Option ℚ) (event : DiffEvent) :
    Option ℚ × Except String (List MarketTick) :=
  let receivedAt := Timestamp.iso event.receivedMs
  match coerceExchangeTime js event.eventTime with
  | .error e => (offsetMs, .error e)
  | .ok eventTime =>
    let exchangeTimestamp := eventTime.getD receivedAt
    match observe js clock offsetMs exchangeTimestamp receivedAt with
    | (offset, .error e) => (offset, .error e)
    | (offset, .ok synchronized) =>
      let ticks := ticksFrom exchangeTimestamp synchronized receivedAt event.sequence
        event.levelUpdates
      (offset, if ticks.isEmpty then .error "EMPTY_BINANCE_DEPTH_UPDATE" else .ok ticks)

/-- A tick that arrived too late. -/
def shouldDropStaleTick (maxAgeMs : ℚ) (tick : MarketTick) : Bool :=
  match tick.synchronizedExchangeTimestamp.parse js, tick.receivedAt.parse js with
  | some exchangeMs, some receivedMs => maxAgeMs < max 0 ((receivedMs : ℚ) - exchangeMs)
  | _, _ => false

variable {js}

private theorem update_ticksFrom (exchangeTimestamp synchronized receivedAt : Timestamp)
    (sequence : ℤ) (updates : List LevelUpdate) :
    (ticksFrom exchangeTimestamp synchronized receivedAt sequence updates).map
      MarketTick.update = updates := by
  induction updates generalizing sequence with
  | nil => rfl
  | cons update updates ih => rw [ticksFrom, List.map_cons, ih, MarketTick.update]

/-- The ticks of an event carry its level updates, at least one. -/
theorem updates_of_normalize {clock : ClockSyncSettings} {offsetMs offset : Option ℚ}
    {event : DiffEvent} {ticks : List MarketTick}
    (h : normalizeBinanceData js clock offsetMs event = (offset, .ok ticks)) :
    ticks.map MarketTick.update = event.levelUpdates ∧ ticks ≠ [] := by
  unfold normalizeBinanceData at h
  cases htime : coerceExchangeTime js event.eventTime with
  | error e => simp [htime] at h
  | ok eventTime =>
    rw [htime] at h
    simp only at h
    rcases hobserve : observe js clock offsetMs (eventTime.getD (.iso event.receivedMs))
      (.iso event.receivedMs) with ⟨offset', e | synchronized⟩
    · simp [hobserve] at h
    · rw [hobserve] at h
      simp only [Prod.mk.injEq] at h
      obtain ⟨-, hticks⟩ := h
      split_ifs at hticks with hempty
      obtain rfl := Except.ok.inj hticks
      exact ⟨update_ticksFrom _ _ _ _ _, fun hnil => hempty (by rw [hnil]; rfl)⟩

end Yevow.Ingest
