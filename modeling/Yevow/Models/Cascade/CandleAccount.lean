import Mathlib.Algebra.Field.Rat
import Mathlib.Algebra.Order.Ring.Rat
import Yevow.Models.Cascade.CandleRuns

/-!
# Every tick once

A run takes ticks and hydrates fresh aggregators from serialized ones. The candle of an interval is
the active one or else the last that was emitted for it. No tick gets lost as long as no tick opens
an interval again that another one had closed.
-/

namespace Yevow.Cascade.Aggregation

variable {N : Type} [Field N] [LinearOrder N]

/-- An aggregator, the table of the candles that it emitted, and the ticks that it received. -/
structure Feed (N : Type) where
  aggregator : CascadeCandleAggregator N
  store : D1CandleStore N
  received : List (MarketTick N)

/-- A tick arrives or the aggregator restarts. -/
inductive Step (N : Type)
  | tick (tick : MarketTick N)
  | restart

namespace Feed

/-- The aggregator before its first tick. -/
def start : Feed N := ⟨.new, ⟨Rows.empty⟩, []⟩

/-- One step of a run; sums are as they are. -/
def step (feed : Feed N) : Step N → Except String (Feed N)
  | .tick tick => do
    let (aggregator, closed) ← feed.aggregator.ingestTick unrounded tick
    return ⟨aggregator, feed.store.persistClosed closed, feed.received ++ [tick]⟩
  | .restart => return { feed with aggregator := .hydrate feed.aggregator.serialize }

/-- A run of the aggregator. -/
def run (feed : Feed N) : List (Step N) → Except String (Feed N) := List.foldlM step feed

/-- The active candle of an interval, or the last one emitted for it. -/
def currentCandle (feed : Feed N) (instrumentCode : String) (timeframe : Timeframe)
    (openedAt : ℤ) : Option (Candle N) :=
  ((feed.aggregator.activeCandles.get? (candleKey instrumentCode timeframe)).filter
    fun candle => candle.openedAt = openedAt).or
      (feed.store.candles.get? (instrumentCode, timeframe, openedAt))

end Feed

/-- The start of a tick's interval. -/
def startOf (timeframe : Timeframe) (tick : MarketTick N) : ℤ :=
  intervalStart timeframe (tick.observedAtMs.getD 0)

/-- The ticks of an interval, in the order in which they came. -/
def ticksIn (received : List (MarketTick N)) (instrumentCode : String) (timeframe : Timeframe)
    (openedAt : ℤ) : List (MarketTick N) :=
  received.filter fun tick =>
    tick.instrumentCode = instrumentCode ∧ startOf timeframe tick = openedAt

/-- The last tick of an instrument. -/
def lastTick (received : List (MarketTick N)) (instrumentCode : String) :
    Option (MarketTick N) :=
  (received.filter fun tick => tick.instrumentCode = instrumentCode).getLast?

/-- A tick with a positive price and a time of the calendar. -/
def Valid (tick : MarketTick N) : Prop :=
  0 < tick.price ∧ ∃ ms, tick.observedAtMs = some ms ∧ |ms| ≤ JavaScript.Timestamp.maxTime

/-- A tick that follows on what was received: its interval ends on the calendar, and if its four
hours already have ticks of the instrument, then the last one is of them, and none is of a later
minute. -/
structure Follows (received : List (MarketTick N)) (tick : MarketTick N) : Prop where
  calendar : tick.observedAtMs ≠ some JavaScript.Timestamp.maxTime
  minutes : ∀ earlier ∈ ticksIn received tick.instrumentCode .h4 (startOf .h4 tick),
    startOf .m1 earlier ≤ startOf .m1 tick
  unbroken : ticksIn received tick.instrumentCode .h4 (startOf .h4 tick) ≠ [] →
    ∃ last, lastTick received tick.instrumentCode = some last ∧
      startOf .h4 last = startOf .h4 tick

/-- The ticks of a run each follow on the ones before. -/
def StepsFollow (received : List (MarketTick N)) : List (Step N) → Prop
  | [] => True
  | .tick tick :: steps => Follows received tick ∧ StepsFollow (received ++ [tick]) steps
  | .restart :: steps => StepsFollow received steps

/-- The starts of the minutes of an interval. -/
def minutesOf (timeframe : Timeframe) (openedAt : ℤ) : List ℤ :=
  (List.range (timeframeDurationMs timeframe / 60000).toNat).map fun minute : ℕ =>
    openedAt + 60000 * minute

/-- The figures of a candle, if there is one. -/
def candleFigures (candle : Option (Candle N)) : WithZero (Figures N) :=
  candle.elim 0 fun candle => ↑candle.figures

/-- Every candle accounts for the ticks of its interval, kept candles ascend, and longer candles
are what the minutes of their time merge to. -/
structure CandlesAccount (feed : Feed N) : Prop where
  accounts : ∀ instrumentCode, ∀ timeframe ∈ cascadeTimeframes, ∀ openedAt,
    match feed.currentCandle instrumentCode timeframe openedAt with
    | none => ticksIn feed.received instrumentCode timeframe openedAt = []
    | some candle =>
      AccountsFor candle (ticksIn feed.received instrumentCode timeframe openedAt)
  ascending : ClosedKept feed.aggregator.recentClosedCandles
  merged : ∀ instrumentCode, ∀ timeframe ∈ cascadeTimeframes, ∀ ms,
    candleFigures (feed.currentCandle instrumentCode timeframe (intervalStart timeframe ms)) =
      ((minutesOf timeframe (intervalStart timeframe ms)).map fun minute =>
        candleFigures (feed.currentCandle instrumentCode .m1 minute)).sum

/-! ## Stored candles -/

omit [Field N] [LinearOrder N] in
private theorem get?_persistClosed {instrumentCode : String} {timeframes : List Timeframe}
    (hnodup : timeframes.Nodup) {closedOf : Timeframe → Option (Candle N)}
    (hclosed : ∀ timeframe candle, closedOf timeframe = some candle →
      candle.instrumentCode = instrumentCode ∧ candle.timeframe = timeframe ∧
        candle.isClosed = true)
    (store : D1CandleStore N) (instrumentCode' : String) (timeframe' : Timeframe)
    (openedAt : ℤ) :
    (store.persistClosed (timeframes.filterMap closedOf)).candles.get?
        (instrumentCode', timeframe', openedAt) =
      if instrumentCode' = instrumentCode ∧ timeframe' ∈ timeframes then
        ((closedOf timeframe').filter fun candle => candle.openedAt = openedAt).or
          (store.candles.get? (instrumentCode', timeframe', openedAt))
      else store.candles.get? (instrumentCode', timeframe', openedAt) := by
  induction timeframes generalizing store with
  | nil => simp [D1CandleStore.persistClosed]
  | cons timeframe timeframes ih =>
    obtain ⟨hnot, hnodup⟩ := List.nodup_cons.mp hnodup
    cases hcandle : closedOf timeframe with
    | none =>
      rw [List.filterMap_cons_none hcandle, ih hnodup]
      by_cases heq : timeframe' = timeframe
      · subst heq
        simp [hnot, hcandle]
      · simp [heq]
    | some candle =>
      obtain ⟨hinstrument, htimeframe, hisClosed⟩ := hclosed timeframe candle hcandle
      have hset : store.persistClosed (candle :: timeframes.filterMap closedOf) =
          D1CandleStore.persistClosed ⟨store.candles.set
            (instrumentCode, timeframe, candle.openedAt) candle⟩
              (timeframes.filterMap closedOf) := by
        unfold D1CandleStore.persistClosed
        rw [List.filter_cons_of_pos hisClosed, List.foldl_cons, hinstrument, htimeframe]
      rw [List.filterMap_cons_some hcandle, hset, ih hnodup]
      dsimp only
      rw [Rows.get?_set]
      by_cases heq : timeframe' = timeframe
      · subst heq
        by_cases hsame : instrumentCode' = instrumentCode
        · by_cases hopened : openedAt = candle.openedAt
          · simp [hnot, hcandle, hsame, hopened, Option.filter]
          · have hne : ¬ candle.openedAt = openedAt := fun h => hopened h.symm
            simp [hnot, hcandle, hsame, hopened, hne, Option.filter]
        · simp [hsame]
      · simp [heq]

/-! ## The invariant -/

/-- What holds between the steps of a run. -/
structure Accounted (feed : Feed N) : Prop where
  activeKept : ActiveKept feed.aggregator.activeCandles
  closedKept : ClosedKept feed.aggregator.recentClosedCandles
  opened : ∀ instrumentCode, ∀ timeframe ∈ cascadeTimeframes,
    (feed.aggregator.activeCandles.get? (candleKey instrumentCode timeframe)).map
        (fun candle => candle.openedAt) =
      (lastTick feed.received instrumentCode).map (startOf timeframe)
  figures : ∀ instrumentCode, ∀ timeframe ∈ cascadeTimeframes, ∀ openedAt,
    candleFigures (feed.currentCandle instrumentCode timeframe openedAt) =
      figuresOf (ticksIn feed.received instrumentCode timeframe openedAt)
  ordered : feed.received.Pairwise fun earlier later =>
    earlier.instrumentCode = later.instrumentCode → startOf .h4 earlier = startOf .h4 later →
      startOf .m1 earlier ≤ startOf .m1 later

omit [Field N] [LinearOrder N] in
private theorem startOf_mono {earlier later : MarketTick N}
    (h : startOf .m1 earlier ≤ startOf .m1 later) {timeframe : Timeframe}
    (hmem : timeframe ∈ cascadeTimeframes) :
    startOf timeframe earlier ≤ startOf timeframe later := by
  simp only [startOf, intervalStart, timeframeDurationMs] at h
  simp only [cascadeTimeframes, List.mem_cons, List.not_mem_nil, or_false] at hmem
  rcases hmem with rfl | rfl | rfl | rfl | rfl <;>
    simp only [startOf, intervalStart, timeframeDurationMs] <;> omega

omit [Field N] [LinearOrder N] in
private theorem startOf_h4 {earlier later : MarketTick N} {timeframe : Timeframe}
    (hmem : timeframe ∈ cascadeTimeframes)
    (h : startOf timeframe earlier = startOf timeframe later) :
    startOf .h4 earlier = startOf .h4 later := by
  simp only [cascadeTimeframes, List.mem_cons, List.not_mem_nil, or_false] at hmem
  rcases hmem with rfl | rfl | rfl | rfl | rfl <;>
    simp only [startOf, intervalStart, timeframeDurationMs] at h ⊢ <;> omega

omit [Field N] [LinearOrder N] in
private theorem mem_ticksIn {received : List (MarketTick N)} {instrumentCode : String}
    {timeframe : Timeframe} {openedAt : ℤ} {tick : MarketTick N} :
    tick ∈ ticksIn received instrumentCode timeframe openedAt ↔
      tick ∈ received ∧ tick.instrumentCode = instrumentCode ∧
        startOf timeframe tick = openedAt := by
  rw [ticksIn, List.mem_filter, decide_eq_true_eq]

omit [Field N] [LinearOrder N] in
private theorem le_lastTick {received : List (MarketTick N)}
    (hordered : received.Pairwise fun earlier later =>
      earlier.instrumentCode = later.instrumentCode → startOf .h4 earlier = startOf .h4 later →
        startOf .m1 earlier ≤ startOf .m1 later)
    {instrumentCode : String} {last tick : MarketTick N}
    (hlast : lastTick received instrumentCode = some last) (htick : tick ∈ received)
    (hinstrument : tick.instrumentCode = instrumentCode)
    (hh4 : startOf .h4 tick = startOf .h4 last) : startOf .m1 tick ≤ startOf .m1 last := by
  obtain ⟨before, hsplit⟩ := List.getLast?_eq_some_iff.mp hlast
  have hmem : tick ∈ before ++ [last] := by
    rw [← hsplit, List.mem_filter, decide_eq_true_eq]
    exact ⟨htick, hinstrument⟩
  have hlast' : last.instrumentCode = instrumentCode := by
    have : last ∈ received.filter fun tick => tick.instrumentCode = instrumentCode := by
      rw [hsplit]
      exact List.mem_append_right _ (List.mem_singleton_self last)
    simpa using (List.mem_filter.mp this).2
  have hpairs := hordered.filter fun tick => decide (tick.instrumentCode = instrumentCode)
  rw [hsplit, List.pairwise_append] at hpairs
  rcases List.mem_append.mp hmem with hbefore | hsame
  · exact hpairs.2.2 tick hbefore last (List.mem_singleton_self last)
      (hinstrument.trans hlast'.symm) hh4
  · rw [List.mem_singleton.mp hsame]

/-- A tick that does not fall into the interval of the last one falls into an interval without
ticks. -/
private theorem ticksIn_eq_nil {feed : Feed N} (h : Accounted feed) {tick : MarketTick N}
    (hfollows : Follows feed.received tick) {timeframe : Timeframe}
    (hmem : timeframe ∈ cascadeTimeframes)
    (hlast : (lastTick feed.received tick.instrumentCode).map (startOf timeframe) ≠
      some (startOf timeframe tick)) :
    ticksIn feed.received tick.instrumentCode timeframe (startOf timeframe tick) = [] := by
  rw [List.eq_nil_iff_forall_not_mem]
  intro earlier hearlier
  obtain ⟨hreceived, hinstrument, hstart⟩ := mem_ticksIn.mp hearlier
  have hhours : earlier ∈ ticksIn feed.received tick.instrumentCode .h4 (startOf .h4 tick) :=
    mem_ticksIn.mpr ⟨hreceived, hinstrument, startOf_h4 hmem hstart⟩
  obtain ⟨last, hlastTick, hsame⟩ := hfollows.unbroken (List.ne_nil_of_mem hhours)
  have hlastMem : last ∈ ticksIn feed.received tick.instrumentCode .h4 (startOf .h4 tick) := by
    have hfilter := List.mem_of_getLast? hlastTick
    rw [List.mem_filter, decide_eq_true_eq] at hfilter
    exact mem_ticksIn.mpr ⟨hfilter.1, hfilter.2, hsame⟩
  have hlower := startOf_mono (le_lastTick h.ordered hlastTick hreceived hinstrument
    ((startOf_h4 hmem hstart).trans hsame.symm)) hmem
  have hupper := startOf_mono (hfollows.minutes last hlastMem) hmem
  apply hlast
  rw [hlastTick, Option.map_some, Option.some.injEq]
  omega

/-! ## Steps -/

omit [Field N] [LinearOrder N] in
private theorem ticksIn_append (received : List (MarketTick N)) (tick : MarketTick N)
    (instrumentCode : String) (timeframe : Timeframe) (openedAt : ℤ) :
    ticksIn (received ++ [tick]) instrumentCode timeframe openedAt =
      ticksIn received instrumentCode timeframe openedAt ++
        if tick.instrumentCode = instrumentCode ∧ startOf timeframe tick = openedAt then [tick]
        else [] := by
  rw [ticksIn, List.filter_append, List.filter_singleton]
  congr 1
  split_ifs with h
  · rw [decide_eq_true h]
    rfl
  · rw [decide_eq_false h]
    rfl

omit [Field N] [LinearOrder N] in
private theorem lastTick_append (received : List (MarketTick N)) (tick : MarketTick N)
    (instrumentCode : String) :
    lastTick (received ++ [tick]) instrumentCode =
      if tick.instrumentCode = instrumentCode then some tick
      else lastTick received instrumentCode := by
  rw [lastTick, List.filter_append, List.filter_singleton]
  split_ifs with h
  · simp [h]
  · simp [h, lastTick]

private theorem ingestTick_spec {tick : MarketTick N} {ms : ℤ} (hprice : 0 < tick.price)
    (hms : tick.observedAtMs = some ms) (hdate : |ms| ≤ JavaScript.Timestamp.maxTime)
    (hlast : ms ≠ JavaScript.Timestamp.maxTime) (aggregator : CascadeCandleAggregator N) :
    ∃ after closed, aggregator.ingestTick unrounded tick = .ok (after, closed) ∧
      Ingested cascadeTimeframes tick ms aggregator after closed := by
  obtain ⟨after, closed, hingest, hingested⟩ := @ingestTimeframes_spec N _ _ tick ms hdate hlast
    cascadeTimeframes (by decide) aggregator
  refine ⟨{ after with updatedAt := some ms }, closed, ?_, ⟨hingested.active, hingested.other,
    hingested.closed, hingested.activeKept, hingested.closedKept⟩⟩
  unfold CascadeCandleAggregator.ingestTick
  rw [if_neg (not_le.mpr hprice), hms]
  dsimp only
  rw [hingest, isoDate, if_pos hdate]
  rfl

/-- The feed after a tick with the candles that it closed. -/
private def ticked (feed : Feed N) (tick : MarketTick N) (after : CascadeCandleAggregator N)
    (closed : List (Candle N)) : Feed N :=
  ⟨after, feed.store.persistClosed closed, feed.received ++ [tick]⟩

private theorem nextActive_closed {activeCandles : Rows String (Candle N)}
    (hkept : ActiveKept activeCandles) (tick : MarketTick N) (ms : ℤ) (timeframe : Timeframe)
    (candle : Candle N)
    (h : (nextActive tick timeframe ms
      (activeCandles.get? (candleKey tick.instrumentCode timeframe))).2 = some candle) :
    candle.instrumentCode = tick.instrumentCode ∧ candle.timeframe = timeframe ∧
      candle.isClosed = true := by
  cases hactive : activeCandles.get? (candleKey tick.instrumentCode timeframe) with
  | none =>
    rw [hactive] at h
    exact absurd h.symm (Option.some_ne_none _)
  | some active =>
    rw [hactive] at h
    unfold nextActive at h
    dsimp only at h
    split_ifs at h
    obtain rfl := Option.some.inj h
    obtain ⟨hinstrument, htimeframe⟩ := candleKey_eq_iff.mp (hkept _ active hactive).1
    exact ⟨hinstrument.symm, htimeframe.symm, rfl⟩

private theorem stored_ticked {feed : Feed N} {tick : MarketTick N} {ms : ℤ}
    {after : CascadeCandleAggregator N} {closed : List (Candle N)}
    (hkept : ActiveKept feed.aggregator.activeCandles)
    (hingested : Ingested cascadeTimeframes tick ms feed.aggregator after closed)
    (instrumentCode : String) (timeframe : Timeframe) (openedAt : ℤ) :
    (ticked feed tick after closed).store.candles.get? (instrumentCode, timeframe, openedAt) =
      if instrumentCode = tick.instrumentCode ∧ timeframe ∈ cascadeTimeframes then
        ((nextActive tick timeframe ms (feed.aggregator.activeCandles.get?
          (candleKey tick.instrumentCode timeframe))).2.filter
            fun candle => candle.openedAt = openedAt).or
          (feed.store.candles.get? (instrumentCode, timeframe, openedAt))
      else feed.store.candles.get? (instrumentCode, timeframe, openedAt) := by
  unfold ticked
  rw [hingested.closed]
  exact get?_persistClosed (by decide)
    (fun timeframe candle h => nextActive_closed hkept tick ms timeframe candle h) _ _ _ _

private theorem currentCandle_of_ne {feed : Feed N} {tick : MarketTick N} {ms : ℤ}
    {after : CascadeCandleAggregator N} {closed : List (Candle N)}
    (hkept : ActiveKept feed.aggregator.activeCandles)
    (hingested : Ingested cascadeTimeframes tick ms feed.aggregator after closed)
    {instrumentCode : String} (hne : instrumentCode ≠ tick.instrumentCode)
    (timeframe : Timeframe) (openedAt : ℤ) :
    (ticked feed tick after closed).currentCandle instrumentCode timeframe openedAt =
      feed.currentCandle instrumentCode timeframe openedAt := by
  have hactive : after.activeCandles.get? (candleKey instrumentCode timeframe) =
      feed.aggregator.activeCandles.get? (candleKey instrumentCode timeframe) :=
    hingested.other _ fun _ _ heq => hne (candleKey_eq_iff.mp heq).1
  unfold Feed.currentCandle
  rw [stored_ticked hkept hingested, if_neg fun h => hne h.1]
  unfold ticked
  rw [hactive]

/-- The candles of a tick's instrument: the next active one first, the closed one before what was
stored. -/
private theorem currentCandle_ticked {feed : Feed N} {tick : MarketTick N} {ms : ℤ}
    {after : CascadeCandleAggregator N} {closed : List (Candle N)}
    (hkept : ActiveKept feed.aggregator.activeCandles)
    (hingested : Ingested cascadeTimeframes tick ms feed.aggregator after closed)
    {timeframe : Timeframe} (hmem : timeframe ∈ cascadeTimeframes) (openedAt : ℤ) :
    (ticked feed tick after closed).currentCandle tick.instrumentCode timeframe openedAt =
      ((some (nextActive tick timeframe ms (feed.aggregator.activeCandles.get?
        (candleKey tick.instrumentCode timeframe))).1).filter
          fun candle => candle.openedAt = openedAt).or
        (((nextActive tick timeframe ms (feed.aggregator.activeCandles.get?
          (candleKey tick.instrumentCode timeframe))).2.filter
            fun candle => candle.openedAt = openedAt).or
          (feed.store.candles.get? (tick.instrumentCode, timeframe, openedAt))) := by
  unfold Feed.currentCandle
  rw [stored_ticked hkept hingested, if_pos ⟨rfl, hmem⟩]
  unfold ticked
  rw [hingested.active timeframe hmem]

/-- The candle of an interval gains the figures of a tick, and a fresh one has them alone. -/
private theorem candleFigures_nextActive (active stored : Option (Candle N)) (tick : MarketTick N)
    (timeframe : Timeframe) (ms openedAt : ℤ)
    (hfresh : active.map (fun candle => candle.openedAt) ≠ some (intervalStart timeframe ms) →
      intervalStart timeframe ms = openedAt →
        candleFigures ((active.filter fun candle => candle.openedAt = openedAt).or stored) = 0) :
    candleFigures (((some (nextActive tick timeframe ms active).1).filter
        fun candle => candle.openedAt = openedAt).or
      (((nextActive tick timeframe ms active).2.filter
        fun candle => candle.openedAt = openedAt).or stored)) =
      candleFigures ((active.filter fun candle => candle.openedAt = openedAt).or stored) +
        if intervalStart timeframe ms = openedAt then figuresOf [tick] else 0 := by
  by_cases hopened : intervalStart timeframe ms = openedAt
  · subst hopened
    rw [if_pos rfl, figuresOf_singleton]
    cases active with
    | none =>
      have hzero := hfresh (Option.some_ne_none _).symm rfl
      rw [hzero, zero_add]
      simp [nextActive, openedCandle, Option.filter_some, candleFigures, Candle.figures,
        MarketTick.figures]
    | some active =>
      unfold nextActive
      dsimp only
      split_ifs with hsame
      · have hopened : (mergeTickIntoCandle unrounded active tick).openedAt =
            intervalStart timeframe ms := hsame
        simp only [Option.filter_some, hopened, hsame, decide_true, if_true, Option.some_or,
          candleFigures, Option.elim_some]
        rw [figures_mergeTickIntoCandle, WithZero.coe_add]
      · have hzero := hfresh (fun h => hsame (Option.some.inj h)) rfl
        rw [hzero, zero_add]
        simp [openedCandle, Option.filter_some, candleFigures, Candle.figures,
          MarketTick.figures]
  · rw [if_neg hopened, add_zero]
    cases active with
    | none => simp [nextActive, openedCandle, Option.filter_some, hopened]
    | some active =>
      unfold nextActive
      dsimp only
      split_ifs with hsame
      · simp [hsame, mergeTickIntoCandle, hopened, Option.filter_some]
      · by_cases hactive : active.openedAt = openedAt
        · simp [openedCandle, hopened, hactive, Option.filter_some, candleFigures,
            Candle.figures]
        · simp [openedCandle, hopened, hactive, Option.filter_some]

private theorem figures_ticked {feed : Feed N} (h : Accounted feed) {tick : MarketTick N} {ms : ℤ}
    (hms : tick.observedAtMs = some ms)
    (hfollows : Follows feed.received tick)
    {after : CascadeCandleAggregator N} {closed : List (Candle N)}
    (hingested : Ingested cascadeTimeframes tick ms feed.aggregator after closed)
    (instrumentCode : String) {timeframe : Timeframe} (hmem : timeframe ∈ cascadeTimeframes)
    (openedAt : ℤ) :
    candleFigures
      ((ticked feed tick after closed).currentCandle instrumentCode timeframe openedAt) =
      figuresOf (ticksIn (feed.received ++ [tick]) instrumentCode timeframe openedAt) := by
  have hstart : startOf timeframe tick = intervalStart timeframe ms := by
    rw [startOf, hms]
    rfl
  rw [ticksIn_append, figuresOf_append, ← h.figures instrumentCode timeframe hmem openedAt]
  by_cases hinstrument : instrumentCode = tick.instrumentCode
  · subst hinstrument
    rw [currentCandle_ticked h.activeKept hingested hmem, candleFigures_nextActive, hstart]
    · congr 1
      by_cases hopened : intervalStart timeframe ms = openedAt
      · rw [if_pos hopened, if_pos ⟨rfl, hopened⟩]
      · rw [if_neg hopened, if_neg fun h => hopened h.2]
        rfl
    · rintro hne rfl
      rw [h.opened _ _ hmem, ← hstart] at hne
      have hzero := h.figures tick.instrumentCode timeframe hmem (startOf timeframe tick)
      rw [ticksIn_eq_nil h hfollows hmem hne, hstart] at hzero
      exact hzero
  · rw [currentCandle_of_ne h.activeKept hingested hinstrument,
      if_neg fun h => hinstrument h.1.symm]
    exact (add_zero _).symm

private theorem opened_ticked {feed : Feed N} (h : Accounted feed) {tick : MarketTick N} {ms : ℤ}
    (hms : tick.observedAtMs = some ms) {after : CascadeCandleAggregator N}
    {closed : List (Candle N)}
    (hingested : Ingested cascadeTimeframes tick ms feed.aggregator after closed)
    (instrumentCode : String) {timeframe : Timeframe} (hmem : timeframe ∈ cascadeTimeframes) :
    (after.activeCandles.get? (candleKey instrumentCode timeframe)).map
        (fun candle => candle.openedAt) =
      (lastTick (feed.received ++ [tick]) instrumentCode).map (startOf timeframe) := by
  rw [lastTick_append]
  by_cases hinstrument : tick.instrumentCode = instrumentCode
  · subst hinstrument
    have hstart : startOf timeframe tick = intervalStart timeframe ms := by
      rw [startOf, hms]
      rfl
    rw [if_pos rfl, hingested.active timeframe hmem, Option.map_some, Option.map_some, hstart]
    cases feed.aggregator.activeCandles.get? (candleKey tick.instrumentCode timeframe) with
    | none => rfl
    | some active =>
      unfold nextActive
      dsimp only
      split_ifs with hsame
      · exact congrArg some hsame
      · rfl
  · rw [if_neg hinstrument, hingested.other]
    · exact h.opened instrumentCode timeframe hmem
    · exact fun _ _ heq => hinstrument (candleKey_eq_iff.mp heq).1.symm

omit [Field N] [LinearOrder N] in
private theorem ordered_append {received : List (MarketTick N)} {tick : MarketTick N}
    (h : received.Pairwise fun earlier later =>
      earlier.instrumentCode = later.instrumentCode → startOf .h4 earlier = startOf .h4 later →
        startOf .m1 earlier ≤ startOf .m1 later)
    (hfollows : Follows received tick) :
    (received ++ [tick]).Pairwise fun earlier later =>
      earlier.instrumentCode = later.instrumentCode → startOf .h4 earlier = startOf .h4 later →
        startOf .m1 earlier ≤ startOf .m1 later := by
  rw [List.pairwise_append]
  refine ⟨h, List.pairwise_singleton _ _, ?_⟩
  intro earlier hearlier later hlater hinstrument hstart
  obtain rfl := List.mem_singleton.mp hlater
  exact hfollows.minutes earlier (mem_ticksIn.mpr ⟨hearlier, hinstrument, hstart⟩)

private theorem accounted_start : Accounted (Feed.start : Feed N) := by
  refine ⟨?_, ?_, ?_, ?_, List.Pairwise.nil⟩
  · exact fun _ _ h => absurd h.symm (Option.some_ne_none _)
  · exact fun _ _ h => absurd h.symm (Option.some_ne_none _)
  · exact fun _ _ _ => rfl
  · exact fun _ _ _ _ => rfl

/-- A tick that follows on the ones before is taken in. -/
private theorem accounted_tick {feed : Feed N} (h : Accounted feed) {tick : MarketTick N}
    (hvalid : Valid tick) (hfollows : Follows feed.received tick) :
    ∃ next, feed.step (.tick tick) = .ok next ∧ next.received = feed.received ++ [tick] ∧
      Accounted next := by
  obtain ⟨hprice, ms, hms, hdate⟩ := hvalid
  have hlast : ms ≠ JavaScript.Timestamp.maxTime := by
    rintro rfl
    exact hfollows.calendar hms
  obtain ⟨after, closed, hingest, hingested⟩ :=
    ingestTick_spec hprice hms hdate hlast feed.aggregator
  refine ⟨ticked feed tick after closed, ?_, rfl, ?_⟩
  · unfold Feed.step
    dsimp only
    rw [hingest]
    rfl
  · exact {
      activeKept := hingested.activeKept h.activeKept
      closedKept := hingested.closedKept h.closedKept
      opened := fun instrumentCode _ hmem => opened_ticked h hms hingested instrumentCode hmem
      figures := fun instrumentCode _ hmem openedAt =>
        figures_ticked h hms hfollows hingested instrumentCode hmem openedAt
      ordered := ordered_append h.ordered hfollows }

private theorem accounted_restart {feed : Feed N} (h : Accounted feed) :
    ∃ next, feed.step .restart = .ok next ∧ next.received = feed.received ∧ Accounted next := by
  refine ⟨_, rfl, rfl, ?_⟩
  have hactive := activeCandles_hydrate h.activeKept
  refine ⟨?_, closedKept_hydrate _, ?_, ?_, h.ordered⟩
  · intro key candle hget
    exact h.activeKept key candle ((hactive key).symm.trans hget)
  · intro instrumentCode timeframe hmem
    rw [← h.opened instrumentCode timeframe hmem]
    exact congrArg _ (hactive _)
  · intro instrumentCode timeframe hmem openedAt
    rw [← h.figures instrumentCode timeframe hmem openedAt]
    unfold Feed.currentCandle
    rw [hactive]

private theorem accounted_run {steps : List (Step N)}
    (hvalid : ∀ tick, Step.tick tick ∈ steps → Valid tick) {feed : Feed N} (h : Accounted feed)
    (hfollow : StepsFollow feed.received steps) :
    ∃ last, feed.run steps = .ok last ∧ Accounted last := by
  induction steps generalizing feed with
  | nil => exact ⟨feed, rfl, h⟩
  | cons step steps ih =>
    have hrest := @ih fun tick hmem => hvalid tick (List.mem_cons_of_mem _ hmem)
    suffices hstep : ∃ next, feed.step step = .ok next ∧ Accounted next ∧
        StepsFollow next.received steps by
      obtain ⟨next, hnext, hkept, hfollow⟩ := hstep
      obtain ⟨last, hrun, hlast⟩ := hrest hkept hfollow
      refine ⟨last, ?_, hlast⟩
      rw [Feed.run, List.foldlM_cons, hnext]
      exact hrun
    cases step with
    | tick tick =>
      obtain ⟨next, hnext, hreceived, hkept⟩ :=
        accounted_tick h (hvalid tick List.mem_cons_self) hfollow.1
      exact ⟨next, hnext, hkept, hreceived ▸ hfollow.2⟩
    | restart =>
      obtain ⟨next, hnext, hreceived, hkept⟩ := accounted_restart h
      exact ⟨next, hnext, hkept, hreceived ▸ hfollow⟩

/-! ## Long candles -/

private theorem mem_minutesOf {timeframe : Timeframe} (hmem : timeframe ∈ cascadeTimeframes)
    (ms other : ℤ) :
    intervalStart .m1 other ∈ minutesOf timeframe (intervalStart timeframe ms) ↔
      intervalStart timeframe other = intervalStart timeframe ms := by
  simp only [minutesOf, List.mem_map, List.mem_range]
  simp only [cascadeTimeframes, List.mem_cons, List.not_mem_nil, or_false] at hmem
  constructor
  · rintro ⟨minute, hminute, heq⟩
    rcases hmem with rfl | rfl | rfl | rfl | rfl <;>
      simp only [intervalStart, timeframeDurationMs] at hminute heq ⊢ <;> omega
  · intro heq
    refine ⟨((intervalStart .m1 other - intervalStart timeframe ms) / 60000).toNat, ?_⟩
    rcases hmem with rfl | rfl | rfl | rfl | rfl <;>
      simp only [intervalStart, timeframeDurationMs] at heq ⊢ <;> omega

private theorem pairwise_minutesOf (timeframe : Timeframe) (openedAt : ℤ) :
    (minutesOf timeframe openedAt).Pairwise (· < ·) := by
  apply List.pairwise_map.mpr
  apply List.pairwise_lt_range.imp
  intro minute later hlt
  omega

omit [Field N] [LinearOrder N] in
private theorem ticksIn_minute {received : List (MarketTick N)} {instrumentCode : String}
    {timeframe : Timeframe} (hmem : timeframe ∈ cascadeTimeframes) {ms minute : ℤ}
    (hminute : minute ∈ minutesOf timeframe (intervalStart timeframe ms)) :
    (ticksIn received instrumentCode timeframe (intervalStart timeframe ms)).filter
        (fun tick => startOf .m1 tick = minute) =
      ticksIn received instrumentCode .m1 minute := by
  rw [ticksIn, ticksIn, List.filter_filter]
  apply List.filter_congr
  intro tick _
  rw [← Bool.decide_and, decide_eq_decide]
  constructor
  · rintro ⟨hstart, hinstrument, -⟩
    exact ⟨hinstrument, hstart⟩
  · rintro ⟨hinstrument, rfl⟩
    exact ⟨rfl, hinstrument, (mem_minutesOf hmem ms _).mp hminute⟩

private theorem candlesAccount_of_accounted {feed : Feed N} (h : Accounted feed) :
    CandlesAccount feed := by
  refine ⟨?_, h.closedKept, ?_⟩
  · intro instrumentCode timeframe hmem openedAt
    have hfigures := h.figures instrumentCode timeframe hmem openedAt
    cases hcandle : feed.currentCandle instrumentCode timeframe openedAt with
    | none =>
      rw [hcandle] at hfigures
      exact figuresOf_eq_zero_iff.mp hfigures.symm
    | some candle =>
      rw [hcandle] at hfigures
      exact accountsFor_of_figuresOf hfigures.symm
  · intro instrumentCode timeframe hmem ms
    rw [h.figures instrumentCode timeframe hmem,
      figuresOf_flatMap (pairwise_minutesOf timeframe (intervalStart timeframe ms))]
    · congr 1
      apply List.map_congr_left
      intro minute hminute
      rw [h.figures instrumentCode .m1 (by decide), ticksIn_minute hmem hminute]
    · intro tick htick
      obtain ⟨-, -, hstart⟩ := mem_ticksIn.mp htick
      exact (mem_minutesOf hmem ms _).mpr hstart
    · apply List.Pairwise.imp_of_mem _ (h.ordered.filter _)
      intro earlier later hearlier hlater hle
      obtain ⟨-, hearlier, hstart⟩ := mem_ticksIn.mp hearlier
      obtain ⟨-, hlater, hstart'⟩ := mem_ticksIn.mp hlater
      exact hle (hearlier.trans hlater.symm) (startOf_h4 hmem (hstart.trans hstart'.symm))

/-- A run of valid ticks that each follow on the ones before, with fresh aggregators hydrated
anywhere, has a candle for every interval that accounts for its ticks once. -/
theorem run_candles_account {steps : List (Step N)}
    (hvalid : ∀ tick, Step.tick tick ∈ steps → Valid tick) (hfollow : StepsFollow [] steps) :
    ∃ feed, Feed.start.run steps = .ok feed ∧ CandlesAccount feed := by
  obtain ⟨feed, hrun, h⟩ := accounted_run hvalid accounted_start hfollow
  exact ⟨feed, hrun, candlesAccount_of_accounted h⟩

private def sampleTick (minute : ℤ) : MarketTick ℚ :=
  ⟨"BTC-USD", 100, 1, .buy, some (60000 * minute)⟩

private theorem valid_sampleTick {minute : ℤ} (h : |60000 * minute| ≤ 8640000000000000) :
    Valid (sampleTick minute) := by
  refine ⟨?_, _, rfl, h⟩
  show (0 : ℚ) < 100
  decide +kernel

/-- Two minutes with a restart in between. -/
theorem two_minutes_account :
    ∃ feed, Feed.start.run [Step.tick (sampleTick 0), .restart, .tick (sampleTick 1)] =
      .ok feed ∧ CandlesAccount feed := by
  apply run_candles_account
  · intro tick htick
    simp only [List.mem_cons, Step.tick.injEq, reduceCtorEq, List.not_mem_nil, or_false,
      false_or] at htick
    rcases htick with rfl | rfl
    · exact valid_sampleTick (by decide)
    · exact valid_sampleTick (by decide)
  · refine ⟨⟨by decide, ?_, fun h => absurd rfl h⟩, ⟨by decide, ?_, fun _ => ?_⟩, trivial⟩
    · exact fun _ h => absurd h List.not_mem_nil
    · intro earlier hearlier
      obtain ⟨hmem, -⟩ := mem_ticksIn.mp hearlier
      rw [List.mem_singleton.mp hmem]
      decide
    · exact ⟨sampleTick 0, (lastTick_append _ _ _).trans (if_pos rfl), by decide⟩

/-- A tick that comes a minute late takes the place of the first tick of its minute. -/
theorem late_tick_displaces_first :
    (∀ minute ∈ [0, 1, 0], Valid (sampleTick minute)) ∧
      ∃ feed, Feed.start.run ([0, 1, 0].map fun minute => Step.tick (sampleTick minute)) =
        .ok feed ∧ ¬ CandlesAccount feed := by
  constructor
  · intro minute hminute
    apply valid_sampleTick
    revert minute
    decide
  · have hfigures : (Feed.start.run ([0, 1, 0].map fun minute =>
        Step.tick (sampleTick minute))).map (fun feed =>
          ((feed.currentCandle "BTC-USD" .m1 0).map fun candle => candle.volume,
            ((ticksIn feed.received "BTC-USD" .m1 0).map tradeVolume).sum)) =
        .ok (some 1, 2) := by decide +kernel
    cases hrun : Feed.start.run ([0, 1, 0].map fun minute => Step.tick (sampleTick minute)) with
    | error message =>
      rw [hrun] at hfigures
      cases hfigures
    | ok feed =>
      rw [hrun] at hfigures
      obtain ⟨hvolume, hsum⟩ := Prod.mk.inj (Except.ok.inj hfigures)
      refine ⟨feed, rfl, fun h => ?_⟩
      have haccounts := h.accounts "BTC-USD" .m1 (by decide) 0
      cases hcandle : feed.currentCandle "BTC-USD" .m1 0 with
      | none =>
        rw [hcandle] at hvolume
        cases hvolume
      | some candle =>
        rw [hcandle] at haccounts hvolume
        have hone : candle.volume = 1 := Option.some.inj hvolume
        have htwo : candle.volume = 2 := haccounts.volume.trans hsum
        rw [hone] at htwo
        exact absurd htwo (by decide +kernel)

end Yevow.Cascade.Aggregation
