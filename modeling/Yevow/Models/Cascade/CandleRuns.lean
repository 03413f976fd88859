import Yevow.Core.Text.Separator
import Yevow.Models.Cascade.CandleFigures

/-!
# What candles account for

A run feeds ticks to an aggregator, stores the candles it closes, and may hydrate a fresh one from
it at any point. As long as no interval is opened again, the candle of every interval accounts for
all of its ticks.
-/

namespace Yevow.Cascade.Aggregation

variable {N : Type}

/-! ## Closed candles -/

/-- A key tells instruments and timeframes apart. -/
theorem candleKey_eq_iff {instrumentCode instrumentCode' : String}
    {timeframe timeframe' : Timeframe} :
    candleKey instrumentCode timeframe = candleKey instrumentCode' timeframe' ↔
      instrumentCode = instrumentCode' ∧ timeframe = timeframe' := by
  constructor
  · intro h
    have hfree : ∀ timeframe : Timeframe, Text.Free ':' timeframe.text := by
      intro timeframe
      cases timeframe <;> decide
    obtain ⟨hcode, htext⟩ := Text.append_sep_inj (show (":" : String).toList = [':'] from rfl)
      (hfree timeframe) (hfree timeframe') h
    refine ⟨hcode, ?_⟩
    revert htext
    cases timeframe <;> cases timeframe' <;> decide
  · rintro ⟨rfl, rfl⟩
    rfl

/-- Kept closed candles: under their key, ascending, at most a thousand. -/
def ClosedKept (recentClosedCandles : Rows String (List (Candle N))) : Prop :=
  ∀ key closed, recentClosedCandles.get? key = some closed →
    closed.Pairwise fun earlier later => earlier.openedAt < later.openedAt

private theorem closedKept_appendClosedCandle {aggregator : CascadeCandleAggregator N}
    (h : ClosedKept aggregator.recentClosedCandles) (candle : Candle N) :
    ClosedKept (aggregator.appendClosedCandle candle).recentClosedCandles := by
  apply Rows.forall_set h
  apply List.Pairwise.sublist (List.drop_sublist _ _)
  have hexisting : ((aggregator.recentClosedCandles.get?
      (candleKey candle.instrumentCode candle.timeframe)).getD []).Pairwise
        fun earlier later => earlier.openedAt < later.openedAt := by
    cases hget : aggregator.recentClosedCandles.get?
        (candleKey candle.instrumentCode candle.timeframe) with
    | none => exact List.Pairwise.nil
    | some closed => exact h _ closed hget
  have hdistinct : (((aggregator.recentClosedCandles.get?
      (candleKey candle.instrumentCode candle.timeframe)).getD []).filter
        (fun item => item.openedAt ≠ candle.openedAt) ++ [candle]).Pairwise
          fun left right => left.openedAt ≠ right.openedAt := by
    rw [List.pairwise_append]
    refine ⟨(hexisting.filter _).imp fun hlt => hlt.ne, List.pairwise_singleton _ _, ?_⟩
    intro item hitem other hother
    rw [List.mem_singleton.mp hother]
    simpa using (List.mem_filter.mp hitem).2
  have hsorted := Sorting.pairwise_sortBy
    (Sorting.respects_of_key fun (left right : Candle N) =>
      (sub_nonpos : left.openedAt - right.openedAt ≤ 0 ↔ left.openedAt ≤ right.openedAt))
    (((aggregator.recentClosedCandles.get?
      (candleKey candle.instrumentCode candle.timeframe)).getD []).filter
        (fun item => item.openedAt ≠ candle.openedAt) ++ [candle])
  have hne := (Sorting.perm_sortBy (fun left right : Candle N => left.openedAt - right.openedAt)
    (((aggregator.recentClosedCandles.get?
      (candleKey candle.instrumentCode candle.timeframe)).getD []).filter
        (fun item => item.openedAt ≠ candle.openedAt) ++ [candle])).pairwise_iff
    (fun hne => hne.symm) |>.mpr hdistinct
  exact hsorted.imp₂ (fun _ _ hle hne => lt_of_le_of_ne (by omega) hne) hne

/-! ## Serialized states -/

/-- Active candles lie open under their keys. -/
def ActiveKept (activeCandles : Rows String (Candle N)) : Prop :=
  ∀ key candle, activeCandles.get? key = some candle →
    key = candleKey candle.instrumentCode candle.timeframe ∧ candle.isClosed = false

/-- A restart keeps no more closed candles than allowed. -/
theorem closedKept_hydrate (state : AggregatorState N) :
    ClosedKept (CascadeCandleAggregator.hydrate state).recentClosedCandles := by
  have hfold : ∀ (candles : List (Candle N)) (aggregator : CascadeCandleAggregator N),
      ClosedKept aggregator.recentClosedCandles →
        ClosedKept (candles.foldl CascadeCandleAggregator.appendClosedCandle
          aggregator).recentClosedCandles := by
    intro candles
    induction candles with
    | nil => exact fun _ h => h
    | cons candle candles ih => exact fun _ h => ih _ (closedKept_appendClosedCandle h candle)
  exact hfold _ _ fun _ _ hnone => (Option.some_ne_none _ hnone.symm).elim

private theorem activeCandles_foldl (candles : List (Candle N))
    (aggregator : CascadeCandleAggregator N) :
    (candles.foldl CascadeCandleAggregator.appendClosedCandle aggregator).activeCandles =
      aggregator.activeCandles := by
  induction candles generalizing aggregator with
  | nil => rfl
  | cons candle candles ih => exact ih _

/-- A hydrated aggregator has the active candles of the one that was serialized. -/
theorem activeCandles_hydrate {aggregator : CascadeCandleAggregator N}
    (h : ActiveKept aggregator.activeCandles) (key : String) :
    (CascadeCandleAggregator.hydrate aggregator.serialize).activeCandles.get? key =
      aggregator.activeCandles.get? key := by
  have hopen : (aggregator.activeCandles.rows.filter fun candle => !candle.isClosed) =
      aggregator.activeCandles.rows := by
    apply List.filter_eq_self.mpr
    intro candle hcandle
    obtain ⟨key, hget⟩ := Rows.mem_rows_iff.mp hcandle
    rw [(h key candle hget).2]
    rfl
  have hentries : aggregator.activeCandles.rows.map
      (fun candle => (candleKey candle.instrumentCode candle.timeframe, candle)) =
      aggregator.activeCandles.entries := by
    rw [Rows.rows, List.map_map]
    conv_rhs => rw [← List.map_id aggregator.activeCandles.entries]
    apply List.map_congr_left
    rintro ⟨key, candle⟩ hentry
    show (candleKey candle.instrumentCode candle.timeframe, candle) = (key, candle)
    rw [← (h key candle (Rows.mem_entries_iff.mp hentry)).1]
  have hactive : (CascadeCandleAggregator.hydrate aggregator.serialize).activeCandles =
      aggregator.activeCandles.entries.foldl (fun rows entry => rows.set entry.1 entry.2)
        Rows.empty := by
    unfold CascadeCandleAggregator.hydrate
    dsimp only
    rw [activeCandles_foldl]
    show (aggregator.activeCandles.rows.filter fun candle => !candle.isClosed).foldl _ _ = _
    rw [hopen, ← hentries, List.foldl_map]
  ext candle
  rw [hactive, Rows.get?_foldl_set aggregator.activeCandles.nodup, Rows.mem_entries_iff]

section Ingest

variable [Field N] [LinearOrder N]

/-! ## One timeframe -/

/-- The candle that a tick opens. -/
def openedCandle (tick : MarketTick N) (timeframe : Timeframe) (observedAtMs : ℤ) : Candle N where
  instrumentCode := tick.instrumentCode
  timeframe
  openedAt := intervalStart timeframe observedAtMs
  closedAt := intervalStart timeframe observedAtMs + timeframeDurationMs timeframe
  «open» := tick.price
  high := tick.price
  low := tick.price
  close := tick.price
  volume := tradeVolume tick
  notionalVolume := tradeVolume tick * tick.price
  buyVolume := if tick.side = .buy then tradeVolume tick else 0
  sellVolume := if tick.side = .sell then tradeVolume tick else 0
  trades := if 0 < tradeVolume tick then 1 else 0
  isClosed := false

/-- What a tick makes of the active candle of a timeframe, and the candle that it closes. -/
def nextActive (tick : MarketTick N) (timeframe : Timeframe) (observedAtMs : ℤ) :
    Option (Candle N) → Candle N × Option (Candle N)
  | none => (openedCandle tick timeframe observedAtMs, none)
  | some active =>
    if active.openedAt = intervalStart timeframe observedAtMs then
      (mergeTickIntoCandle unrounded active tick, none)
    else (openedCandle tick timeframe observedAtMs, some { active with isClosed := true })

/-- A time of the calendar before its last one has an interval that lies on the calendar. -/
theorem createCandle_eq {tick : MarketTick N} {timeframe : Timeframe} {observedAtMs : ℤ}
    (hdate : |observedAtMs| ≤ JavaScript.Timestamp.maxTime)
    (hlast : observedAtMs ≠ JavaScript.Timestamp.maxTime) :
    createCandle tick timeframe (intervalStart timeframe observedAtMs)
      (timeframeDurationMs timeframe) = .ok (openedCandle tick timeframe observedAtMs) := by
  rw [abs_le, JavaScript.Timestamp.maxTime] at hdate
  rw [JavaScript.Timestamp.maxTime] at hlast
  have hstart : |intervalStart timeframe observedAtMs| ≤ JavaScript.Timestamp.maxTime := by
    rw [abs_le, JavaScript.Timestamp.maxTime]
    cases timeframe <;> simp only [intervalStart, timeframeDurationMs] <;> omega
  have hend : |intervalStart timeframe observedAtMs + timeframeDurationMs timeframe| ≤
      JavaScript.Timestamp.maxTime := by
    rw [abs_le, JavaScript.Timestamp.maxTime]
    cases timeframe <;> simp only [intervalStart, timeframeDurationMs] <;> omega
  unfold createCandle
  rw [isoDate, if_pos hstart, isoDate, if_pos hend]
  rfl

/-- The aggregator once a tick has gone into the candle of one timeframe. -/
def afterTimeframe (aggregator : CascadeCandleAggregator N) (tick : MarketTick N)
    (timeframe : Timeframe) (observedAtMs : ℤ) : CascadeCandleAggregator N :=
  let key := candleKey tick.instrumentCode timeframe
  let next := nextActive tick timeframe observedAtMs (aggregator.activeCandles.get? key)
  { next.2.elim aggregator aggregator.appendClosedCandle with
    activeCandles := aggregator.activeCandles.set key next.1 }

private theorem ingestTimeframe_eq {aggregator : CascadeCandleAggregator N}
    {tick : MarketTick N} {timeframe : Timeframe} {observedAtMs : ℤ}
    (hdate : |observedAtMs| ≤ JavaScript.Timestamp.maxTime)
    (hlast : observedAtMs ≠ JavaScript.Timestamp.maxTime) :
    aggregator.ingestTimeframe unrounded tick timeframe observedAtMs =
      .ok (afterTimeframe aggregator tick timeframe observedAtMs,
        (nextActive tick timeframe observedAtMs (aggregator.activeCandles.get?
          (candleKey tick.instrumentCode timeframe))).2) := by
  unfold CascadeCandleAggregator.ingestTimeframe afterTimeframe
  dsimp only
  rw [createCandle_eq hdate hlast]
  cases hactive : aggregator.activeCandles.get? (candleKey tick.instrumentCode timeframe) with
  | none => rfl
  | some active =>
    unfold nextActive
    dsimp only
    split_ifs
    · rfl
    · rfl

private theorem activeKept_afterTimeframe {aggregator : CascadeCandleAggregator N}
    (h : ActiveKept aggregator.activeCandles) (tick : MarketTick N) (timeframe : Timeframe)
    (observedAtMs : ℤ) :
    ActiveKept (afterTimeframe aggregator tick timeframe observedAtMs).activeCandles := by
  apply Rows.forall_set h
  cases hactive : aggregator.activeCandles.get? (candleKey tick.instrumentCode timeframe) with
  | none => exact ⟨rfl, rfl⟩
  | some active =>
    unfold nextActive
    dsimp only
    split_ifs
    · exact h _ active hactive
    · exact ⟨rfl, rfl⟩

private theorem closedKept_afterTimeframe {aggregator : CascadeCandleAggregator N}
    (h : ClosedKept aggregator.recentClosedCandles) (tick : MarketTick N) (timeframe : Timeframe)
    (observedAtMs : ℤ) :
    ClosedKept (afterTimeframe aggregator tick timeframe observedAtMs).recentClosedCandles := by
  unfold afterTimeframe
  dsimp only
  cases (nextActive tick timeframe observedAtMs (aggregator.activeCandles.get?
      (candleKey tick.instrumentCode timeframe))).2 with
  | none => exact h
  | some closed => exact closedKept_appendClosedCandle h closed

/-! ## All timeframes -/

/-- What a tick does to the candles of its timeframes. -/
structure Ingested (timeframes : List Timeframe) (tick : MarketTick N) (observedAtMs : ℤ)
    (before after : CascadeCandleAggregator N) (closed : List (Candle N)) : Prop where
  active : ∀ timeframe ∈ timeframes,
    after.activeCandles.get? (candleKey tick.instrumentCode timeframe) =
      some (nextActive tick timeframe observedAtMs
        (before.activeCandles.get? (candleKey tick.instrumentCode timeframe))).1
  other : ∀ key, (∀ timeframe ∈ timeframes, key ≠ candleKey tick.instrumentCode timeframe) →
    after.activeCandles.get? key = before.activeCandles.get? key
  closed : closed = timeframes.filterMap fun timeframe => (nextActive tick timeframe observedAtMs
    (before.activeCandles.get? (candleKey tick.instrumentCode timeframe))).2
  activeKept : ActiveKept before.activeCandles → ActiveKept after.activeCandles
  closedKept : ClosedKept before.recentClosedCandles → ClosedKept after.recentClosedCandles

/-- A tick reaches the candle of every timeframe once. -/
theorem ingestTimeframes_spec {tick : MarketTick N} {observedAtMs : ℤ}
    (hdate : |observedAtMs| ≤ JavaScript.Timestamp.maxTime)
    (hlast : observedAtMs ≠ JavaScript.Timestamp.maxTime) {timeframes : List Timeframe}
    (hnodup : timeframes.Nodup) (aggregator : CascadeCandleAggregator N) :
    ∃ after closed,
      CascadeCandleAggregator.ingestTimeframes unrounded tick observedAtMs timeframes aggregator =
        .ok (after, closed) ∧
      Ingested timeframes tick observedAtMs aggregator after closed := by
  induction timeframes generalizing aggregator with
  | nil =>
    exact ⟨aggregator, [], rfl, fun _ h => absurd h List.not_mem_nil, fun _ _ => rfl, rfl, id, id⟩
  | cons timeframe timeframes ih =>
    obtain ⟨hnot, hnodup⟩ := List.nodup_cons.mp hnodup
    obtain ⟨after, closed, hrest, hingested⟩ :=
      ih hnodup (afterTimeframe aggregator tick timeframe observedAtMs)
    have hkey : ∀ other ∈ timeframes, candleKey tick.instrumentCode timeframe ≠
        candleKey tick.instrumentCode other := by
      intro other hother heq
      exact hnot ((candleKey_eq_iff.mp heq).2 ▸ hother)
    have hsame : ∀ other ∈ timeframes,
        (afterTimeframe aggregator tick timeframe observedAtMs).activeCandles.get?
          (candleKey tick.instrumentCode other) =
        aggregator.activeCandles.get? (candleKey tick.instrumentCode other) := by
      intro other hother
      exact (Rows.get?_set _ _ _ _).trans (if_neg (hkey other hother).symm)
    refine ⟨after, (nextActive tick timeframe observedAtMs (aggregator.activeCandles.get?
      (candleKey tick.instrumentCode timeframe))).2.toList ++ closed, ?_, ?_⟩
    · unfold CascadeCandleAggregator.ingestTimeframes
      rw [ingestTimeframe_eq hdate hlast]
      show CascadeCandleAggregator.ingestTimeframes unrounded tick observedAtMs timeframes
        (afterTimeframe aggregator tick timeframe observedAtMs) >>= _ = _
      rw [hrest]
      rfl
    · refine ⟨?_, ?_, ?_, ?_, ?_⟩
      · intro other hother
        rcases List.mem_cons.mp hother with rfl | hother
        · rw [hingested.other _ hkey]
          exact Rows.get?_set_self _ _ _
        · rw [hingested.active other hother, hsame other hother]
      · intro key hne
        rw [hingested.other key fun other hother => hne other (List.mem_cons_of_mem _ hother)]
        exact (Rows.get?_set _ _ _ _).trans (if_neg (hne timeframe List.mem_cons_self))
      · rw [hingested.closed, List.filterMap_cons]
        have hrest : (timeframes.filterMap fun other => (nextActive tick other observedAtMs
            ((afterTimeframe aggregator tick timeframe observedAtMs).activeCandles.get?
              (candleKey tick.instrumentCode other))).2) =
            timeframes.filterMap fun other => (nextActive tick other observedAtMs
              (aggregator.activeCandles.get? (candleKey tick.instrumentCode other))).2 := by
          apply List.filterMap_congr
          intro other hother
          rw [hsame other hother]
        rw [hrest]
        cases (nextActive tick timeframe observedAtMs (aggregator.activeCandles.get?
            (candleKey tick.instrumentCode timeframe))).2 with
        | none => rfl
        | some closed => rfl
      · exact fun h => hingested.activeKept (activeKept_afterTimeframe h tick timeframe _)
      · exact fun h => hingested.closedKept (closedKept_afterTimeframe h tick timeframe _)

end Ingest

end Yevow.Cascade.Aggregation
