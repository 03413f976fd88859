import Mathlib.Data.Prod.Lex
import Yevow.Models.Cascade.CashAccount

/-!
# What a backtest knows of the future

Two backtests whose rows agree up to a time are compared up to that time. Every lookup of a replay
goes by the time it is made at, but for the slippage of its fills: that is drawn from all samples
of the time span, later ones included.
-/

namespace Yevow.Cascade

variable {dateParse : String → Option ℤ} {time : ℤ}

/-- A text is dated at or before a time. -/
def datedBy (dateParse : String → Option ℤ) (time : ℤ) (text : String) : Bool :=
  (dateParse text).any fun ms => ms ≤ time

private theorem datedBy_of_atOrBefore {left right : String}
    (h : atOrBefore dateParse left right = true)
    (hright : datedBy dateParse time right = true) : datedBy dateParse time left = true := by
  unfold atOrBefore at h
  unfold datedBy at hright ⊢
  cases hl : dateParse left with
  | none => simp only [hl, Bool.false_eq_true] at h
  | some leftMs =>
    cases hr : dateParse right with
    | none => simp only [hr, Option.any_none, Bool.false_eq_true] at hright
    | some rightMs =>
      simp only [hl, hr, Option.any_some, decide_eq_true_eq] at h hright ⊢
      omega

/-! ## Lookups -/

section Lookups

variable {N : Type} [Field N] [LinearOrder N] {ar : CascadeArithmetic N N}

/-- The data of two replays that tell the same up to a time. -/
structure SameBy (dateParse : String → Option ℤ) (time : ℤ) (data data' : ReplayData N) : Prop where
  config : data'.config = data.config
  candles : (data'.candles.filter fun candle => datedBy dateParse time candle.closedAt) =
    data.candles.filter fun candle => datedBy dateParse time candle.closedAt
  openInterest : (data'.openInterest.filter fun point => datedBy dateParse time point.observedAt) =
    data.openInterest.filter fun point => datedBy dateParse time point.observedAt
  slippage : ∀ instrumentCode observedAt, datedBy dateParse time observedAt = true →
    empiricalSlippage data'.slippageSamples instrumentCode observedAt =
      empiricalSlippage data.slippageSamples instrumentCode observedAt

/-- Rows up to an earlier time are found among the rows up to a later one. -/
private theorem filter_atOrBefore {α : Type} (date : α → String) (test : α → Bool)
    {observedAt : String} (h : datedBy dateParse time observedAt = true) (rows : List α) :
    ((rows.filter test).filter fun row => atOrBefore dateParse (date row) observedAt) =
      ((rows.filter fun row => datedBy dateParse time (date row)).filter test).filter
        fun row => atOrBefore dateParse (date row) observedAt := by
  rw [List.filter_filter, List.filter_filter, List.filter_filter]
  apply List.filter_congr
  intro row _
  cases hrow : atOrBefore dateParse (date row) observedAt with
  | false => simp only [Bool.false_and]
  | true => simp only [Bool.true_and, datedBy_of_atOrBefore hrow h, Bool.and_true]

variable {data data' : ReplayData N} (h : SameBy dateParse time data data') {observedAt : String}
  (hdated : datedBy dateParse time observedAt = true)

include h hdated

omit [Field N] [LinearOrder N] in
private theorem recentCandles_congr (instrumentCode : String) (count : ℕ) :
    recentCandles dateParse data' instrumentCode observedAt count =
      recentCandles dateParse data instrumentCode observedAt count := by
  unfold recentCandles
  rw [filter_atOrBefore ReplayCandle.closedAt _ hdated, h.candles,
    ← filter_atOrBefore ReplayCandle.closedAt _ hdated]

omit [Field N] [LinearOrder N] in
private theorem openInterestUntil_congr (instrumentCode : String) :
    openInterestUntil dateParse data' instrumentCode observedAt =
      openInterestUntil dateParse data instrumentCode observedAt := by
  unfold openInterestUntil
  rw [filter_atOrBefore OpenInterestPoint.observedAt _ hdated, h.openInterest,
    ← filter_atOrBefore OpenInterestPoint.observedAt _ hdated]

private theorem simulatedSlippageBps_congr (instrumentCode : String) :
    simulatedSlippageBps ar data' instrumentCode observedAt =
      simulatedSlippageBps ar data instrumentCode observedAt := by
  unfold simulatedSlippageBps
  rw [h.slippage instrumentCode observedAt hdated, h.config]

omit [LinearOrder N] hdated in
private theorem fillFees_congr (fillPrice size : N) :
    fillFees ar data' fillPrice size = fillFees ar data fillPrice size := by
  unfold fillFees
  rw [h.config]

end Lookups

/-! ## Events up to the time -/

section Events

variable {N : Type} [Field N] [LinearOrder N] {ar : CascadeArithmetic N N} {sqrt : N → N}
  {strategy : Strategy dateParse N} {data data' : ReplayData N}
  (h : SameBy dateParse time data data') {candle : ReplayCandle N}
  (hdated : datedBy dateParse time candle.closedAt = true)

include h in
private theorem processLiquidation_congr
    {liquidation : LiquidationEvent N strategy.LiquidationDetail}
    (hliquidation : datedBy dateParse time liquidation.observedAt = true)
    (runtime : ReplayRuntime strategy) :
    processLiquidation ar data' strategy liquidation runtime =
      processLiquidation ar data strategy liquidation runtime := by
  unfold processLiquidation
  rw [recentCandles_congr h hliquidation]

include h hdated

private theorem candleTick_congr :
    candleTick dateParse ar data' candle = candleTick dateParse ar data candle := by
  unfold candleTick
  rw [recentCandles_congr h hdated, recentCandles_congr h hdated]

private theorem closeTrades_congr (entryPriceByPosition : Rows String N)
    (updates : List (PositionManagerUpdate N N)) :
    closeTrades ar data' entryPriceByPosition candle updates =
      closeTrades ar data entryPriceByPosition candle updates := by
  have htrade : ∀ (position : CascadeOpenPosition N N) (closeSize : N),
      closeTrade ar data' entryPriceByPosition position closeSize candle =
        closeTrade ar data entryPriceByPosition position closeSize candle := by
    intro position closeSize
    simp only [closeTrade, simulatedSlippageBps_congr h hdated, fillFees_congr h]
  simp only [closeTrades, htrade]

private theorem observeAbsorption_congr (runtime : ReplayRuntime strategy) :
    observeAbsorption ar data' strategy candle runtime =
      observeAbsorption ar data strategy candle runtime := by
  have hinterest : ∀ instrument,
      latestOpenInterest dateParse data' instrument candle.closedAt =
        latestOpenInterest dateParse data instrument candle.closedAt := by
    intro instrument
    unfold latestOpenInterest
    rw [openInterestUntil_congr h hdated]
  simp only [observeAbsorption, hinterest]

private theorem evaluateSignal_congr (runtime : ReplayRuntime strategy) :
    evaluateSignal ar data' strategy candle runtime =
      evaluateSignal ar data strategy candle runtime := by
  simp only [evaluateSignal, openInterestDeltaAt, recentCandles_congr h hdated,
    openInterestUntil_congr h hdated, h.config]

omit h hdated in
/-- A signal is dated by the candle that it is evaluated on. -/
private theorem emittedAt_of_evaluateSignal {runtime : ReplayRuntime strategy}
    {signal : EmittedSignal N} {ms : ℤ} (hms : dateParse candle.closedAt = some ms)
    (hsignal : evaluateSignal ar data strategy candle runtime = some (.ok signal)) :
    dateParse signal.emittedAt = some ms := by
  simp only [evaluateSignal, Option.bind_eq_bind, Option.pure_def, Option.bind_eq_some_iff,
    Option.some.injEq] at hsignal
  obtain ⟨absorption, -, cascade, -, heval⟩ := hsignal
  exact strategy.dateParse_emittedAt heval hms

private theorem entryTrade_congr {signal : EmittedSignal N}
    (hsignal : dateParse signal.emittedAt = dateParse candle.closedAt) (size : N) :
    entryTrade ar data' signal size candle = entryTrade ar data signal size candle := by
  have hemitted : datedBy dateParse time signal.emittedAt = true := by
    unfold datedBy at hdated ⊢
    rw [hsignal]
    exact hdated
  simp only [entryTrade, simulatedSlippageBps_congr h hemitted, fillFees_congr h]

private theorem processCandle_congr (equity : N) (runtime : ReplayRuntime strategy) :
    processCandle ar sqrt data' strategy candle equity runtime =
      processCandle ar sqrt data strategy candle equity runtime := by
  have hsize : ∀ signal (manager : PositionManager N N),
      sizeBacktestSignal ar sqrt data' signal equity manager =
        sizeBacktestSignal ar sqrt data signal equity manager := by
    intro signal manager
    simp only [sizeBacktestSignal, h.config]
  unfold processCandle
  simp only [candleTick_congr h hdated, closeTrades_congr h hdated,
    observeAbsorption_congr h hdated,
    evaluateSignal_congr h hdated, hsize]
  split
  · next signal hsignal =>
    have hemitted : dateParse signal.emittedAt = dateParse candle.closedAt := by
      cases hms : dateParse candle.closedAt with
      | none => simp only [datedBy, hms, Option.any_none, Bool.false_eq_true] at hdated
      | some ms => exact emittedAt_of_evaluateSignal hms hsignal
    simp only [enterBacktestSignal, entryTrade_congr h hdated hemitted]
  · rfl

omit hdated in
/-- An event up to the time is processed alike. -/
private theorem process_congr {event : TimelineEvent N strategy.LiquidationDetail}
    (hevent : datedBy dateParse time event.observedAt = true) (replay : Replay strategy) :
    replay.process ar sqrt data' strategy event = replay.process ar sqrt data strategy event := by
  cases event with
  | liquidation liquidation =>
    simp only [Replay.process, processLiquidation_congr h hevent]
  | candle candle => simp only [Replay.process, processCandle_congr h hevent]

omit hdated in
private theorem foldl_process_congr {events : List (TimelineEvent N strategy.LiquidationDetail)}
    (hevents : ∀ event ∈ events, datedBy dateParse time event.observedAt = true)
    (replay : Replay strategy) :
    events.foldl (Replay.process ar sqrt data' strategy) replay =
      events.foldl (Replay.process ar sqrt data strategy) replay := by
  induction events generalizing replay with
  | nil => rfl
  | cons event events ih =>
    rw [List.foldl_cons, List.foldl_cons,
      process_congr h (hevents event List.mem_cons_self) replay]
    exact ih (fun event hevent => hevents event (List.mem_cons_of_mem _ hevent)) _

end Events

/-! ## Events after the time -/

section Later

variable {N : Type} [Field N] [LinearOrder N] {ar : CascadeArithmetic N N} {sqrt : N → N}
  {strategy : Strategy dateParse N} {data : ReplayData N}

/-- What of a replay is dated at or before a time. -/
def tradesBy (dateParse : String → Option ℤ) (time : ℤ) (trades : List (BacktestTrade N)) :
    List (BacktestTrade N) :=
  trades.filter fun trade => datedBy dateParse time trade.exitAt

/-- The signals emitted up to some moment. -/
def signalsBy (dateParse : String → Option ℤ) (time : ℤ) (signals : List (EmittedSignal N)) :
    List (EmittedSignal N) :=
  signals.filter fun signal => datedBy dateParse time signal.emittedAt

private theorem exitAt_processCandle {candle : ReplayCandle N} {equity : N}
    {runtime : ReplayRuntime strategy} {trade : BacktestTrade N}
    (htrade : trade ∈ (processCandle ar sqrt data strategy candle equity runtime).trades) :
    trade.exitAt = candle.closedAt := by
  have hclosed : ∀ updates entryPriceByPosition,
      trade ∈ closeTrades ar data entryPriceByPosition candle updates →
        trade.exitAt = candle.closedAt := by
    intro updates entryPriceByPosition hmem
    obtain ⟨update, -, hupdate⟩ := List.mem_flatMap.mp hmem
    obtain ⟨intent, -, rfl⟩ := List.mem_map.mp hupdate
    rfl
  unfold processCandle at htrade
  dsimp only at htrade
  split at htrade
  · split_ifs at htrade
    · rcases List.mem_append.mp htrade with hmem | hmem
      · exact hclosed _ _ hmem
      · obtain rfl := List.mem_singleton.mp hmem
        rfl
    · exact hclosed _ _ htrade
  · exact hclosed _ _ htrade

private theorem emittedAt_processCandle {candle : ReplayCandle N} {equity : N}
    {runtime : ReplayRuntime strategy} {ms : ℤ} (hms : dateParse candle.closedAt = some ms)
    {signal : EmittedSignal N}
    (hsignal : signal ∈ (processCandle ar sqrt data strategy candle equity runtime).signals) :
    dateParse signal.emittedAt = some ms := by
  unfold processCandle at hsignal
  dsimp only at hsignal
  split at hsignal
  · next emitted hemitted =>
    split_ifs at hsignal
    · obtain rfl := List.mem_singleton.mp hsignal
      exact emittedAt_of_evaluateSignal hms hemitted
    · exact absurd hsignal List.not_mem_nil
  · exact absurd hsignal List.not_mem_nil

omit [LinearOrder N] in
private theorem book_trades (trades : List (BacktestTrade N)) (replay : Replay strategy) :
    (trades.foldl (Replay.book ar strategy) replay).trades = replay.trades ++ trades ∧
      (trades.foldl (Replay.book ar strategy) replay).signals = replay.signals := by
  induction trades generalizing replay with
  | nil => exact ⟨(List.append_nil _).symm, rfl⟩
  | cons trade trades ih =>
    obtain ⟨htrades, hsignals⟩ := ih (replay.book ar strategy trade)
    rw [List.foldl_cons, htrades]
    refine ⟨?_, hsignals⟩
    show replay.trades ++ [trade] ++ trades = _
    rw [List.append_assoc, List.singleton_append]

/-- An event after the time adds nothing up to it. -/
private theorem process_later {event : TimelineEvent N strategy.LiquidationDetail} {ms : ℤ}
    (hms : dateParse event.observedAt = some ms) (hlater : time < ms) (replay : Replay strategy) :
    tradesBy dateParse time (replay.process ar sqrt data strategy event).trades =
        tradesBy dateParse time replay.trades ∧
      signalsBy dateParse time (replay.process ar sqrt data strategy event).signals =
        signalsBy dateParse time replay.signals := by
  cases event with
  | liquidation liquidation => exact ⟨rfl, rfl⟩
  | candle candle =>
    obtain ⟨htrades, hsignals⟩ := @book_trades dateParse N _ ar strategy
      (processCandle ar sqrt data strategy candle replay.equity replay.runtime).trades
      { replay with runtime :=
          (processCandle ar sqrt data strategy candle replay.equity replay.runtime).runtime }
    have hlate : ¬ms ≤ time := by omega
    have htrades' : (replay.process ar sqrt data strategy (.candle candle)).trades =
        replay.trades ++
          (processCandle ar sqrt data strategy candle replay.equity replay.runtime).trades :=
            htrades
    have hsignals' : (replay.process ar sqrt data strategy (.candle candle)).signals =
        replay.signals ++
          (processCandle ar sqrt data strategy candle replay.equity replay.runtime).signals :=
      congrArg (· ++ _) hsignals
    have hnoTrade : tradesBy dateParse time (processCandle ar sqrt data strategy candle
        replay.equity replay.runtime).trades = [] := by
      apply List.filter_eq_nil_iff.mpr
      intro trade htrade
      rw [exitAt_processCandle htrade]
      simp only [datedBy, show dateParse candle.closedAt = some ms from hms, Option.any_some,
        hlate, decide_false, Bool.false_eq_true, not_false_eq_true]
    have hnoSignal : signalsBy dateParse time (processCandle ar sqrt data strategy candle
        replay.equity replay.runtime).signals = [] := by
      apply List.filter_eq_nil_iff.mpr
      intro signal hsignal
      simp only [datedBy, emittedAt_processCandle hms hsignal, Option.any_some, hlate,
        decide_false, Bool.false_eq_true, not_false_eq_true]
    constructor
    · rw [htrades', tradesBy, List.filter_append]
      exact (congrArg _ hnoTrade).trans (List.append_nil _)
    · rw [hsignals', signalsBy, List.filter_append]
      exact (congrArg _ hnoSignal).trans (List.append_nil _)

private theorem foldl_process_later
    {events : List (TimelineEvent N strategy.LiquidationDetail)}
    (hevents : ∀ event ∈ events, ∃ ms, dateParse event.observedAt = some ms ∧ time < ms)
    (replay : Replay strategy) :
    tradesBy dateParse time (events.foldl (Replay.process ar sqrt data strategy) replay).trades =
        tradesBy dateParse time replay.trades ∧
      signalsBy dateParse time
          (events.foldl (Replay.process ar sqrt data strategy) replay).signals =
        signalsBy dateParse time replay.signals := by
  induction events generalizing replay with
  | nil => exact ⟨rfl, rfl⟩
  | cons event events ih =>
    obtain ⟨ms, hms, hlater⟩ := hevents event List.mem_cons_self
    obtain ⟨htrades, hsignals⟩ := ih
      (fun event hevent => hevents event (List.mem_cons_of_mem _ hevent))
      (replay.process ar sqrt data strategy event)
    obtain ⟨hstep, hstep'⟩ := @process_later dateParse time N _ _ ar sqrt strategy data event ms hms
      hlater replay
    exact ⟨htrades.trans hstep, hsignals.trans hstep'⟩

end Later

/-! ## Rows up to the time -/

section Rows

variable {N R : Type} [Field N] [LinearOrder N]

/-- Rows with valid dates are sorted by them. -/
private theorem sortBy_dates {α : Type} {date : α → String} {rows : List α}
    (hrows : ∀ row ∈ rows, (dateParse (date row)).isSome) :
    Sorting.sortBy (fun left right => compareTimes dateParse (date left) (date right)) rows =
      Sorting.sortBy
        (fun left right => (dateParse (date left)).getD 0 - (dateParse (date right)).getD 0)
          rows := by
  apply Sorting.sortBy_congr
  intro left hleft right hright
  obtain ⟨leftMs, hleft⟩ := Option.isSome_iff_exists.mp (hrows left hleft)
  obtain ⟨rightMs, hright⟩ := Option.isSome_iff_exists.mp (hrows right hright)
  simp only [compareTimes, hleft, hright, Option.getD_some]

private theorem respects_dates {α : Type} (date : α → String) :
    Sorting.Respects
      (fun left right => (dateParse (date left)).getD 0 - (dateParse (date right)).getD 0)
      fun left right => (dateParse (date left)).getD 0 - (dateParse (date right)).getD 0 ≤ 0 :=
  Sorting.respects_of_key fun _ _ => sub_nonpos

/-- The rows that a test keeps of a sorted list. -/
private theorem filter_sortBy_dates {α : Type} {date : α → String} {rows : List α}
    (hrows : ∀ row ∈ rows, (dateParse (date row)).isSome) (test : α → Bool) :
    (Sorting.sortBy (fun left right => compareTimes dateParse (date left) (date right))
      rows).filter test =
      Sorting.sortBy (fun left right => compareTimes dateParse (date left) (date right))
        (rows.filter test) := by
  rw [sortBy_dates hrows, Sorting.filter_sortBy (respects_dates date),
    sortBy_dates fun row hrow => hrows row (List.mem_of_mem_filter hrow)]

/-- What is dated by a time comes before what is not. -/
private theorem pairwise_sortBy_dates {α : Type} {date : α → String} {rows : List α}
    (hrows : ∀ row ∈ rows, (dateParse (date row)).isSome) :
    (Sorting.sortBy (fun left right => compareTimes dateParse (date left) (date right))
      rows).Pairwise fun left right => datedBy dateParse time (date right) = true →
        datedBy dateParse time (date left) = true := by
  rw [sortBy_dates hrows]
  apply List.Pairwise.imp_of_mem _ (Sorting.pairwise_sortBy (respects_dates date) rows)
  intro left right hleft hright hle hdated
  obtain ⟨leftMs, hleft⟩ := Option.isSome_iff_exists.mp
    (hrows left ((Sorting.perm_sortBy _ _).mem_iff.mp hleft))
  obtain ⟨rightMs, hright⟩ := Option.isSome_iff_exists.mp
    (hrows right ((Sorting.perm_sortBy _ _).mem_iff.mp hright))
  simp only [datedBy, hleft, hright, Option.getD_some, Option.any_some, decide_eq_true_eq]
    at hle hdated ⊢
  omega

private theorem compareTexts_nonpos (left right : String) :
    compareTexts left right ≤ 0 ↔ left ≤ right := by
  unfold compareTexts
  split_ifs with hlt heq
  · simp [hlt.le]
  · simp [heq]
  · simp [lt_of_le_of_ne (not_lt.mp hlt) (Ne.symm heq)]

private theorem compareColumns_nonpos (left right : String × String) :
    compareColumns left right ≤ 0 ↔ toLex left ≤ toLex right := by
  obtain ⟨left, left'⟩ := left
  obtain ⟨right, right'⟩ := right
  rw [Prod.Lex.toLex_le_toLex]
  simp only [compareColumns]
  split_ifs with heq
  · simp [compareTexts_nonpos, heq]
  · simp [compareTexts_nonpos, heq, lt_iff_le_and_ne]

/-- Rows are selected, sorted and renamed by what a test on their dates does not see. -/
private theorem filter_load {α : Type} (date : α → String) {compare : α → α → ℤ}
    (hcompare : Sorting.Respects compare fun a b => compare a b ≤ 0) (select : α → Bool)
    {rename : α → α} (hrename : ∀ row, date (rename row) = date row) (test : String → Bool)
    (rows : List α) :
    ((Sorting.sortBy compare (rows.filter select)).map rename).filter (fun row => test (date row)) =
      (Sorting.sortBy compare
        ((rows.filter fun row => test (date row)).filter select)).map rename := by
  rw [List.filter_map, show (fun row => test (date row)) ∘ rename = fun row => test (date row) from
    funext fun row => congrArg test (hrename row), Sorting.filter_sortBy hcompare,
    List.filter_filter, List.filter_filter]
  simp only [Bool.and_comm]

private theorem filter_sanitize {α : Type} (date : α → String) (select : α → Bool)
    {rename : α → α} (hrename : ∀ row, date (rename row) = date row) (test : String → Bool)
    (rows : List α) :
    ((rows.filter select).map rename).filter (fun row => test (date row)) =
      ((rows.filter fun row => test (date row)).filter select).map rename := by
  rw [List.filter_map, show (fun row => test (date row)) ∘ rename = fun row => test (date row) from
    funext fun row => congrArg test (hrename row), List.filter_filter, List.filter_filter]
  simp only [Bool.and_comm]

end Rows

/-! ## Two backtests -/

section Runs

variable {N : Type} [Field N] [LinearOrder N] {R : Type}

/-- Two sets of data for one backtest that agree on all rows dated at or before a time. -/
structure AgreeBy (dateParse : String → Option ℤ) (time : ℤ) (input input' : BacktestInput N R)
    (tables tables' : BacktestTables N R) : Prop where
  fromDate : input'.fromDate = input.fromDate
  toDate : input'.toDate = input.toDate
  instruments : input'.instruments = input.instruments
  startingEquity : input'.startingEquity = input.startingEquity
  enabled : input'.enabled = input.enabled
  config : input'.config = input.config
  candles : (input'.candles.filter fun row => datedBy dateParse time row.closedAt) =
    input.candles.filter fun row => datedBy dateParse time row.closedAt
  liquidations : (input'.liquidations.filter fun row => datedBy dateParse time row.observedAt) =
    input.liquidations.filter fun row => datedBy dateParse time row.observedAt
  openInterest : (input'.openInterest.filter fun row => datedBy dateParse time row.observedAt) =
    input.openInterest.filter fun row => datedBy dateParse time row.observedAt
  storedCandles : (tables'.candles.filter fun row => datedBy dateParse time row.closedAt) =
    tables.candles.filter fun row => datedBy dateParse time row.closedAt
  storedLiquidations :
    (tables'.cascadeLiquidations.filter fun row => datedBy dateParse time row.observedAt) =
      tables.cascadeLiquidations.filter fun row => datedBy dateParse time row.observedAt
  executionQuality :
    (tables'.executionQuality.filter fun row => datedBy dateParse time row.observedAt) =
      tables.executionQuality.filter fun row => datedBy dateParse time row.observedAt

/-- Data whose timestamps are valid. -/
structure Timed (dateParse : String → Option ℤ) (input : BacktestInput N R)
    (tables : BacktestTables N R) : Prop where
  candles : ∀ row ∈ input.candles, (dateParse row.closedAt).isSome
  liquidations : ∀ row ∈ input.liquidations, (dateParse row.observedAt).isSome
  openInterest : ∀ row ∈ input.openInterest, (dateParse row.observedAt).isSome
  storedCandles : ∀ row ∈ tables.candles, (dateParse row.closedAt).isSome
  storedLiquidations : ∀ row ∈ tables.cascadeLiquidations, (dateParse row.observedAt).isSome
  executionQuality : ∀ row ∈ tables.executionQuality, (dateParse row.observedAt).isSome

/-- The samples of the two spans give the same slippage up to the time, and the rows of both
backtests come from the same source. -/
structure SameSources (dateParse : String → Option ℤ) (time : ℤ)
    (input input' : BacktestInput N R) (tables tables' : BacktestTables N R) : Prop where
  slippage : ∀ instrumentCode observedAt, datedBy dateParse time observedAt = true →
    empiricalSlippage (input'.loadSlippageSamples tables'.executionQuality) instrumentCode
        observedAt =
      empiricalSlippage (input.loadSlippageSamples tables.executionQuality) instrumentCode
        observedAt
  candles : sanitizeCandles input'.candles input'.instruments = [] ↔
    sanitizeCandles input.candles input.instruments = []
  liquidations : sanitizeLiquidations input'.liquidations input'.instruments = [] ↔
    sanitizeLiquidations input.liquidations input.instruments = []

variable {input input' : BacktestInput N R} {tables tables' : BacktestTables N R}

omit [Field N] [LinearOrder N] in
/-- The candles that a backtest replays have the dates of the rows they are taken from. -/
private theorem timed_allCandles (h : Timed dateParse input tables) :
    ∀ row ∈ input.allCandles dateParse tables, (dateParse row.closedAt).isSome := by
  intro row hrow
  unfold BacktestInput.allCandles at hrow
  dsimp only at hrow
  rcases List.mem_append.mp ((Sorting.perm_sortBy _ _).mem_iff.mp hrow) with hmem | hmem
  · obtain ⟨source, hsource, rfl⟩ := List.mem_map.mp hmem
    exact h.candles source (List.mem_of_mem_filter hsource)
  · split_ifs at hmem
    · exact absurd hmem List.not_mem_nil
    · obtain ⟨source, hsource, rfl⟩ := List.mem_map.mp hmem
      exact h.storedCandles source
        (List.mem_of_mem_filter ((Sorting.perm_sortBy _ _).mem_iff.mp hsource))

omit [Field N] [LinearOrder N] in
private theorem timed_allLiquidations (h : Timed dateParse input tables) :
    ∀ row ∈ input.allLiquidations dateParse tables, (dateParse row.observedAt).isSome := by
  intro row hrow
  unfold BacktestInput.allLiquidations at hrow
  dsimp only at hrow
  rcases List.mem_append.mp ((Sorting.perm_sortBy _ _).mem_iff.mp hrow) with hmem | hmem
  · obtain ⟨source, hsource, rfl⟩ := List.mem_map.mp hmem
    exact h.liquidations source (List.mem_of_mem_filter hsource)
  · split_ifs at hmem
    · exact absurd hmem List.not_mem_nil
    · obtain ⟨source, hsource, rfl⟩ := List.mem_map.mp hmem
      exact h.storedLiquidations source
        (List.mem_of_mem_filter ((Sorting.perm_sortBy _ _).mem_iff.mp hsource))

/-- The candles up to the time are replayed from the same rows. -/
private theorem filter_allCandles (hagree : AgreeBy dateParse time input input' tables tables')
    (htimed : Timed dateParse input tables) (htimed' : Timed dateParse input' tables')
    (hsource : SameSources dateParse time input input' tables tables') :
    ((input'.allCandles dateParse tables').filter fun row => datedBy dateParse time row.closedAt) =
      (input.allCandles dateParse tables).filter fun row =>
        datedBy dateParse time row.closedAt := by
  have hsorted : ∀ (input : BacktestInput N R) (tables : BacktestTables N R),
      Timed dateParse input tables →
      ((input.allCandles dateParse tables).filter fun row =>
        datedBy dateParse time row.closedAt) =
        Sorting.sortBy (fun left right => compareTimes dateParse left.closedAt right.closedAt)
          (sanitizeCandles (input.candles.filter fun row => datedBy dateParse time row.closedAt)
            input.instruments ++
            if 0 < (sanitizeCandles input.candles input.instruments).length then []
            else input.loadCandles
              (tables.candles.filter fun row => datedBy dateParse time row.closedAt)) := by
    intro input tables htimed
    have hall := timed_allCandles htimed
    unfold BacktestInput.allCandles at hall ⊢
    dsimp only at hall ⊢
    rw [filter_sortBy_dates fun row hrow => hall row ((Sorting.perm_sortBy _ _).mem_iff.mpr hrow),
      List.filter_append]
    congr 2
    · unfold sanitizeCandles
      apply filter_sanitize ReplayCandle.closedAt
      exact fun _ => rfl
    · rw [apply_ite (List.filter _), List.filter_nil]
      unfold BacktestInput.loadCandles
      congr 1
      apply filter_load ReplayCandle.closedAt
      · exact Sorting.respects_of_key fun _ _ => compareColumns_nonpos _ _
      · exact fun _ => rfl
  have hempty : 0 < (sanitizeCandles input'.candles input'.instruments).length ↔
      0 < (sanitizeCandles input.candles input.instruments).length := by
    rw [List.length_pos_iff, List.length_pos_iff, Ne, Ne, hsource.candles]
  rw [hsorted input' tables' htimed', hsorted input tables htimed, hagree.candles,
    hagree.storedCandles, if_congr hempty rfl rfl, hagree.instruments]
  simp only [BacktestInput.loadCandles, BacktestInput.spans, hagree.fromDate, hagree.toDate,
    hagree.instruments]

private theorem filter_allLiquidations
    (hagree : AgreeBy dateParse time input input' tables tables')
    (htimed : Timed dateParse input tables) (htimed' : Timed dateParse input' tables')
    (hsource : SameSources dateParse time input input' tables tables') :
    ((input'.allLiquidations dateParse tables').filter fun row =>
      datedBy dateParse time row.observedAt) =
      (input.allLiquidations dateParse tables).filter fun row =>
        datedBy dateParse time row.observedAt := by
  have hsorted : ∀ (input : BacktestInput N R) (tables : BacktestTables N R),
      Timed dateParse input tables →
      ((input.allLiquidations dateParse tables).filter fun row =>
        datedBy dateParse time row.observedAt) =
        Sorting.sortBy (fun left right => compareTimes dateParse left.observedAt right.observedAt)
          (sanitizeLiquidations
            (input.liquidations.filter fun row => datedBy dateParse time row.observedAt)
            input.instruments ++
            if 0 < (sanitizeLiquidations input.liquidations input.instruments).length then []
            else input.loadLiquidations
              (tables.cascadeLiquidations.filter fun row =>
                datedBy dateParse time row.observedAt)) := by
    intro input tables htimed
    have hall := timed_allLiquidations htimed
    unfold BacktestInput.allLiquidations at hall ⊢
    dsimp only at hall ⊢
    rw [filter_sortBy_dates fun row hrow => hall row ((Sorting.perm_sortBy _ _).mem_iff.mpr hrow),
      List.filter_append]
    congr 2
    · unfold sanitizeLiquidations
      apply filter_sanitize LiquidationEvent.observedAt
      exact fun _ => rfl
    · rw [apply_ite (List.filter _), List.filter_nil]
      unfold BacktestInput.loadLiquidations
      congr 1
      apply filter_load LiquidationEvent.observedAt
      · exact Sorting.respects_of_key fun _ _ => compareTexts_nonpos _ _
      · exact fun _ => rfl
  have hempty : 0 < (sanitizeLiquidations input'.liquidations input'.instruments).length ↔
      0 < (sanitizeLiquidations input.liquidations input.instruments).length := by
    rw [List.length_pos_iff, List.length_pos_iff, Ne, Ne, hsource.liquidations]
  rw [hsorted input' tables' htimed', hsorted input tables htimed, hagree.liquidations,
    hagree.storedLiquidations, if_congr hempty rfl rfl, hagree.instruments]
  simp only [BacktestInput.loadLiquidations, BacktestInput.spans, hagree.fromDate, hagree.toDate,
    hagree.instruments]

private theorem sameBy_replayData (hagree : AgreeBy dateParse time input input' tables tables')
    (htimed : Timed dateParse input tables) (htimed' : Timed dateParse input' tables')
    (hsource : SameSources dateParse time input input' tables tables') :
    SameBy dateParse time (input.replayData dateParse tables)
      (input'.replayData dateParse tables') where
  config := hagree.config
  candles := filter_allCandles hagree htimed htimed' hsource
  openInterest := by
    have hsorted : ∀ (input : BacktestInput N R) (tables : BacktestTables N R),
        Timed dateParse input tables →
        ((input.replayData dateParse tables).openInterest.filter fun row =>
          datedBy dateParse time row.observedAt) =
          Sorting.sortBy
            (fun left right => compareTimes dateParse left.observedAt right.observedAt)
            (sanitizeOpenInterest
              (input.openInterest.filter fun row => datedBy dateParse time row.observedAt)
              input.instruments) := by
      intro input tables htimed
      have hall : ∀ row ∈ sanitizeOpenInterest input.openInterest input.instruments,
          (dateParse row.observedAt).isSome := by
        intro row hrow
        obtain ⟨source, hsource, rfl⟩ := List.mem_map.mp hrow
        exact htimed.openInterest source (List.mem_of_mem_filter hsource)
      show (Sorting.sortBy _ (sanitizeOpenInterest input.openInterest input.instruments)).filter
        _ = _
      rw [filter_sortBy_dates hall]
      congr 1
      unfold sanitizeOpenInterest
      apply filter_sanitize OpenInterestPoint.observedAt
      exact fun _ => rfl
    rw [hsorted input' tables' htimed', hsorted input tables htimed, hagree.openInterest,
      hagree.instruments]
  slippage := hsource.slippage

omit [Field N] [LinearOrder N] in
private theorem timed_timeline (h : Timed dateParse input tables) :
    ∀ event ∈ timeline dateParse (input.allCandles dateParse tables)
      (input.allLiquidations dateParse tables), (dateParse event.observedAt).isSome := by
  intro event hevent
  rcases List.mem_append.mp ((Sorting.perm_sortBy _ _).mem_iff.mp hevent) with hmem | hmem
  · obtain ⟨liquidation, hliquidation, rfl⟩ := List.mem_map.mp hmem
    exact timed_allLiquidations h liquidation hliquidation
  · obtain ⟨candle, hcandle, rfl⟩ := List.mem_map.mp hmem
    exact timed_allCandles h candle hcandle

omit [Field N] [LinearOrder N] in
/-- A timeline is replayed up to the time first, and on from there. -/
private theorem timeline_split (h : Timed dateParse input tables) :
    ((timeline dateParse (input.allCandles dateParse tables)
        (input.allLiquidations dateParse tables)).filter fun event =>
      datedBy dateParse time event.observedAt) ++
      ((timeline dateParse (input.allCandles dateParse tables)
        (input.allLiquidations dateParse tables)).filter fun event =>
          !datedBy dateParse time event.observedAt) =
      timeline dateParse (input.allCandles dateParse tables)
        (input.allLiquidations dateParse tables) := by
  apply Sorting.filter_append_filter_not
  exact pairwise_sortBy_dates fun event hevent =>
    timed_timeline h event ((Sorting.perm_sortBy _ _).mem_iff.mpr hevent)

private theorem filter_timeline (hagree : AgreeBy dateParse time input input' tables tables')
    (htimed : Timed dateParse input tables) (htimed' : Timed dateParse input' tables')
    (hsource : SameSources dateParse time input input' tables tables') :
    ((timeline dateParse (input'.allCandles dateParse tables')
        (input'.allLiquidations dateParse tables')).filter fun event =>
      datedBy dateParse time event.observedAt) =
      (timeline dateParse (input.allCandles dateParse tables)
        (input.allLiquidations dateParse tables)).filter fun event =>
          datedBy dateParse time event.observedAt := by
  have hsorted : ∀ (input : BacktestInput N R) (tables : BacktestTables N R),
      Timed dateParse input tables →
      ((timeline dateParse (input.allCandles dateParse tables)
        (input.allLiquidations dateParse tables)).filter fun event =>
          datedBy dateParse time event.observedAt) =
        Sorting.sortBy (fun left right => compareTimes dateParse left.observedAt right.observedAt)
          ((((input.allLiquidations dateParse tables).filter fun row =>
            datedBy dateParse time row.observedAt).map .liquidation) ++
            (((input.allCandles dateParse tables).filter fun row =>
              datedBy dateParse time row.closedAt).map .candle)) := by
    intro input tables htimed
    have hall := timed_timeline htimed
    unfold timeline at hall ⊢
    rw [filter_sortBy_dates fun row hrow => hall row ((Sorting.perm_sortBy _ _).mem_iff.mpr hrow),
      List.filter_append, List.filter_map, List.filter_map]
    rfl
  rw [hsorted input' tables' htimed', hsorted input tables htimed,
    filter_allLiquidations hagree htimed htimed' hsource,
    filter_allCandles hagree htimed htimed' hsource]

end Runs

section Report

variable {N : Type} [Field N] [LinearOrder N]

/-- Two backtests whose data agree up to a time give the same trades and signals up to it, if the
slippage samples of later times draw the same fills and no source of rows is exchanged. -/
theorem run_before_agreement (ar : CascadeArithmetic N N) (sqrt : N → N)
    (strategy : Strategy dateParse N) (time : ℤ)
    (input input' : BacktestInput N strategy.LiquidationDetail)
    (tables tables' : BacktestTables N strategy.LiquidationDetail)
    (hagree : AgreeBy dateParse time input input' tables tables')
    (htimed : Timed dateParse input tables) (htimed' : Timed dateParse input' tables')
    (hsource : SameSources dateParse time input input' tables tables') :
    tradesBy dateParse time (run ar sqrt strategy input' tables').trades =
        tradesBy dateParse time (run ar sqrt strategy input tables).trades ∧
      signalsBy dateParse time (run ar sqrt strategy input' tables').signals =
        signalsBy dateParse time (run ar sqrt strategy input tables).signals := by
  have hsame := sameBy_replayData hagree htimed htimed' hsource
  have hsplit := @timeline_split dateParse time N strategy.LiquidationDetail input tables htimed
  have hsplit' := @timeline_split dateParse time N strategy.LiquidationDetail input' tables' htimed'
  have hevents := filter_timeline hagree htimed htimed' hsource
  have hlater : ∀ (input : BacktestInput N strategy.LiquidationDetail)
      (tables : BacktestTables N strategy.LiquidationDetail), Timed dateParse input tables →
      ∀ event ∈ (timeline dateParse (input.allCandles dateParse tables)
        (input.allLiquidations dateParse tables)).filter fun event =>
          !datedBy dateParse time event.observedAt,
        ∃ ms, dateParse event.observedAt = some ms ∧ time < ms := by
    intro input tables htimed event hevent
    obtain ⟨hmem, hlate⟩ := List.mem_filter.mp hevent
    obtain ⟨ms, hms⟩ := Option.isSome_iff_exists.mp (timed_timeline htimed event hmem)
    simp only [datedBy, hms, Option.any_some, Bool.not_eq_true', decide_eq_false_iff_not,
      not_le] at hlate
    exact ⟨ms, hms, hlate⟩
  unfold run replayInput replayEvents
  dsimp only
  rw [hagree.enabled, hagree.startingEquity]
  cases input.enabled with
  | false => exact ⟨rfl, rfl⟩
  | true =>
    simp only [if_true]
    rw [← hsplit, ← hsplit', hevents, List.foldl_append, List.foldl_append,
      foldl_process_congr hsame fun event hevent => (List.mem_filter.mp hevent).2]
    obtain ⟨htrades, hsignals⟩ := @foldl_process_later dateParse time N _ _ ar sqrt strategy _ _
      (hlater input tables htimed) _
    obtain ⟨htrades', hsignals'⟩ := @foldl_process_later dateParse time N _ _ ar sqrt strategy _ _
      (hlater input' tables' htimed') _
    exact ⟨htrades'.trans htrades.symm, hsignals'.trans hsignals.symm⟩

open CascadeArithmetic (unrounded)

/-- The sample with a further candle. -/
def laterInput : BacktestInput ℚ (LiquidationDetail ℚ) :=
  { sampleInput 100 with candles := (sampleInput 100).candles ++ [sampleCandle 16 99 97 99 0 0] }

private theorem timed_later :
    ∀ row ∈ laterInput.candles, (minuteParse row.closedAt).isSome := by
  decide +kernel

private theorem timed_sample :
    Timed minuteParse (sampleInput 100)
      (⟨[], [], []⟩ : BacktestTables ℚ (LiquidationDetail ℚ)) where
  candles row hrow := timed_later row (List.mem_append_left _ hrow)
  liquidations := by decide +kernel
  openInterest row hrow := absurd hrow List.not_mem_nil
  storedCandles row hrow := absurd hrow List.not_mem_nil
  storedLiquidations row hrow := absurd hrow List.not_mem_nil
  executionQuality row hrow := absurd hrow List.not_mem_nil

theorem later_candle_before_agreement :
    tradesBy minuteParse 900000
        (run (unrounded ℚ) id sampleStrategy laterInput ⟨[], [], []⟩).trades =
      tradesBy minuteParse 900000
        (run (unrounded ℚ) id sampleStrategy (sampleInput 100) ⟨[], [], []⟩).trades ∧
      signalsBy minuteParse 900000
        (run (unrounded ℚ) id sampleStrategy laterInput ⟨[], [], []⟩).signals =
      signalsBy minuteParse 900000
        (run (unrounded ℚ) id sampleStrategy (sampleInput 100) ⟨[], [], []⟩).signals := by
  apply run_before_agreement (unrounded ℚ) id sampleStrategy 900000 (sampleInput 100) laterInput
  · have hlast : ([sampleCandle 16 99 97 99 0 0].filter fun row =>
        datedBy minuteParse 900000 row.closedAt) = [] := by decide +kernel
    refine ⟨rfl, rfl, rfl, rfl, rfl, rfl, ?_, rfl, rfl, rfl, rfl, rfl⟩
    show ((sampleInput 100).candles ++ _).filter _ = _
    rw [List.filter_append, hlast, List.append_nil]
  · exact timed_sample
  · exact ⟨timed_later, timed_sample.liquidations, fun row hrow => absurd hrow List.not_mem_nil,
      fun row hrow => absurd hrow List.not_mem_nil, fun row hrow => absurd hrow List.not_mem_nil,
      fun row hrow => absurd hrow List.not_mem_nil⟩
  · refine ⟨fun _ _ _ => rfl, ?_, Iff.rfl⟩
    have hsample : sanitizeCandles (sampleInput 100).candles ["btc-perp"] ≠ [] := by
      decide +kernel
    have hlater : sanitizeCandles laterInput.candles ["btc-perp"] ≠ [] := by decide +kernel
    exact ⟨fun hnil => absurd hnil hlater, fun hnil => absurd hnil hsample⟩

/-- One sample of a free fill, an hour after the entry. -/
def futureSample : BacktestTables ℚ (LiquidationDetail ℚ) :=
  ⟨[], [], [⟨JavaScript.Timestamp.isoText 3540000, "btc-perp", 0⟩]⟩

/-- A sample of the fifty-ninth minute is what an entry of the fourteenth is filled by. -/
theorem future_sample_fills_entry :
    AgreeBy minuteParse 840000 (sampleInput 100) (sampleInput 100) ⟨[], [], []⟩ futureSample ∧
      Timed minuteParse (sampleInput 100)
        (⟨[], [], []⟩ : BacktestTables ℚ (LiquidationDetail ℚ)) ∧
      Timed minuteParse (sampleInput 100) futureSample ∧
      tradesBy minuteParse 840000
          (run (unrounded ℚ) id sampleStrategy (sampleInput 100) futureSample).trades ≠
        tradesBy minuteParse 840000
          (run (unrounded ℚ) id sampleStrategy (sampleInput 100) ⟨[], [], []⟩).trades := by
  refine ⟨?_, timed_sample, ?_, ?_⟩
  · refine ⟨rfl, rfl, rfl, rfl, rfl, rfl, rfl, rfl, rfl, rfl, rfl, ?_⟩
    have hnone : (futureSample.executionQuality.filter fun row =>
        datedBy minuteParse 840000 row.observedAt).length = 0 := by decide +kernel
    exact List.length_eq_zero_iff.mp hnone
  · exact ⟨timed_sample.candles, timed_sample.liquidations, timed_sample.openInterest,
      timed_sample.storedCandles, timed_sample.storedLiquidations, by decide +kernel⟩
  · decide +kernel

end Report

end Yevow.Cascade
