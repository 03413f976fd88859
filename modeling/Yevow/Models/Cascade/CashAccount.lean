import Mathlib.Algebra.BigOperators.Ring.List
import Yevow.Models.Cascade.Closing
import Yevow.Models.Cascade.RecoverySignal

/-!
# The cash account of a backtest

The equity of a backtest is compared with an account that is paid for every trade at its reported
fill price. The two agree on what is closed. They part where an entry is filled at a worse price
than the one its exits are reckoned from, and where a position goes without its intent.
-/

namespace Yevow.Cascade

open CascadeArithmetic (unrounded)

variable {N : Type} [Field N]

/-! ## The account of a report -/

/-- The price at which a trade is reported to be filled. -/
def BacktestTrade.fillPrice (trade : BacktestTrade N) : N :=
  match trade.status with
  | .entry => trade.entryPrice
  | .exit => trade.exitPrice

/-- What a trade pays before its fees. -/
def BacktestTrade.cashFlow (trade : BacktestTrade N) : N :=
  match trade.side with
  | .buy => -(trade.fillPrice * trade.size)
  | .sell => trade.fillPrice * trade.size

/-- The size of the entries, or of the exits, of a signal. -/
def tradedSize (status : TradeStatus) (signalId : String) (trades : List (BacktestTrade N)) : N :=
  (trades.map fun trade =>
    if trade.status = status ∧ trade.signalId = signalId then trade.size else 0).sum

/-- The equity of a report is what its trades pay, and every entry is exited. -/
structure BooksCash (report : BacktestReport N) : Prop where
  cash : report.endingEquity - report.startingEquity =
    (report.trades.map BacktestTrade.cashFlow).sum - (report.trades.map BacktestTrade.fees).sum
  sizes : ∀ signalId,
    tradedSize .exit signalId report.trades = tradedSize .entry signalId report.trades
  curve : ∀ last, report.equityCurve.getLast? = some last → last.2 = report.endingEquity

private theorem tradedSize_append (status : TradeStatus) (signalId : String)
    (trades later : List (BacktestTrade N)) :
    tradedSize status signalId (trades ++ later) =
      tradedSize status signalId trades + tradedSize status signalId later := by
  simp only [tradedSize, List.map_append, List.sum_append]

/-- What the equity gains over the account by a trade. -/
def BacktestTrade.excess (trade : BacktestTrade N) : N := trade.pnl - (trade.cashFlow - trade.fees)

variable [LinearOrder N]

/-- The sign of a direction. -/
def CascadeRecoveryDirection.sign : CascadeRecoveryDirection → N
  | .long => 1
  | .short => -1

variable [FloorRing N]

/-! ## What is held -/

/-- The size that is held for a signal. -/
def heldSize (signalId : String) (positions : Rows String (CascadeOpenPosition N N)) : N :=
  positions.total fun position => if position.signalId = signalId then live position else 0

/-- What is held, at the prices it was entered at. -/
def heldValue (positions : Rows String (CascadeOpenPosition N N)) : N :=
  positions.total fun position => position.direction.sign * position.entryPrice * live position

/-- Positions are kept under the ids that their signals give them, with their entry prices. -/
structure Kept (positions : Rows String (CascadeOpenPosition N N))
    (entryPriceByPosition : Rows String N) : Prop where
  positionId : ∀ key position, positions.get? key = some position →
    position.positionId = key ∧ key = "cascade-position-" ++ position.signalId
  entryPrice : ∀ key position, positions.get? key = some position →
    entryPriceByPosition.get? key = some position.entryPrice

variable [IsStrictOrderedRing N]

omit [Field N] [LinearOrder N] [FloorRing N] [IsStrictOrderedRing N] in
private theorem Kept.empty : Kept (Rows.empty : Rows String (CascadeOpenPosition N N)) Rows.empty :=
  ⟨fun _ _ h => (Option.some_ne_none _ h.symm).elim,
    fun _ _ h => (Option.some_ne_none _ h.symm).elim⟩

/-! ## Ticks -/

section Tick

variable {dateParse : String → Option ℤ} {data : ReplayData N} {candle : ReplayCandle N}
  {tick : PositionManagerTick N} {manager : PositionManager N N}
  {entryPriceByPosition : Rows String N}

private theorem Kept.onTick (h : Kept manager.positions entryPriceByPosition) :
    Kept (onTick (unrounded N) dateParse tick manager).1.positions entryPriceByPosition := by
  constructor
  · intro key next hnext
    obtain ⟨position, hposition, rfl⟩ := Option.map_eq_some_iff.mp
      ((Rows.get?_map _ manager.positions key).symm.trans hnext)
    obtain ⟨hentry, -⟩ := @tickPosition_unrounded N _ _ _ _ dateParse tick position
    rw [hentry.positionId, hentry.signalId]
    exact h.positionId key position hposition
  · intro key next hnext
    obtain ⟨position, hposition, rfl⟩ := Option.map_eq_some_iff.mp
      ((Rows.get?_map _ manager.positions key).symm.trans hnext)
    obtain ⟨hentry, -⟩ := @tickPosition_unrounded N _ _ _ _ dateParse tick position
    rw [hentry.entryPrice]
    exact h.entryPrice key position hposition

omit [IsStrictOrderedRing N] in
/-- A total over the exits of a tick, position by position. -/
private theorem sum_closeTrades (f : BacktestTrade N → N) :
    ((closeTrades (unrounded N) data entryPriceByPosition candle
      (onTick (unrounded N) dateParse tick manager).2).map f).sum =
      manager.positions.total fun position =>
        (((tickPosition (unrounded N) dateParse tick position).intents.filter fun intent =>
          intent.kind = .close ∧ 0 < intent.size).map fun intent =>
            f (closeTrade (unrounded N) data entryPriceByPosition
              (tickPosition (unrounded N) dateParse tick position).position intent.size
              candle)).sum := by
  unfold closeTrades Cascade.onTick Rows.total
  dsimp only
  induction manager.positions.entries with
  | nil => rfl
  | cons entry entries ih =>
    simp only [List.map_cons, List.sum_cons]
    rw [← ih, List.filter_cons]
    split_ifs with hintents
    · rw [List.flatMap_cons, List.map_append, List.sum_append, List.map_map]
      rfl
    · have hnone : (tickPosition (unrounded N) dateParse tick entry.2).intents = [] := by
        simpa using hintents
      rw [hnone, List.filter_nil, List.map_nil, List.sum_nil, zero_add]

omit [FloorRing N] [IsStrictOrderedRing N] in
private theorem sum_map_const_mul (c : N) (intents : List (CascadePositionIntent N N)) :
    (((intents.filter fun intent => intent.kind = .close ∧ 0 < intent.size).map fun intent =>
      c * intent.size)).sum = c * closedSize intents := by
  rw [closedSize, ← List.sum_map_mul_left]

/-- The size that a tick drops of what is held for a signal. -/
def droppedSize (dateParse : String → Option ℤ) (tick : PositionManagerTick N) (signalId : String)
    (positions : Rows String (CascadeOpenPosition N N)) : N :=
  positions.total fun position =>
    if position.signalId = signalId then dropped dateParse tick position else 0

/-- What is held for a signal is exited, held on or dropped by a tick. -/
private theorem heldSize_onTick (signalId : String) :
    heldSize signalId manager.positions =
      heldSize signalId (Cascade.onTick (unrounded N) dateParse tick manager).1.positions +
        tradedSize .exit signalId (closeTrades (unrounded N) data entryPriceByPosition candle
          (Cascade.onTick (unrounded N) dateParse tick manager).2) +
        droppedSize dateParse tick signalId manager.positions := by
  have hexit : tradedSize .exit signalId (closeTrades (unrounded N) data entryPriceByPosition
      candle (Cascade.onTick (unrounded N) dateParse tick manager).2) =
      manager.positions.total fun position => if position.signalId = signalId then
        closedSize (tickPosition (unrounded N) dateParse tick position).intents else 0 := by
    unfold tradedSize
    rw [sum_closeTrades]
    apply Rows.total_congr
    intro key position hposition
    obtain ⟨hentry, -⟩ := @tickPosition_unrounded N _ _ _ _ dateParse tick position
    simp only [closeTrade, true_and, hentry.signalId]
    split_ifs
    · rfl
    · exact List.sum_map_zero
  rw [hexit, heldSize, heldSize, Cascade.onTick, Rows.total_map]
  show _ = manager.positions.total (fun position =>
    if (tickPosition (unrounded N) dateParse tick position).position.signalId = signalId then
      live (tickPosition (unrounded N) dateParse tick position).position else 0) + _ +
        manager.positions.total _
  rw [← Rows.total_add, ← Rows.total_add]
  apply Rows.total_congr
  intro key position hposition
  obtain ⟨hentry, hlive⟩ := @tickPosition_unrounded N _ _ _ _ dateParse tick position
  rw [hentry.signalId]
  split_ifs
  · exact hlive
  · rw [add_zero, add_zero]

omit [IsStrictOrderedRing N] in
/-- An exit gains nothing over the account but the price of its entry. -/
private theorem excess_closeTrade {position : CascadeOpenPosition N N} {entryPrice : N}
    (h : entryPriceByPosition.get? position.positionId = some entryPrice) (closeSize : N) :
    (closeTrade (unrounded N) data entryPriceByPosition position closeSize candle).excess =
      -(position.direction.sign * entryPrice) * closeSize := by
  simp only [closeTrade, BacktestTrade.excess, BacktestTrade.cashFlow, BacktestTrade.fillPrice, h,
    Option.getD_some, unrounded, id_eq]
  cases position.direction with
  | long =>
    simp only [CascadeRecoveryDirection.exitSide, CascadeRecoveryDirection.sign]
    ring
  | short =>
    simp only [CascadeRecoveryDirection.exitSide, CascadeRecoveryDirection.sign]
    ring

/-- Where a tick drops nothing, what it exits keeps the equity and the account together. -/
private theorem heldValue_onTick (hkept : Kept manager.positions entryPriceByPosition)
    (hdropped : ∀ key position, manager.positions.get? key = some position →
      dropped dateParse tick position = 0) :
    heldValue (Cascade.onTick (unrounded N) dateParse tick manager).1.positions =
      heldValue manager.positions +
        ((closeTrades (unrounded N) data entryPriceByPosition candle
          (Cascade.onTick (unrounded N) dateParse tick manager).2).map
            BacktestTrade.excess).sum := by
  rw [sum_closeTrades, heldValue, heldValue, Cascade.onTick, Rows.total_map]
  show manager.positions.total (fun position =>
    (tickPosition (unrounded N) dateParse tick position).position.direction.sign *
      (tickPosition (unrounded N) dateParse tick position).position.entryPrice *
        live (tickPosition (unrounded N) dateParse tick position).position) = _
  rw [← Rows.total_add]
  apply Rows.total_congr
  intro key position hposition
  obtain ⟨hentry, hlive⟩ := @tickPosition_unrounded N _ _ _ _ dateParse tick position
  have hprice : entryPriceByPosition.get?
      (tickPosition (unrounded N) dateParse tick position).position.positionId =
        some position.entryPrice := by
    rw [hentry.positionId, (hkept.positionId key position hposition).1]
    exact hkept.entryPrice key position hposition
  simp only [excess_closeTrade hprice, sum_map_const_mul, hentry.direction, hentry.entryPrice]
  rw [hlive, hdropped key position hposition]
  ring

omit [IsStrictOrderedRing N] in
private theorem entrySize_closeTrades (signalId : String)
    (updates : List (PositionManagerUpdate N N)) :
    tradedSize .entry signalId
      (closeTrades (unrounded N) data entryPriceByPosition candle updates) = 0 := by
  apply List.sum_eq_zero
  intro size hsize
  obtain ⟨trade, htrade, rfl⟩ := List.mem_map.mp hsize
  obtain ⟨update, -, hupdate⟩ := List.mem_flatMap.mp htrade
  obtain ⟨intent, -, rfl⟩ := List.mem_map.mp hupdate
  simp only [closeTrade, reduceCtorEq, false_and, if_false]

end Tick

/-! ## Entries -/

section Entry

variable {data : ReplayData N} {candle : ReplayCandle N} {signal : EmittedSignal N}
  {sizeDecision : PositionSizeDecision N} {positions : Rows String (CascadeOpenPosition N N)}
  {entryPriceByPosition : Rows String N}

/-- What an entry is filled at beyond the price of its signal. -/
def slippageCost (data : ReplayData N) (signal : EmittedSignal N)
    (sizeDecision : PositionSizeDecision N) : N :=
  signal.entryPrice *
    (simulatedSlippageBps (unrounded N) data signal.instrumentCode signal.emittedAt / 10000) *
      sizeDecision.units

/-- What an entry leaves unheld: the position that it writes over, and a size that counts for
none. -/
def lostOnEntry (signal : EmittedSignal N) (sizeDecision : PositionSizeDecision N)
    (candle : ReplayCandle N) (positions : Rows String (CascadeOpenPosition N N)) : N :=
  (positions.get? ("cascade-position-" ++ signal.signalId)).elim 0 live +
    (sizeDecision.units -
      live (signal.toCascadeRecoverySignal.position sizeDecision candle.closedAt))

omit [IsStrictOrderedRing N] in
private theorem live_position :
    live (signal.toCascadeRecoverySignal.position sizeDecision candle.closedAt) =
      if 1 / 10 ^ 9 < sizeDecision.units then sizeDecision.units else 0 := by
  by_cases h : 1 / 10 ^ 9 < sizeDecision.units
  · rw [if_pos h, live, if_pos (isOpen_unrounded.mpr ⟨h, rfl⟩)]
    rfl
  · rw [if_neg h, live, if_neg]
    exact fun hopen => h (isOpen_unrounded.mp hopen).1

private theorem lostOnEntry_nonneg (h : 0 < sizeDecision.units) :
    0 ≤ lostOnEntry signal sizeDecision candle positions := by
  unfold lostOnEntry
  apply add_nonneg
  · cases positions.get? ("cascade-position-" ++ signal.signalId) with
    | none => exact le_rfl
    | some position => exact live_nonneg position
  · rw [live_position]
    split_ifs
    · exact (sub_self _).ge
    · exact (sub_zero sizeDecision.units).symm ▸ h.le

private theorem lostOnEntry_eq_zero_iff (h : 0 < sizeDecision.units) :
    lostOnEntry signal sizeDecision candle positions = 0 ↔
      1 / 10 ^ 9 < sizeDecision.units ∧
        ∀ position, positions.get? ("cascade-position-" ++ signal.signalId) = some position →
          isOpen (unrounded N) position = false := by
  have hold : 0 ≤ (positions.get? ("cascade-position-" ++ signal.signalId)).elim 0 live := by
    cases positions.get? ("cascade-position-" ++ signal.signalId) with
    | none => exact le_rfl
    | some position => exact live_nonneg position
  have hsize : 0 ≤ sizeDecision.units -
      live (signal.toCascadeRecoverySignal.position sizeDecision candle.closedAt) := by
    rw [live_position]
    split_ifs
    · exact (sub_self _).ge
    · exact (sub_zero sizeDecision.units).symm ▸ h.le
  rw [lostOnEntry, add_eq_zero_iff_of_nonneg hold hsize, and_comm]
  apply and_congr
  · rw [live_position]
    split_ifs with hepsilon
    · simp only [sub_self, hepsilon]
    · simp only [sub_zero, h.ne', hepsilon]
  · cases positions.get? ("cascade-position-" ++ signal.signalId) with
    | none => simp only [Option.elim_none, reduceCtorEq, false_implies, implies_true]
    | some position =>
      simp only [Option.elim_some, live_eq_zero_iff, Option.some.injEq, forall_eq']

private theorem signalId_eq {left right : String}
    (h : "cascade-position-" ++ left = "cascade-position-" ++ right) : left = right := by
  have hlist := congrArg String.toList h
  rw [String.toList_append, String.toList_append, List.append_cancel_left_eq] at hlist
  exact String.toList_injective hlist

omit [Field N] [LinearOrder N] [FloorRing N] [IsStrictOrderedRing N] in
private theorem Kept.set (h : Kept positions entryPriceByPosition) :
    Kept
      (positions.set ("cascade-position-" ++ signal.signalId)
        (signal.toCascadeRecoverySignal.position sizeDecision candle.closedAt))
      (entryPriceByPosition.set ("cascade-position-" ++ signal.signalId) signal.entryPrice) := by
  constructor
  · apply Rows.forall_set h.positionId
    exact ⟨rfl, rfl⟩
  · intro key position hposition
    rw [Rows.get?_set] at hposition ⊢
    split_ifs at hposition ⊢ with hkey
    · obtain rfl := Option.some.inj hposition
      rfl
    · exact h.entryPrice key position hposition

omit [IsStrictOrderedRing N] in
/-- What an entry adds to what is held for a signal. -/
private theorem heldSize_set (hkept : Kept positions entryPriceByPosition) (signalId : String) :
    heldSize signalId
      (positions.set ("cascade-position-" ++ signal.signalId)
        (signal.toCascadeRecoverySignal.position sizeDecision candle.closedAt)) +
      (if signal.signalId = signalId then lostOnEntry signal sizeDecision candle positions else 0) =
      heldSize signalId positions +
        tradedSize .entry signalId [entryTrade (unrounded N) data signal sizeDecision.units
          candle] := by
  have hentry : tradedSize .entry signalId
      [entryTrade (unrounded N) data signal sizeDecision.units candle] =
      if signal.signalId = signalId then sizeDecision.units else 0 := by
    simp only [tradedSize, List.map_singleton, List.sum_singleton, entryTrade, true_and]
    rfl
  have hold : ((positions.get? ("cascade-position-" ++ signal.signalId)).elim 0 fun position =>
      if position.signalId = signalId then live position else 0) =
      if signal.signalId = signalId then
        (positions.get? ("cascade-position-" ++ signal.signalId)).elim 0 live else 0 := by
    cases hposition : positions.get? ("cascade-position-" ++ signal.signalId) with
    | none => simp only [Option.elim_none, ite_self]
    | some position =>
      rw [Option.elim_some, Option.elim_some,
        signalId_eq (hkept.positionId _ position hposition).2]
  rw [heldSize, Rows.total_set_eq_sub, hold, hentry]
  show _ - _ + (if signal.signalId = signalId then live _ else 0) + _ =
    heldSize signalId positions + _
  unfold lostOnEntry heldSize
  split_ifs
  · ring
  · ring

omit [IsStrictOrderedRing N] in
/-- An entry pays its price and what it slips. -/
private theorem excess_entryTrade :
    (entryTrade (unrounded N) data signal sizeDecision.units candle).excess =
      signal.direction.sign * signal.entryPrice * sizeDecision.units +
        slippageCost data signal sizeDecision := by
  simp only [entryTrade, BacktestTrade.excess, BacktestTrade.cashFlow, BacktestTrade.fillPrice,
    slippageCost]
  cases signal.direction with
  | long =>
    simp only [CascadeRecoveryDirection.entrySide, CascadeRecoveryDirection.sign, applySlippage,
      unrounded, id_eq]
    ring
  | short =>
    simp only [CascadeRecoveryDirection.entrySide, CascadeRecoveryDirection.sign, applySlippage,
      unrounded, id_eq]
    ring

/-- Where nothing is lost on an entry, the equity runs ahead of the account by what it slips. -/
private theorem heldValue_set (hlost : lostOnEntry signal sizeDecision candle positions = 0)
    (hunits : 0 < sizeDecision.units) :
    heldValue
      (positions.set ("cascade-position-" ++ signal.signalId)
        (signal.toCascadeRecoverySignal.position sizeDecision candle.closedAt)) +
      slippageCost data signal sizeDecision =
      heldValue positions +
        (entryTrade (unrounded N) data signal sizeDecision.units candle).excess := by
  obtain ⟨hepsilon, hclosed⟩ := (lostOnEntry_eq_zero_iff hunits).mp hlost
  have hold : ((positions.get? ("cascade-position-" ++ signal.signalId)).elim 0 fun position =>
      position.direction.sign * position.entryPrice * live position) = 0 := by
    cases hposition : positions.get? ("cascade-position-" ++ signal.signalId) with
    | none => rfl
    | some position =>
      rw [Option.elim_some, live_eq_zero_iff.mpr (hclosed position hposition), mul_zero]
  rw [heldValue, Rows.total_set_eq_sub, hold, sub_zero, live_position, if_pos hepsilon,
    excess_entryTrade]
  show heldValue positions + signal.direction.sign * signal.entryPrice * _ + _ = _
  ring

omit [IsStrictOrderedRing N] in
private theorem pos_of_approved {input : PositionSizeInput N}
    (h : (calculatePositionSize (unrounded N) input).approved = true) :
    0 < input.entryPrice ∧ 0 < (calculatePositionSize (unrounded N) input).units := by
  revert h
  unfold calculatePositionSize emptyDecision
  dsimp only
  split_ifs with hinvalid hheat hunits
  · simp only [false_implies]
  · simp only [false_implies]
  · simp only [not_or, not_not] at hinvalid
    exact fun _ => ⟨hinvalid.2.1, hunits⟩
  · simp only [false_implies]

end Entry

/-! ## Steps -/

section Step

variable {dateParse : String → Option ℤ} (sqrt : N → N) (data : ReplayData N)
  (strategy : Strategy dateParse N)

/-- The runtime once a candle has been shown to the positions and to the absorption analyzer. -/
def afterTick (candle : ReplayCandle N) (runtime : ReplayRuntime strategy) :
    ReplayRuntime strategy :=
  observeAbsorption (unrounded N) data strategy candle
    { runtime with
      positionManager := (onTick (unrounded N) dateParse
        (candleTick dateParse (unrounded N) data candle) runtime.positionManager).1 }

/-- The signal that a candle enters on, with its size. -/
def enteredSignal (candle : ReplayCandle N) (equity : N) (runtime : ReplayRuntime strategy) :
    Option (EmittedSignal N × PositionSizeDecision N) :=
  match evaluateSignal (unrounded N) data strategy candle runtime with
  | some (.ok signal) =>
    let sizeDecision :=
      sizeBacktestSignal (unrounded N) sqrt data signal equity runtime.positionManager
    if sizeDecision.approved then some (signal, sizeDecision) else none
  | _ => none

/-- No rest is dropped on a candle, and what is entered on it is held, under an id that is free,
at the price of its signal. -/
def StepKeeps (replay : Replay strategy) :
    TimelineEvent N strategy.LiquidationDetail → Prop
  | .liquidation _ => True
  | .candle candle =>
    (∀ key position, replay.runtime.positionManager.positions.get? key = some position →
      dropped dateParse (candleTick dateParse (unrounded N) data candle) position = 0) ∧
    ∀ signal sizeDecision,
      enteredSignal sqrt data strategy candle replay.equity
        (afterTick data strategy candle replay.runtime) = some (signal, sizeDecision) →
      simulatedSlippageBps (unrounded N) data signal.instrumentCode signal.emittedAt = 0 ∧
      1 / 10 ^ 9 < sizeDecision.units ∧
      ∀ position, (afterTick data strategy candle replay.runtime).positionManager.positions.get?
        ("cascade-position-" ++ signal.signalId) = some position →
          isOpen (unrounded N) position = false

/-- Every step of a replay keeps the equity on the account. -/
def RunKeeps (replay : Replay strategy) :
    List (TimelineEvent N strategy.LiquidationDetail) → Prop
  | [] => True
  | event :: events =>
    StepKeeps sqrt data strategy replay event ∧
      RunKeeps (replay.process (unrounded N) sqrt data strategy event) events

/-- What was entered for a signal and is neither exited nor held. -/
def gap (replay : Replay strategy) (signalId : String) : N :=
  tradedSize .entry signalId replay.trades - tradedSize .exit signalId replay.trades -
    heldSize signalId replay.runtime.positionManager.positions

/-- How far the equity is ahead of the account and what is held. -/
def lead (replay : Replay strategy) : N :=
  replay.equity - (replay.trades.map BacktestTrade.cashFlow).sum +
    (replay.trades.map BacktestTrade.fees).sum -
      heldValue replay.runtime.positionManager.positions

omit [IsStrictOrderedRing N] in
/-- What a candle gives. -/
private theorem processCandle_eq (candle : ReplayCandle N) (equity : N)
    (runtime : ReplayRuntime strategy) :
    processCandle (unrounded N) sqrt data strategy candle equity runtime =
      match enteredSignal sqrt data strategy candle equity
        (afterTick data strategy candle runtime) with
      | none => ⟨afterTick data strategy candle runtime,
          closeTrades (unrounded N) data runtime.entryPriceByPosition candle
            (onTick (unrounded N) dateParse (candleTick dateParse (unrounded N) data candle)
              runtime.positionManager).2, []⟩
      | some (signal, sizeDecision) =>
        ⟨(enterBacktestSignal (unrounded N) data strategy candle signal sizeDecision
            (afterTick data strategy candle runtime)).runtime,
          closeTrades (unrounded N) data runtime.entryPriceByPosition candle
            (onTick (unrounded N) dateParse (candleTick dateParse (unrounded N) data candle)
              runtime.positionManager).2 ++
            [entryTrade (unrounded N) data signal sizeDecision.units candle], [signal]⟩ := by
  unfold processCandle enteredSignal afterTick
  dsimp only
  generalize observeAbsorption (unrounded N) data strategy candle
    { runtime with
      positionManager := (onTick (unrounded N) dateParse
        (candleTick dateParse (unrounded N) data candle) runtime.positionManager).1 } = after
  cases evaluateSignal (unrounded N) data strategy candle after with
  | none => rfl
  | some result =>
    cases result with
    | error rejection => rfl
    | ok signal =>
      dsimp only
      split_ifs
      · rfl
      · rfl

variable {sqrt data strategy}

omit [IsStrictOrderedRing N] in
private theorem pos_of_enteredSignal {candle : ReplayCandle N} {equity : N}
    {runtime : ReplayRuntime strategy} {signal : EmittedSignal N}
    {sizeDecision : PositionSizeDecision N}
    (h : enteredSignal sqrt data strategy candle equity runtime = some (signal, sizeDecision)) :
    sizeDecision.approved = true ∧ 0 < signal.entryPrice ∧ 0 < sizeDecision.units := by
  unfold enteredSignal at h
  split at h
  · dsimp only at h
    split_ifs at h with happroved
    · obtain ⟨rfl, rfl⟩ := Prod.mk.inj (Option.some.inj h)
      exact ⟨happroved, pos_of_approved happroved⟩
  · exact (Option.some_ne_none _ h.symm).elim

omit [IsStrictOrderedRing N] in
private theorem positions_enterBacktestSignal {candle : ReplayCandle N} {signal : EmittedSignal N}
    {sizeDecision : PositionSizeDecision N} (happroved : sizeDecision.approved = true)
    (hunits : 0 < sizeDecision.units) (runtime : ReplayRuntime strategy) :
    (enterBacktestSignal (unrounded N) data strategy candle signal sizeDecision
      runtime).runtime.positionManager.positions =
      runtime.positionManager.positions.set ("cascade-position-" ++ signal.signalId)
        (signal.toCascadeRecoverySignal.position sizeDecision candle.closedAt) := by
  have hregister : registerFromSignal signal.toCascadeRecoverySignal sizeDecision candle.closedAt
      runtime.positionManager =
      .ok ⟨runtime.positionManager.positions.set ("cascade-position-" ++ signal.signalId)
        (signal.toCascadeRecoverySignal.position sizeDecision candle.closedAt)⟩ := by
    unfold registerFromSignal
    rw [if_neg]
    · rfl
    · simp only [happroved, hunits.not_ge, Bool.not_true, decide_false, Bool.or_self,
        Bool.false_eq_true, not_false_eq_true]
  unfold enterBacktestSignal
  dsimp only
  rw [hregister]
  rfl

omit [IsStrictOrderedRing N] in
/-- Trades are booked one after the other. -/
private theorem foldl_book (trades : List (BacktestTrade N)) (replay : Replay strategy) :
    (trades.foldl (Replay.book (unrounded N) strategy) replay).runtime = replay.runtime ∧
      (trades.foldl (Replay.book (unrounded N) strategy) replay).trades =
        replay.trades ++ trades ∧
      (trades.foldl (Replay.book (unrounded N) strategy) replay).equity =
        replay.equity + (trades.map BacktestTrade.pnl).sum := by
  induction trades generalizing replay with
  | nil => exact ⟨rfl, (List.append_nil _).symm, (add_zero _).symm⟩
  | cons trade trades ih =>
    obtain ⟨hruntime, htrades, hequity⟩ := ih (replay.book (unrounded N) strategy trade)
    rw [List.foldl_cons]
    refine ⟨hruntime, ?_, ?_⟩
    · rw [htrades]
      show replay.trades ++ [trade] ++ trades = _
      rw [List.append_assoc, List.singleton_append]
    · rw [hequity]
      show replay.equity + trade.pnl + _ = _
      rw [List.map_cons, List.sum_cons, add_assoc]

omit [IsStrictOrderedRing N] in
private theorem process_candle (replay : Replay strategy) (candle : ReplayCandle N) :
    (replay.process (unrounded N) sqrt data strategy (.candle candle)).runtime =
        (processCandle (unrounded N) sqrt data strategy candle replay.equity
          replay.runtime).runtime ∧
      (replay.process (unrounded N) sqrt data strategy (.candle candle)).trades =
        replay.trades ++ (processCandle (unrounded N) sqrt data strategy candle replay.equity
          replay.runtime).trades ∧
      (replay.process (unrounded N) sqrt data strategy (.candle candle)).equity =
        replay.equity + ((processCandle (unrounded N) sqrt data strategy candle replay.equity
          replay.runtime).trades.map BacktestTrade.pnl).sum :=
  foldl_book _ _

omit [LinearOrder N] [FloorRing N] [IsStrictOrderedRing N] in
private theorem sum_excess (trades : List (BacktestTrade N)) :
    (trades.map BacktestTrade.excess).sum = (trades.map BacktestTrade.pnl).sum -
      (trades.map BacktestTrade.cashFlow).sum + (trades.map BacktestTrade.fees).sum := by
  induction trades with
  | nil => simp only [List.map_nil, List.sum_nil, sub_zero, add_zero]
  | cons trade trades ih =>
    simp only [List.map_cons, List.sum_cons, ih, BacktestTrade.excess]
    ring

omit [IsStrictOrderedRing N] in
/-- The lead after a candle, from the trades it gives. -/
private theorem lead_process (replay : Replay strategy) (candle : ReplayCandle N) :
    lead strategy (replay.process (unrounded N) sqrt data strategy (.candle candle)) =
      lead strategy replay + heldValue replay.runtime.positionManager.positions +
        ((processCandle (unrounded N) sqrt data strategy candle replay.equity
          replay.runtime).trades.map BacktestTrade.excess).sum -
        heldValue (processCandle (unrounded N) sqrt data strategy candle replay.equity
          replay.runtime).runtime.positionManager.positions := by
  obtain ⟨hruntime, htrades, hequity⟩ := @process_candle N _ _ _ dateParse sqrt data strategy
    replay candle
  simp only [lead, hruntime, htrades, hequity, List.map_append, List.sum_append, sum_excess]
  ring

omit [IsStrictOrderedRing N] in
private theorem gap_process (replay : Replay strategy) (candle : ReplayCandle N)
    (signalId : String) :
    gap strategy (replay.process (unrounded N) sqrt data strategy (.candle candle)) signalId =
      gap strategy replay signalId + heldSize signalId replay.runtime.positionManager.positions +
        tradedSize .entry signalId (processCandle (unrounded N) sqrt data strategy candle
          replay.equity replay.runtime).trades -
        tradedSize .exit signalId (processCandle (unrounded N) sqrt data strategy candle
          replay.equity replay.runtime).trades -
        heldSize signalId (processCandle (unrounded N) sqrt data strategy candle replay.equity
          replay.runtime).runtime.positionManager.positions := by
  obtain ⟨hruntime, htrades, hequity⟩ := @process_candle N _ _ _ dateParse sqrt data strategy
    replay candle
  simp only [gap, hruntime, htrades, tradedSize_append]
  ring

/-- The positions and their entry prices after a candle. -/
private theorem kept_processCandle {candle : ReplayCandle N} {equity : N}
    {runtime : ReplayRuntime strategy}
    (h : Kept runtime.positionManager.positions runtime.entryPriceByPosition) :
    Kept
      (processCandle (unrounded N) sqrt data strategy candle equity
        runtime).runtime.positionManager.positions
      (processCandle (unrounded N) sqrt data strategy candle equity
        runtime).runtime.entryPriceByPosition := by
  have hafter : Kept (afterTick data strategy candle runtime).positionManager.positions
      (afterTick data strategy candle runtime).entryPriceByPosition := h.onTick
  rw [processCandle_eq]
  cases hentered : enteredSignal sqrt data strategy candle equity
      (afterTick data strategy candle runtime) with
  | none => exact hafter
  | some entered =>
    obtain ⟨signal, sizeDecision⟩ := entered
    obtain ⟨happroved, -, hunits⟩ := pos_of_enteredSignal hentered
    dsimp only
    rw [positions_enterBacktestSignal happroved hunits]
    exact hafter.set

/-- What a candle leaves neither exited nor held for a signal. -/
def lostSize (sqrt : N → N) (data : ReplayData N) (strategy : Strategy dateParse N)
    (replay : Replay strategy) (candle : ReplayCandle N) (signalId : String) : N :=
  droppedSize dateParse (candleTick dateParse (unrounded N) data candle) signalId
      replay.runtime.positionManager.positions +
    (enteredSignal sqrt data strategy candle replay.equity
      (afterTick data strategy candle replay.runtime)).elim 0 fun entered =>
        if entered.1.signalId = signalId then
          lostOnEntry entered.1 entered.2 candle
            (afterTick data strategy candle replay.runtime).positionManager.positions
        else 0

private theorem gap_process_eq {replay : Replay strategy}
    (h : Kept replay.runtime.positionManager.positions replay.runtime.entryPriceByPosition)
    (candle : ReplayCandle N) (signalId : String) :
    gap strategy (replay.process (unrounded N) sqrt data strategy (.candle candle)) signalId =
      gap strategy replay signalId + lostSize sqrt data strategy replay candle signalId := by
  have hafter : Kept (afterTick data strategy candle replay.runtime).positionManager.positions
      (afterTick data strategy candle replay.runtime).entryPriceByPosition := h.onTick
  have htick := @heldSize_onTick N _ _ _ _ dateParse data candle
    (candleTick dateParse (unrounded N) data candle) replay.runtime.positionManager
    replay.runtime.entryPriceByPosition signalId
  have hpositions : (onTick (unrounded N) dateParse (candleTick dateParse (unrounded N) data
      candle) replay.runtime.positionManager).1.positions =
      (afterTick data strategy candle replay.runtime).positionManager.positions := rfl
  rw [hpositions] at htick
  rw [gap_process, processCandle_eq, lostSize]
  cases hentered : enteredSignal sqrt data strategy candle replay.equity
      (afterTick data strategy candle replay.runtime) with
  | none =>
    dsimp only
    rw [entrySize_closeTrades, Option.elim_none]
    linarith only [htick]
  | some entered =>
    obtain ⟨signal, sizeDecision⟩ := entered
    obtain ⟨happroved, -, hunits⟩ := pos_of_enteredSignal hentered
    have hset := @heldSize_set N _ _ _ data candle signal sizeDecision _ _ hafter signalId
    have hexit : tradedSize .exit signalId
        [entryTrade (unrounded N) data signal sizeDecision.units candle] = 0 := by
      simp only [tradedSize, List.map_singleton, List.sum_singleton, entryTrade, reduceCtorEq,
        false_and, if_false]
    dsimp only
    rw [positions_enterBacktestSignal happroved hunits, tradedSize_append, tradedSize_append,
      entrySize_closeTrades, hexit, Option.elim_some]
    linarith only [htick, hset]

private theorem lostSize_nonneg (replay : Replay strategy) (candle : ReplayCandle N)
    (signalId : String) : 0 ≤ lostSize sqrt data strategy replay candle signalId := by
  apply add_nonneg
  · apply Rows.total_nonneg
    intro position
    split_ifs
    · exact dropped_nonneg
    · exact le_rfl
  · cases hentered : enteredSignal sqrt data strategy candle replay.equity
        (afterTick data strategy candle replay.runtime) with
    | none => exact le_rfl
    | some entered =>
      rw [Option.elim_some]
      split_ifs
      · exact lostOnEntry_nonneg (pos_of_enteredSignal hentered).2.2
      · exact le_rfl

/-- A candle on which nothing is lost for any signal. -/
private theorem lostSize_eq_zero_iff (replay : Replay strategy) (candle : ReplayCandle N) :
    (∀ signalId, lostSize sqrt data strategy replay candle signalId = 0) ↔
      (∀ key position, replay.runtime.positionManager.positions.get? key = some position →
        dropped dateParse (candleTick dateParse (unrounded N) data candle) position = 0) ∧
      ∀ signal sizeDecision,
        enteredSignal sqrt data strategy candle replay.equity
          (afterTick data strategy candle replay.runtime) = some (signal, sizeDecision) →
        lostOnEntry signal sizeDecision candle
          (afterTick data strategy candle replay.runtime).positionManager.positions = 0 := by
  have hdropped : ∀ signalId (position : CascadeOpenPosition N N),
      0 ≤ if position.signalId = signalId then
        dropped dateParse (candleTick dateParse (unrounded N) data candle) position else 0 := by
    intro signalId position
    split_ifs
    · exact dropped_nonneg
    · exact le_rfl
  have hentry : ∀ signalId, 0 ≤ (enteredSignal sqrt data strategy candle replay.equity
      (afterTick data strategy candle replay.runtime)).elim 0 fun entered =>
        if entered.1.signalId = signalId then
          lostOnEntry entered.1 entered.2 candle
            (afterTick data strategy candle replay.runtime).positionManager.positions
        else 0 := by
    intro signalId
    cases hentered : enteredSignal sqrt data strategy candle replay.equity
        (afterTick data strategy candle replay.runtime) with
    | none => exact le_rfl
    | some entered =>
      rw [Option.elim_some]
      split_ifs
      · exact lostOnEntry_nonneg (pos_of_enteredSignal hentered).2.2
      · exact le_rfl
  constructor
  · intro h
    have hparts := fun signalId => (add_eq_zero_iff_of_nonneg
      (Rows.total_nonneg (hdropped signalId)) (hentry signalId)).mp (h signalId)
    constructor
    · intro key position hposition
      have hle := Rows.le_total (hdropped position.signalId) hposition
      rw [if_pos rfl] at hle
      exact le_antisymm (hle.trans (hparts position.signalId).1.le) dropped_nonneg
    · intro signal sizeDecision hentered
      have hzero := (hparts signal.signalId).2
      rw [hentered, Option.elim_some, if_pos rfl] at hzero
      exact hzero
  · rintro ⟨hrest, hnone⟩ signalId
    have htotal : droppedSize dateParse (candleTick dateParse (unrounded N) data candle) signalId
        replay.runtime.positionManager.positions = 0 := by
      apply Rows.total_eq_zero
      intro key position hposition
      rw [hrest key position hposition, ite_self]
    rw [lostSize, htotal, zero_add]
    cases hentered : enteredSignal sqrt data strategy candle replay.equity
        (afterTick data strategy candle replay.runtime) with
    | none => rfl
    | some entered => rw [Option.elim_some, hnone entered.1 entered.2 hentered, ite_self]

/-- Where a candle loses nothing, the equity runs ahead by what its entry slips. -/
private theorem lead_process_eq {replay : Replay strategy}
    (h : Kept replay.runtime.positionManager.positions replay.runtime.entryPriceByPosition)
    {candle : ReplayCandle N}
    (hlost : ∀ signalId, lostSize sqrt data strategy replay candle signalId = 0) :
    lead strategy (replay.process (unrounded N) sqrt data strategy (.candle candle)) =
      lead strategy replay + (enteredSignal sqrt data strategy candle replay.equity
        (afterTick data strategy candle replay.runtime)).elim 0 fun entered =>
          slippageCost data entered.1 entered.2 := by
  obtain ⟨hdropped, hnone⟩ := (lostSize_eq_zero_iff replay candle).mp hlost
  have htick := @heldValue_onTick N _ _ _ _ dateParse data candle
    (candleTick dateParse (unrounded N) data candle) replay.runtime.positionManager
    replay.runtime.entryPriceByPosition h hdropped
  have hpositions : (onTick (unrounded N) dateParse (candleTick dateParse (unrounded N) data
      candle) replay.runtime.positionManager).1.positions =
      (afterTick data strategy candle replay.runtime).positionManager.positions := rfl
  rw [hpositions] at htick
  rw [lead_process, processCandle_eq]
  cases hentered : enteredSignal sqrt data strategy candle replay.equity
      (afterTick data strategy candle replay.runtime) with
  | none =>
    dsimp only
    rw [Option.elim_none]
    linarith only [htick]
  | some entered =>
    obtain ⟨signal, sizeDecision⟩ := entered
    obtain ⟨happroved, -, hunits⟩ := pos_of_enteredSignal hentered
    have hset := @heldValue_set N _ _ _ _ data candle signal sizeDecision _
      (hnone signal sizeDecision hentered) hunits
    dsimp only
    rw [positions_enterBacktestSignal happroved hunits, List.map_append, List.sum_append,
      List.map_singleton, List.sum_singleton, Option.elim_some]
    linarith only [htick, hset]

private theorem slippageCost_nonneg {signal : EmittedSignal N}
    {sizeDecision : PositionSizeDecision N} (hprice : 0 < signal.entryPrice)
    (hunits : 0 < sizeDecision.units) : 0 ≤ slippageCost data signal sizeDecision := by
  have hbps : 0 ≤ simulatedSlippageBps (unrounded N) data signal.instrumentCode
      signal.emittedAt := le_max_left 0 _
  unfold slippageCost
  positivity

private theorem slippageCost_eq_zero_iff {signal : EmittedSignal N}
    {sizeDecision : PositionSizeDecision N} (hprice : 0 < signal.entryPrice)
    (hunits : 0 < sizeDecision.units) : slippageCost data signal sizeDecision = 0 ↔
      simulatedSlippageBps (unrounded N) data signal.instrumentCode signal.emittedAt = 0 := by
  have hbps : (10000 : N) ≠ 0 := by positivity
  simp only [slippageCost, mul_eq_zero, div_eq_zero_iff, hprice.ne', hunits.ne', hbps, false_or,
    or_false]

end Step

/-! ## Runs -/

section Run

variable {dateParse : String → Option ℤ} {sqrt : N → N} {data : ReplayData N}
  {strategy : Strategy dateParse N}

/-- A replay never makes up for what it lost. -/
structure Advances (replay next : Replay strategy) : Prop where
  gap_le : ∀ signalId, gap strategy replay signalId ≤ gap strategy next signalId
  lead_le : (∀ signalId, gap strategy next signalId = gap strategy replay signalId) →
    lead strategy replay ≤ lead strategy next

/-- Nothing was lost and nothing gained on the account. -/
def Level (replay next : Replay strategy) : Prop :=
  (∀ signalId, gap strategy next signalId = gap strategy replay signalId) ∧
    lead strategy next = lead strategy replay

omit [IsStrictOrderedRing N] in
private theorem Advances.gap_eq {replay next last : Replay strategy} (h : Advances replay next)
    (h' : Advances next last)
    (heq : ∀ signalId, gap strategy last signalId = gap strategy replay signalId) :
    (∀ signalId, gap strategy next signalId = gap strategy replay signalId) ∧
      ∀ signalId, gap strategy last signalId = gap strategy next signalId := by
  have hnext : ∀ signalId, gap strategy next signalId = gap strategy replay signalId :=
    fun signalId => le_antisymm ((h'.gap_le signalId).trans (heq signalId).le) (h.gap_le signalId)
  exact ⟨hnext, fun signalId => (heq signalId).trans (hnext signalId).symm⟩

omit [IsStrictOrderedRing N] in
private theorem Advances.trans {replay next last : Replay strategy} (h : Advances replay next)
    (h' : Advances next last) : Advances replay last where
  gap_le signalId := (h.gap_le signalId).trans (h'.gap_le signalId)
  lead_le heq := by
    obtain ⟨hfirst, hsecond⟩ := h.gap_eq h' heq
    exact (h.lead_le hfirst).trans (h'.lead_le hsecond)

omit [IsStrictOrderedRing N] in
private theorem Advances.level_iff {replay next last : Replay strategy}
    (h : Advances replay next) (h' : Advances next last) :
    Level replay last ↔ Level replay next ∧ Level next last := by
  constructor
  · rintro ⟨hgap, hlead⟩
    obtain ⟨hfirst, hsecond⟩ := h.gap_eq h' hgap
    have hle := h.lead_le hfirst
    have hle' := h'.lead_le hsecond
    rw [hlead] at hle'
    have heq := le_antisymm hle' hle
    exact ⟨⟨hfirst, heq⟩, hsecond, hlead.trans heq.symm⟩
  · rintro ⟨⟨hgap, hlead⟩, hgap', hlead'⟩
    exact ⟨fun signalId => (hgap' signalId).trans (hgap signalId), hlead'.trans hlead⟩

omit [IsStrictOrderedRing N] in
private theorem processLiquidation_positions
    (liquidation : LiquidationEvent N strategy.LiquidationDetail)
    (runtime : ReplayRuntime strategy) :
    (processLiquidation (unrounded N) data strategy liquidation runtime).positionManager =
        runtime.positionManager ∧
      (processLiquidation (unrounded N) data strategy liquidation runtime).entryPriceByPosition =
        runtime.entryPriceByPosition := by
  unfold processLiquidation
  dsimp only
  split
  · exact ⟨rfl, rfl⟩
  · exact ⟨rfl, rfl⟩

private theorem kept_process {replay : Replay strategy}
    (h : Kept replay.runtime.positionManager.positions replay.runtime.entryPriceByPosition)
    (event : TimelineEvent N strategy.LiquidationDetail) :
    Kept
      (replay.process (unrounded N) sqrt data strategy event).runtime.positionManager.positions
      (replay.process (unrounded N) sqrt data strategy event).runtime.entryPriceByPosition := by
  cases event with
  | liquidation liquidation =>
    obtain ⟨hmanager, hprices⟩ := @processLiquidation_positions N _ _ _ dateParse data strategy
      liquidation replay.runtime
    show Kept (processLiquidation (unrounded N) data strategy liquidation
      replay.runtime).positionManager.positions _
    rw [hmanager]
    exact hprices ▸ h
  | candle candle =>
    rw [(process_candle replay candle).1]
    exact kept_processCandle h

/-- What a step of a replay does to the account. -/
private theorem advances_process {replay : Replay strategy}
    (h : Kept replay.runtime.positionManager.positions replay.runtime.entryPriceByPosition)
    (event : TimelineEvent N strategy.LiquidationDetail) :
    Advances replay (replay.process (unrounded N) sqrt data strategy event) ∧
      (StepKeeps sqrt data strategy replay event ↔
        Level replay (replay.process (unrounded N) sqrt data strategy event)) := by
  cases event with
  | liquidation liquidation =>
    obtain ⟨hmanager, -⟩ := @processLiquidation_positions N _ _ _ dateParse data strategy
      liquidation replay.runtime
    have hlevel : Level replay
        (replay.process (unrounded N) sqrt data strategy (.liquidation liquidation)) := by
      simp only [Level, gap, lead, Replay.process, hmanager, implies_true, and_self]
    exact ⟨⟨fun signalId => (hlevel.1 signalId).ge, fun _ => hlevel.2.ge⟩,
      fun _ => hlevel, fun _ => trivial⟩
  | candle candle =>
    have hgap : ∀ signalId, gap strategy
        (replay.process (unrounded N) sqrt data strategy (.candle candle)) signalId =
        gap strategy replay signalId + lostSize sqrt data strategy replay candle signalId :=
      gap_process_eq h candle
    have hlost : (∀ signalId, gap strategy (replay.process (unrounded N) sqrt data strategy
        (.candle candle)) signalId = gap strategy replay signalId) ↔
        ∀ signalId, lostSize sqrt data strategy replay candle signalId = 0 := by
      simp only [hgap, add_eq_left]
    have hcost : 0 ≤ (enteredSignal sqrt data strategy candle replay.equity
        (afterTick data strategy candle replay.runtime)).elim 0 fun entered =>
          slippageCost data entered.1 entered.2 := by
      cases hentered : enteredSignal sqrt data strategy candle replay.equity
          (afterTick data strategy candle replay.runtime) with
      | none => exact le_rfl
      | some entered =>
        obtain ⟨-, hprice, hunits⟩ := pos_of_enteredSignal hentered
        exact slippageCost_nonneg hprice hunits
    refine ⟨⟨?_, ?_⟩, ?_⟩
    · intro signalId
      rw [hgap signalId]
      exact le_add_of_nonneg_right (lostSize_nonneg replay candle signalId)
    · intro heq
      rw [lead_process_eq h (hlost.mp heq)]
      exact le_add_of_nonneg_right hcost
    · constructor
      · rintro ⟨hdropped, hentry⟩
        have hnone : ∀ signalId, lostSize sqrt data strategy replay candle signalId = 0 := by
          rw [lostSize_eq_zero_iff]
          refine ⟨hdropped, fun signal sizeDecision hentered => ?_⟩
          exact (lostOnEntry_eq_zero_iff (pos_of_enteredSignal hentered).2.2).mpr
            (hentry signal sizeDecision hentered).2
        refine ⟨hlost.mpr hnone, ?_⟩
        rw [lead_process_eq h hnone, add_eq_left]
        cases hentered : enteredSignal sqrt data strategy candle replay.equity
            (afterTick data strategy candle replay.runtime) with
        | none => rfl
        | some entered =>
          obtain ⟨-, hprice, hunits⟩ := pos_of_enteredSignal hentered
          exact (slippageCost_eq_zero_iff hprice hunits).mpr
            (hentry entered.1 entered.2 hentered).1
      · rintro ⟨hlevel, hlead⟩
        have hnone := hlost.mp hlevel
        obtain ⟨hdropped, hentry⟩ := (lostSize_eq_zero_iff replay candle).mp hnone
        refine ⟨hdropped, fun signal sizeDecision hentered => ?_⟩
        obtain ⟨-, hprice, hunits⟩ := pos_of_enteredSignal hentered
        rw [lead_process_eq h hnone, add_eq_left, hentered, Option.elim_some] at hlead
        exact ⟨(slippageCost_eq_zero_iff hprice hunits).mp hlead,
          (lostOnEntry_eq_zero_iff hunits).mp (hentry signal sizeDecision hentered)⟩

/-- A run is level exactly where each of its steps keeps the account. -/
private theorem advances_foldl (events : List (TimelineEvent N strategy.LiquidationDetail))
    {replay : Replay strategy}
    (h : Kept replay.runtime.positionManager.positions replay.runtime.entryPriceByPosition) :
    Advances replay (events.foldl (Replay.process (unrounded N) sqrt data strategy) replay) ∧
      (RunKeeps sqrt data strategy replay events ↔
        Level replay (events.foldl (Replay.process (unrounded N) sqrt data strategy) replay)) := by
  induction events generalizing replay with
  | nil =>
    exact ⟨⟨fun _ => le_rfl, fun _ => le_rfl⟩, fun _ => ⟨fun _ => rfl, rfl⟩, fun _ => trivial⟩
  | cons event events ih =>
    obtain ⟨hstep, hkeeps⟩ := @advances_process N _ _ _ _ dateParse sqrt data strategy _ h event
    obtain ⟨hrest, hrun⟩ := ih (kept_process h event)
    rw [List.foldl_cons]
    exact ⟨hstep.trans hrest, (and_congr hkeeps hrun).trans (hstep.level_iff hrest).symm⟩

omit [IsStrictOrderedRing N] in
/-- The curve ends at the equity, once there is any of it. -/
private theorem curve_process (event : TimelineEvent N strategy.LiquidationDetail)
    {replay : Replay strategy}
    (h : ∀ last, replay.equityCurve.getLast? = some last → last.2 = replay.equity) :
    ∀ last, (replay.process (unrounded N) sqrt data strategy event).equityCurve.getLast? =
      some last → last.2 = (replay.process (unrounded N) sqrt data strategy event).equity := by
  cases event with
  | liquidation liquidation => exact h
  | candle candle =>
    have hbook : ∀ (trades : List (BacktestTrade N)) (replay : Replay strategy),
        (∀ last, replay.equityCurve.getLast? = some last → last.2 = replay.equity) →
        ∀ last, (trades.foldl (Replay.book (unrounded N) strategy) replay).equityCurve.getLast? =
          some last →
            last.2 = (trades.foldl (Replay.book (unrounded N) strategy) replay).equity := by
      intro trades
      induction trades with
      | nil => exact fun _ hreplay => hreplay
      | cons trade trades ih =>
        intro replay _
        apply ih
        intro last hlast
        rw [Replay.book, List.getLast?_append, List.getLast?_singleton, Option.some_or,
          Option.some.injEq] at hlast
        rw [← hlast]
        rfl
    exact hbook _ _ h

omit [IsStrictOrderedRing N] in
private theorem curve_foldl (events : List (TimelineEvent N strategy.LiquidationDetail))
    {replay : Replay strategy}
    (h : ∀ last, replay.equityCurve.getLast? = some last → last.2 = replay.equity) :
    ∀ last, (events.foldl (Replay.process (unrounded N) sqrt data
      strategy) replay).equityCurve.getLast? = some last →
        last.2 =
          (events.foldl (Replay.process (unrounded N) sqrt data strategy) replay).equity := by
  induction events generalizing replay with
  | nil => exact h
  | cons event events ih => exact ih (curve_process event h)

/-- In a backtest that ends with no open position, the equity is on the cash account exactly if no
candle drops a rest and every entry is held, under a free id, at the price of its signal. -/
theorem run_books_cash_iff (sqrt : N → N) (strategy : Strategy dateParse N)
    (input : BacktestInput N strategy.LiquidationDetail)
    (tables : BacktestTables N strategy.LiquidationDetail)
    (hclosed : ∀ key position, (replayInput (unrounded N) sqrt strategy input
      tables).runtime.positionManager.positions.get? key = some position →
        isOpen (unrounded N) position = false) :
    BooksCash (run (unrounded N) sqrt strategy input tables) ↔
      RunKeeps sqrt (input.replayData dateParse tables) strategy
        ⟨createRuntime strategy, input.startingEquity, [], [], []⟩
        (if input.enabled then
          timeline dateParse (input.allCandles dateParse tables)
            (input.allLiquidations dateParse tables)
        else []) := by
  have hkept : Kept (createRuntime strategy).positionManager.positions
      (createRuntime strategy).entryPriceByPosition := Kept.empty
  obtain ⟨-, hiff⟩ := @advances_foldl N _ _ _ _ dateParse sqrt
    (input.replayData dateParse tables) strategy
    (if input.enabled then
      timeline dateParse (input.allCandles dateParse tables)
        (input.allLiquidations dateParse tables)
    else []) ⟨createRuntime strategy, input.startingEquity, [], [], []⟩ hkept
  have hcurve := @curve_foldl N _ _ _ dateParse sqrt (input.replayData dateParse tables) strategy
    (if input.enabled then
      timeline dateParse (input.allCandles dateParse tables)
        (input.allLiquidations dateParse tables)
    else []) ⟨createRuntime strategy, input.startingEquity, [], [], []⟩
    (fun last hlast => (Option.some_ne_none last hlast.symm).elim)
  rw [hiff]
  have hreplay : (if input.enabled then
      timeline dateParse (input.allCandles dateParse tables)
        (input.allLiquidations dateParse tables)
      else []).foldl
        (Replay.process (unrounded N) sqrt (input.replayData dateParse tables) strategy)
        ⟨createRuntime strategy, input.startingEquity, [], [], []⟩ =
      replayInput (unrounded N) sqrt strategy input tables := rfl
  rw [hreplay] at hcurve ⊢
  have hending : (run (unrounded N) sqrt strategy input tables).endingEquity =
      (replayInput (unrounded N) sqrt strategy input tables).equity := by
    unfold run replayInput
    cases input.enabled with
    | true => rfl
    | false => rfl
  have hsize : ∀ signalId, heldSize signalId (replayInput (unrounded N) sqrt strategy input
      tables).runtime.positionManager.positions = 0 := by
    intro signalId
    apply Rows.total_eq_zero
    intro key position hposition
    rw [live_eq_zero_iff.mpr (hclosed key position hposition), ite_self]
  have hvalue : heldValue (replayInput (unrounded N) sqrt strategy input
      tables).runtime.positionManager.positions = 0 := by
    apply Rows.total_eq_zero
    intro key position hposition
    rw [live_eq_zero_iff.mpr (hclosed key position hposition), mul_zero]
  have hstart : ∀ signalId, gap strategy ⟨createRuntime strategy, input.startingEquity, [], [], []⟩
      signalId = 0 := by
    intro signalId
    show (0 : N) - 0 - 0 = 0
    ring
  have hlead : lead strategy ⟨createRuntime strategy, input.startingEquity, [], [], []⟩ =
      input.startingEquity := by
    show input.startingEquity - 0 + 0 - 0 = _
    ring
  constructor
  · rintro ⟨hcash, hsizes, -⟩
    rw [hending] at hcash
    constructor
    · intro signalId
      rw [hstart, gap, hsize, sub_zero, sub_eq_zero]
      exact (hsizes signalId).symm
    · rw [hlead, lead, hvalue, sub_zero]
      have hcash' : (replayInput (unrounded N) sqrt strategy input tables).equity -
          input.startingEquity =
          ((replayInput (unrounded N) sqrt strategy input tables).trades.map
            BacktestTrade.cashFlow).sum -
          ((replayInput (unrounded N) sqrt strategy input tables).trades.map
            BacktestTrade.fees).sum := hcash
      linarith only [hcash']
  · rintro ⟨hgap, hlevel⟩
    refine ⟨?_, ?_, ?_⟩
    · rw [hending]
      rw [hlead, lead, hvalue, sub_zero] at hlevel
      show (replayInput (unrounded N) sqrt strategy input tables).equity - input.startingEquity =
        ((replayInput (unrounded N) sqrt strategy input tables).trades.map
          BacktestTrade.cashFlow).sum -
        ((replayInput (unrounded N) sqrt strategy input tables).trades.map BacktestTrade.fees).sum
      linarith only [hlevel]
    · intro signalId
      have hzero := hgap signalId
      rw [hstart, gap, hsize, sub_zero, sub_eq_zero] at hzero
      exact hzero.symm
    · rw [hending]
      exact hcurve

end Run

/-! ## A slipped entry -/

section Sample

/-- `Date.parse` on the minutes of the first hour of 1970. -/
def minuteParse (text : String) : Option ℤ :=
  let minute : ℤ := match (text.toList.drop 14).take 2 with
    | [tens, ones] => (tens.toNat - 48) * 10 + (ones.toNat - 48)
    | _ => 0
  if JavaScript.Timestamp.isoText (minute * 60000) = text then some (minute * 60000) else none

private theorem minuteParse_isoText (text : String) (ms : ℤ) (h : minuteParse text = some ms) :
    minuteParse (JavaScript.Timestamp.isoText ms) = some ms := by
  have htext : JavaScript.Timestamp.isoText ms = text := by
    unfold minuteParse at h
    dsimp only at h
    split_ifs at h with hiso
    rw [← Option.some.inj h]
    exact hiso
  rw [htext, h]

/-- A minute candle of an instrument that opens and closes at one price. -/
def sampleCandle (minute : ℤ) (high low close buyVolume sellVolume : ℚ) :
    ReplayCandle ℚ where
  instrumentCode := "btc-perp"
  openedAt := JavaScript.Timestamp.isoText ((minute - 1) * 60000)
  closedAt := JavaScript.Timestamp.isoText (minute * 60000)
  «open» := close
  high
  low
  close
  volume := buyVolume + sellVolume
  notionalVolume := (buyVolume + sellVolume) * close
  buyVolume
  sellVolume
  isClosed := true

/-- Fees, slippage and sizes of the sample run. -/
def sampleConfig (slippageBps : ℚ) : BacktestConfig ℚ where
  feeBps := 0
  slippageBps
  adverseSelectionMinBps := 0
  adverseSelectionMaxBps := 0
  riskPerTradePct := 1 / 100
  heatCapPct := 6 / 100
  assetProfile _ := (1 / 4, 1010)
  missingOpenInterestPolicy := .assumeStable

/-- Thresholds that the sample run passes. -/
def sampleStrategyConfig : CascadeStrategyConfig ℚ where
  detector _ :=
    { windowMs := 60000
      notionalThresholdUsd := 1000000
      zScoreThreshold := 3
      lookbackHours := 1 / 60
      directionalPct := 7 / 10
      minPriceMoveAtr := 0
      minBaselineWindows := 1
      minCascadeSeparationMs := 60000
      maxEventsPerInstrument := 100000 }
  analyzer :=
    { absorptionWindowMs := 180000
      priceBandBps := 400
      minHoldSeconds := 60
      oiStabilityBps := 5
      maxActiveCascades := 100 }
  signal :=
    { entryWindowSeconds := 300
      impulsiveBarBodyAtr := 3 / 2
      impulsiveBarVolumeMult := 3 / 2
      stopBufferAtr := 0
      minStopDistanceBps := 40
      maxStopDistanceBps := 400
      minTimeSinceLastCascadeSeconds := 1800
      maxRealizedVolPercentile := 19 / 20
      timeStopHours := 24
      partial1R := 2
      partial1SizePct := 30
      partial2R := 3
      partial2SizePct := 30
      runnerTrailingType := .atr
      runnerTrailingParam := 2 }

/-- The strategy of the sample run. -/
def sampleStrategy : Strategy minuteParse ℚ :=
  cascadeStrategy (unrounded ℚ) minuteParse id "" sampleStrategyConfig minuteParse_isoText

/-- Longs are liquidated in the thirteenth minute, the fourteenth recovers and the fifteenth falls
through the stop. -/
def sampleInput (slippageBps : ℚ) : BacktestInput ℚ (LiquidationDetail ℚ) where
  fromDate := JavaScript.Timestamp.isoText 0
  toDate := JavaScript.Timestamp.isoText 3600000
  instruments := ["btc-perp"]
  startingEquity := 100000
  enabled := true
  config := sampleConfig slippageBps
  candles := (List.range 12).map (fun minute => sampleCandle (minute + 1) 101 99 100 0 0) ++
    [sampleCandle 13 100 99 99 0 10, sampleCandle 14 101 99 101 20 0,
      sampleCandle 15 101 97 97 0 0]
  liquidations := [⟨"btc-perp", 98, JavaScript.Timestamp.isoText 780000, ⟨.long, 2000000⟩⟩]
  openInterest := []

private theorem sample_replay :
    (∀ entry ∈ (replayInput (unrounded ℚ) id sampleStrategy (sampleInput 100)
      ⟨[], [], []⟩).runtime.positionManager.positions.entries,
        isOpen (unrounded ℚ) entry.2 = false) ∧
      (run (unrounded ℚ) id sampleStrategy (sampleInput 100) ⟨[], [], []⟩).endingEquity =
        100000 - 497 / 10 ∧
      ((run (unrounded ℚ) id sampleStrategy (sampleInput 100) ⟨[], [], []⟩).trades.map
        BacktestTrade.cashFlow).sum -
        ((run (unrounded ℚ) id sampleStrategy (sampleInput 100) ⟨[], [], []⟩).trades.map
          BacktestTrade.fees).sum = -(598 / 10) := by
  decide +kernel

private theorem sample_closed (key : String) (position : CascadeOpenPosition ℚ ℚ)
    (h : (replayInput (unrounded ℚ) id sampleStrategy (sampleInput 100)
      ⟨[], [], []⟩).runtime.positionManager.positions.get? key = some position) :
    isOpen (unrounded ℚ) position = false :=
  sample_replay.1 (key, position) (Rows.mem_entries_iff.mpr h)

/-- Bought at 102.01 and sold at 96.03, ten units lose 59.8; the equity falls by 49.7. -/
theorem slipped_entry_off_account :
    (∀ key position, (replayInput (unrounded ℚ) id sampleStrategy (sampleInput 100)
      ⟨[], [], []⟩).runtime.positionManager.positions.get? key = some position →
        isOpen (unrounded ℚ) position = false) ∧
      ¬BooksCash (run (unrounded ℚ) id sampleStrategy (sampleInput 100) ⟨[], [], []⟩) := by
  refine ⟨sample_closed, ?_⟩
  rintro ⟨hcash, -, -⟩
  obtain ⟨-, hending, hflow⟩ := sample_replay
  rw [hending, hflow] at hcash
  have hstart : (run (unrounded ℚ) id sampleStrategy (sampleInput 100)
      ⟨[], [], []⟩).startingEquity = 100000 := rfl
  rw [hstart] at hcash
  norm_num at hcash

theorem sample_books_cash_iff :
    BooksCash (run (unrounded ℚ) id sampleStrategy (sampleInput 100) ⟨[], [], []⟩) ↔
      RunKeeps id ((sampleInput 100).replayData minuteParse ⟨[], [], []⟩) sampleStrategy
        ⟨createRuntime sampleStrategy, (sampleInput 100).startingEquity, [], [], []⟩
        (if (sampleInput 100).enabled then
          timeline minuteParse ((sampleInput 100).allCandles minuteParse ⟨[], [], []⟩)
            ((sampleInput 100).allLiquidations minuteParse ⟨[], [], []⟩)
        else []) :=
  run_books_cash_iff id sampleStrategy (sampleInput 100) ⟨[], [], []⟩ sample_closed

end Sample

end Yevow.Cascade
