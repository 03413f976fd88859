import Yevow.Models.Cascade.Heat

/-!
# The heat cap of a backtest

A position is sized from the heat of those that are stored, linearly, while heats add up by
correlation. The heat is subadditive and falls with the size of each position, so that the cap
holds in every state that sizing, registering, ticks and closes lead to.
-/

namespace Yevow.Cascade

/-! ## Ticks and closes -/

/-- The position is another state of the same trade, with no more at stake. -/
structure Shrinks (position next : RealPosition) : Prop where
  instrumentCode : next.instrumentCode = position.instrumentCode
  direction : next.direction = position.direction
  totalSize : next.totalSize = position.totalSize
  initialRiskPct : next.initialRiskPct = position.initialRiskPct
  nonneg : 0 ≤ next.remainingSize
  remainingSize : next.remainingSize ≤ position.remainingSize

private theorem Shrinks.refl {position : RealPosition} (h : 0 ≤ position.remainingSize) :
    Shrinks position position :=
  ⟨rfl, rfl, rfl, rfl, h, le_rfl⟩

private theorem Shrinks.trans {position next last : RealPosition} (h : Shrinks position next)
    (h' : Shrinks next last) : Shrinks position last where
  instrumentCode := h'.instrumentCode.trans h.instrumentCode
  direction := h'.direction.trans h.direction
  totalSize := h'.totalSize.trans h.totalSize
  initialRiskPct := h'.initialRiskPct.trans h.initialRiskPct
  nonneg := h'.nonneg
  remainingSize := h'.remainingSize.trans h.remainingSize

/-- Less at stake is less heat. -/
private theorem Shrinks.heatOf_le {position next : RealPosition} (h : Shrinks position next)
    (hactive : isActivePosition position) (direction : CascadeRecoveryDirection) :
    heatOf direction next ≤ heatOf direction position := by
  rw [heatOf_eq direction next, heatOf_eq direction position]
  split_ifs with hnext hposition
  · rw [h.totalSize, h.initialRiskPct]
    have hshare : next.remainingSize / position.totalSize ≤
        position.remainingSize / position.totalSize :=
      div_le_div_of_nonneg_right h.remainingSize hposition.2.1.le
    rcases le_total 0 position.initialRiskPct with hrisk | hrisk
    · exact max_le_max le_rfl (mul_le_mul_of_nonneg_right hshare hrisk)
    · have hloss : next.remainingSize / position.totalSize * position.initialRiskPct ≤ 0 :=
        mul_nonpos_of_nonneg_of_nonpos (div_nonneg h.nonneg hposition.2.1.le) hrisk
      rw [max_eq_left hloss]
      exact le_max_left 0 _
  · obtain ⟨-, htotal, hremaining, hdirection⟩ := hnext
    exact absurd ⟨hactive, h.totalSize ▸ htotal, hremaining.trans_le h.remainingSize,
      h.direction.symm.trans hdirection⟩ hposition
  · exact le_max_left 0 _
  · exact le_rfl

section Tick

variable {dateParse : String → Option ℤ} {tick : PositionManagerTick ℝ} {position : RealPosition}

private theorem shrinks_moveStop (h : 0 ≤ position.remainingSize) (newStopPrice : ℝ) :
    Shrinks position
      (moveStop CascadeArithmetic.real dateParse position newStopPrice tick).position := by
  unfold moveStop
  split_ifs
  · exact Shrinks.refl h
  · exact ⟨rfl, rfl, rfl, rfl, h, le_rfl⟩

private theorem shrinks_closePartial (h : 0 ≤ position.remainingSize) (sizePct : ℝ)
    (closeReason : CascadeCloseReason) :
    Shrinks position
      (closePartial CascadeArithmetic.real dateParse position sizePct closeReason
        tick).position := by
  unfold closePartial
  dsimp only
  split_ifs with hsize
  · refine ⟨rfl, rfl, rfl, rfl, le_max_left 0 _, ?_⟩
    exact max_le h (by
      show position.remainingSize - _ ≤ _
      linarith)
  · exact Shrinks.refl h

private theorem shrinks_closePosition (h : 0 ≤ position.remainingSize)
    (status : CascadePositionStatus) (observedAt : String) :
    Shrinks position (closePosition position status observedAt) :=
  ⟨rfl, rfl, rfl, rfl, le_rfl, h⟩

private theorem isActive_of_isOpen {ar : CascadeArithmetic ℝ ℝ} (h : isOpen ar position) :
    isActivePosition position := by
  rw [isOpen, Bool.and_eq_true, Bool.not_eq_true'] at h
  unfold isActivePosition
  revert h
  cases position.status <;> simp [CascadePositionStatus.isClosed]

private theorem nonneg_of_isOpen (h : isOpen CascadeArithmetic.real position) :
    0 ≤ position.remainingSize := by
  rw [isOpen, Bool.and_eq_true, decide_eq_true_eq] at h
  have hepsilon : (0 : ℝ) ≤ epsilon CascadeArithmetic.real := by
    show (0 : ℝ) ≤ 1 / 10 ^ 9
    positivity
  exact hepsilon.trans h.1.le

/-- What taking a target makes of a position, whatever status it sets. -/
private theorem shrinks_target (h : 0 ≤ position.remainingSize) (sizePct newStopPrice : ℝ)
    (closeReason : CascadeCloseReason) (status : CascadePositionStatus) (first second : Bool) :
    Shrinks position
      (moveStop CascadeArithmetic.real dateParse
        { (closePartial CascadeArithmetic.real dateParse position sizePct closeReason
            tick).position with
          status
          firstTargetTaken := first
          secondTargetTaken := second } newStopPrice tick).position := by
  have htaken := @shrinks_closePartial dateParse tick position h sizePct closeReason
  have hstatus : Shrinks position
      { (closePartial CascadeArithmetic.real dateParse position sizePct closeReason
          tick).position with
        status
        firstTargetTaken := first
        secondTargetTaken := second } :=
    ⟨htaken.instrumentCode, htaken.direction, htaken.totalSize, htaken.initialRiskPct,
      htaken.nonneg, htaken.remainingSize⟩
  exact hstatus.trans (shrinks_moveStop hstatus.nonneg newStopPrice)

private theorem shrinks_takeFirstTarget (h : 0 ≤ position.remainingSize) :
    Shrinks position (takeFirstTarget CascadeArithmetic.real dateParse tick position).position := by
  unfold takeFirstTarget
  split_ifs
  · exact shrinks_target h _ _ _ _ _ _
  · exact Shrinks.refl h

private theorem shrinks_takeSecondTarget (h : 0 ≤ position.remainingSize) :
    Shrinks position
      (takeSecondTarget CascadeArithmetic.real dateParse tick position).position := by
  unfold takeSecondTarget
  split_ifs
  · exact shrinks_target h _ _ _ _ _ _
  · exact Shrinks.refl h

private theorem shrinks_trailStop (h : 0 ≤ position.remainingSize) :
    Shrinks position (trailStop CascadeArithmetic.real dateParse tick position).position := by
  unfold trailStop
  split
  · exact Shrinks.refl h
  · exact shrinks_moveStop h _

private theorem shrinks_settleTick (h : 0 ≤ position.remainingSize) :
    Shrinks position (settleTick CascadeArithmetic.real dateParse tick position).position := by
  unfold settleTick
  split_ifs
  · exact shrinks_closePosition h _ _
  · exact shrinks_closePosition h _ _
  · exact ⟨rfl, rfl, rfl, rfl, h, le_rfl⟩

private theorem shrinks_updatePosition (h : 0 ≤ position.remainingSize) :
    Shrinks position (updatePosition CascadeArithmetic.real dateParse position tick).position := by
  unfold updatePosition
  split_ifs
  · exact Shrinks.refl h
  · exact shrinks_closePosition h _ _
  · have hfirst := @shrinks_takeFirstTarget dateParse tick position h
    have hsecond := hfirst.trans (@shrinks_takeSecondTarget dateParse tick _ hfirst.nonneg)
    have htrail := hsecond.trans (@shrinks_trailStop dateParse tick _ hsecond.nonneg)
    exact htrail.trans (shrinks_settleTick htrail.nonneg)

/-- A tick leaves a position as it is, or shrinks one that is open. -/
private theorem tickPosition_cases :
    (tickPosition CascadeArithmetic.real dateParse tick position).position = position ∨
      isOpen CascadeArithmetic.real position ∧
        Shrinks position
          (tickPosition CascadeArithmetic.real dateParse tick position).position := by
  unfold tickPosition
  split_ifs with hskip
  · exact Or.inl rfl
  · rw [Bool.or_eq_true, not_or, Bool.not_eq_true', Bool.not_eq_false] at hskip
    exact Or.inr ⟨hskip.2, shrinks_updatePosition (nonneg_of_isOpen hskip.2)⟩

private theorem instrumentCode_tickPosition :
    (tickPosition CascadeArithmetic.real dateParse tick position).position.instrumentCode =
      position.instrumentCode := by
  rcases @tickPosition_cases dateParse tick position with hsame | ⟨-, hshrinks⟩
  · rw [hsame]
  · exact hshrinks.instrumentCode

private theorem heatOf_tickPosition_le (direction : CascadeRecoveryDirection) :
    heatOf direction (tickPosition CascadeArithmetic.real dateParse tick position).position ≤
      heatOf direction position := by
  rcases @tickPosition_cases dateParse tick position with hsame | ⟨hopen, hshrinks⟩
  · rw [hsame]
  · exact hshrinks.heatOf_le (isActive_of_isOpen hopen) direction

end Tick

/-! ## Steps of a backtest -/

section Steps

variable {heatCapPct : ℝ} {dateParse : String → Option ℤ} {manager : PositionManager ℝ ℝ}

/-- A tick never increases the heat. -/
private theorem portfolioHeat_onTick_le (tick : PositionManagerTick ℝ) :
    portfolioHeat heatCapPct (onTick CascadeArithmetic.real dateParse tick manager).1 ≤
      portfolioHeat heatCapPct manager := by
  have hle : ∀ direction, directionVariance direction
        ((onTick CascadeArithmetic.real dateParse tick manager).1.positions.entries.map Prod.snd) ≤
      directionVariance direction (manager.positions.entries.map Prod.snd) := by
    intro direction
    have hpositions :
        (onTick CascadeArithmetic.real dateParse tick manager).1.positions.entries.map Prod.snd =
          (manager.positions.entries.map Prod.snd).map fun position =>
            (tickPosition CascadeArithmetic.real dateParse tick position).position := by
      simp only [onTick, Rows.map, List.map_map, Function.comp_def]
    have hcorrelation : ∀ left right,
        positionCorrelation (tickPosition CascadeArithmetic.real dateParse tick left).position
          (tickPosition CascadeArithmetic.real dateParse tick right).position =
        positionCorrelation left right := by
      intro left right
      simp only [positionCorrelation, instrumentCode_tickPosition]
    rw [hpositions, directionVariance, Correlated.variance_map]
    simp only [hcorrelation]
    exact Correlated.variance_mono (fun _ _ => correlation_nonneg _ _)
      (fun _ => heatOf_nonneg direction _) fun _ => heatOf_tickPosition_le direction
  rw [portfolioHeat_eq, portfolioHeat_eq]
  exact add_le_add (Real.sqrt_le_sqrt (hle .long)) (Real.sqrt_le_sqrt (hle .short))

/-- A position that is set adds at most its own heat. -/
private theorem portfolioHeat_set_le (positionId : String) (position : RealPosition) :
    portfolioHeat heatCapPct ⟨manager.positions.set positionId position⟩ ≤
      portfolioHeat heatCapPct manager + (heatOf .long position + heatOf .short position) := by
  have hle : ∀ direction,
      √(directionVariance direction
        ((manager.positions.set positionId position).entries.map Prod.snd)) ≤
      heatOf direction position +
        √(directionVariance direction (manager.positions.entries.map Prod.snd)) := by
    intro direction
    have hperm := (manager.positions.entries_set_perm positionId position).map Prod.snd
    have hsub : ((manager.positions.delete positionId).entries.map Prod.snd).Sublist
        (manager.positions.entries.map Prod.snd) := List.filter_sublist.map _
    have hrest : directionVariance direction
          ((manager.positions.delete positionId).entries.map Prod.snd) ≤
        directionVariance direction (manager.positions.entries.map Prod.snd) :=
      Correlated.variance_sublist positionCorrelation_nonneg (heatOf_nonneg direction) hsub
    calc √(directionVariance direction
          ((manager.positions.set positionId position).entries.map Prod.snd))
        = √(directionVariance direction
            (position :: (manager.positions.delete positionId).entries.map Prod.snd)) := by
          rw [directionVariance, Correlated.variance_perm hperm]
          rfl
      _ ≤ heatOf direction position + √(directionVariance direction
            ((manager.positions.delete positionId).entries.map Prod.snd)) :=
          sqrt_directionVariance_cons_le direction position _
      _ ≤ _ := by
          have := Real.sqrt_le_sqrt hrest
          linarith
  rw [portfolioHeat_eq, portfolioHeat_eq]
  linarith [hle .long, hle .short]

/-- A close never increases the heat. -/
private theorem portfolioHeat_requestManualClose_le (positionId observedAt : String)
    (referencePrice : ℝ) :
    portfolioHeat heatCapPct
        (requestManualClose CascadeArithmetic.real dateParse positionId observedAt referencePrice
          manager).1 ≤ portfolioHeat heatCapPct manager := by
  unfold requestManualClose
  split
  · exact le_rfl
  · split_ifs
    · exact le_rfl
    · refine (portfolioHeat_set_le positionId _).trans_eq ?_
      simp [heatOf_eq, closeManually, closePosition]

/-- What a backtest knows when it sizes a signal, beside the signal and the heat. -/
structure SizingContext where
  equity : ℝ
  riskPerTradePct : ℝ
  maxPositionNotionalPct : ℝ
  assetLiquidityCap : ℝ

/-- The size of a signal at the current heat. -/
noncomputable def sizeSignal (heatCapPct : ℝ) (context : SizingContext)
    (signal : CascadeRecoverySignal ℝ ℝ) (manager : PositionManager ℝ ℝ) :
    PositionSizeDecision ℝ :=
  calculatePositionSize CascadeArithmetic.real
    { equity := context.equity
      riskPerTradePct := context.riskPerTradePct
      entryPrice := signal.entryPrice
      stopPrice := signal.stopPrice
      maxPositionNotionalPct := context.maxPositionNotionalPct
      assetLiquidityCap := context.assetLiquidityCap
      currentHeat := portfolioHeat heatCapPct manager
      heatCapPct }

/-- A signal is sized and, if that is approved, registered. -/
noncomputable def enterSignal (heatCapPct : ℝ) (context : SizingContext)
    (signal : CascadeRecoverySignal ℝ ℝ) (enteredAt : String) (manager : PositionManager ℝ ℝ) :
    PositionManager ℝ ℝ :=
  let sizeDecision := sizeSignal heatCapPct context signal manager
  if sizeDecision.approved then
    (registerFromSignal signal sizeDecision enteredAt manager).toOption.getD manager
  else manager

/-- A step of a backtest on its positions. -/
inductive BacktestStep
  | tick (tick : PositionManagerTick ℝ)
  | close (positionId observedAt : String) (referencePrice : ℝ)
  | enter (context : SizingContext) (signal : CascadeRecoverySignal ℝ ℝ) (enteredAt : String)

/-- The positions after a step. -/
noncomputable def BacktestStep.apply (heatCapPct : ℝ) (dateParse : String → Option ℤ)
    (manager : PositionManager ℝ ℝ) : BacktestStep → PositionManager ℝ ℝ
  | .tick observed => (onTick CascadeArithmetic.real dateParse observed manager).1
  | .close positionId observedAt referencePrice =>
    (requestManualClose CascadeArithmetic.real dateParse positionId observedAt referencePrice
      manager).1
  | .enter context signal enteredAt => enterSignal heatCapPct context signal enteredAt manager

/-- The positions after the steps of a backtest. -/
noncomputable def afterSteps (heatCapPct : ℝ) (dateParse : String → Option ℤ)
    (steps : List BacktestStep) : PositionManager ℝ ℝ :=
  steps.foldl (BacktestStep.apply heatCapPct dateParse) PositionManager.new

/-- An approved size risks no more than the heat that is left. -/
private theorem riskPct_of_approved {context : SizingContext} {signal : CascadeRecoverySignal ℝ ℝ}
    (h : (sizeSignal heatCapPct context signal manager).approved = true) :
    0 ≤ (sizeSignal heatCapPct context signal manager).riskPct ∧
      (sizeSignal heatCapPct context signal manager).riskPct ≤
        heatCapPct - portfolioHeat heatCapPct manager := by
  unfold sizeSignal calculatePositionSize at h ⊢
  dsimp only [CascadeArithmetic.real, id_eq] at h ⊢
  split_ifs at h ⊢ with hinvalid hexhausted hnone
  · simp [emptyDecision] at h
  · simp [emptyDecision] at h
  · simp only [not_or, not_not] at hinvalid
    obtain ⟨hequity, -, hdistance, -⟩ := hinvalid
    rw [not_le] at hexhausted
    set remaining := max 0 (heatCapPct - portfolioHeat heatCapPct manager) with hremaining
    set distance := |signal.entryPrice - signal.stopPrice|
    set units := min (min (min (context.equity * context.riskPerTradePct / distance)
      (context.equity * context.maxPositionNotionalPct / signal.entryPrice))
      (context.assetLiquidityCap / signal.entryPrice)) (context.equity * remaining / distance)
    have hunits : units * distance ≤ context.equity * remaining :=
      (le_div_iff₀ hdistance).mp (min_le_right _ _)
    have hleft : remaining = heatCapPct - portfolioHeat heatCapPct manager := by
      rw [hremaining, max_eq_right_iff]
      by_contra hneg
      rw [hremaining, max_eq_left (not_le.mp hneg).le] at hexhausted
      exact lt_irrefl _ hexhausted
    constructor
    · exact div_nonneg (mul_nonneg hnone.le hdistance.le) hequity.le
    · rw [← hleft, div_le_iff₀ hequity]
      linarith
  · simp [emptyDecision] at h

/-- Entering a signal adds at most what it risks. -/
private theorem portfolioHeat_enterSignal_le {context : SizingContext}
    {signal : CascadeRecoverySignal ℝ ℝ} (enteredAt : String)
    (h : (sizeSignal heatCapPct context signal manager).approved = true) :
    portfolioHeat heatCapPct (enterSignal heatCapPct context signal enteredAt manager) ≤
      portfolioHeat heatCapPct manager +
        (sizeSignal heatCapPct context signal manager).riskPct := by
  obtain ⟨hrisk, -⟩ := riskPct_of_approved h
  unfold enterSignal registerFromSignal
  dsimp only
  rw [if_pos h]
  split_ifs with hrejected
  · show portfolioHeat heatCapPct manager ≤ _
    linarith
  · show portfolioHeat heatCapPct ⟨manager.positions.set _ _⟩ ≤ _
    refine (portfolioHeat_set_le _ _).trans ?_
    rw [Bool.or_eq_true, not_or, decide_eq_true_eq, not_le] at hrejected
    have hheat : heatOf .long (signal.position (sizeSignal heatCapPct context signal manager)
          enteredAt) + heatOf .short (signal.position
            (sizeSignal heatCapPct context signal manager) enteredAt) =
        (sizeSignal heatCapPct context signal manager).riskPct := by
      rw [heatOf_eq, heatOf_eq]
      cases hdirection : signal.direction <;>
        simp [CascadeRecoverySignal.position, hdirection, isActivePosition, hrejected.2,
          div_self hrejected.2.ne', hrisk]
    rw [hheat]

/-- Each step keeps the heat within the cap. -/
private theorem portfolioHeat_apply_le (h : portfolioHeat heatCapPct manager ≤ heatCapPct)
    (step : BacktestStep) :
    portfolioHeat heatCapPct (step.apply heatCapPct dateParse manager) ≤ heatCapPct := by
  cases step with
  | tick tick => exact (portfolioHeat_onTick_le tick).trans h
  | close positionId observedAt referencePrice =>
    exact (portfolioHeat_requestManualClose_le positionId observedAt referencePrice).trans h
  | enter context signal enteredAt =>
    by_cases happroved : (sizeSignal heatCapPct context signal manager).approved = true
    · obtain ⟨-, hleft⟩ := riskPct_of_approved happroved
      have := portfolioHeat_enterSignal_le enteredAt happroved
      show portfolioHeat heatCapPct (enterSignal heatCapPct context signal enteredAt manager) ≤ _
      linarith
    · show portfolioHeat heatCapPct (enterSignal heatCapPct context signal enteredAt manager) ≤ _
      rw [enterSignal, if_neg happroved]
      exact h

private theorem portfolioHeat_new (heatCapPct : ℝ) :
    portfolioHeat heatCapPct PositionManager.new = 0 := by
  rw [portfolioHeat_eq]
  simp [PositionManager.new, Rows.empty, directionVariance]

private theorem portfolioHeat_afterSteps_le (hcap : 0 ≤ heatCapPct) (steps : List BacktestStep) :
    portfolioHeat heatCapPct (afterSteps heatCapPct dateParse steps) ≤ heatCapPct := by
  induction steps using List.reverseRecOn with
  | nil => exact (portfolioHeat_new heatCapPct).trans_le hcap
  | append_singleton steps step ih =>
    rw [afterSteps, List.foldl_append, List.foldl_cons, List.foldl_nil]
    exact portfolioHeat_apply_le ih step

end Steps

/-- In every state that the steps of a backtest lead to, the heat is within the cap, ticks and
closes do not increase it, and entering a signal adds at most what it risks. -/
theorem heat_within_cap (heatCapPct : ℝ) (hcap : 0 ≤ heatCapPct)
    (dateParse : String → Option ℤ) (steps : List BacktestStep) :
    let manager := afterSteps heatCapPct dateParse steps
    portfolioHeat heatCapPct manager ≤ heatCapPct ∧
      (∀ tick, portfolioHeat heatCapPct
          (onTick CascadeArithmetic.real dateParse tick manager).1 ≤
        portfolioHeat heatCapPct manager) ∧
      (∀ positionId observedAt referencePrice, portfolioHeat heatCapPct
          (requestManualClose CascadeArithmetic.real dateParse positionId observedAt referencePrice
            manager).1 ≤ portfolioHeat heatCapPct manager) ∧
      ∀ context signal enteredAt,
        (sizeSignal heatCapPct context signal manager).approved = true →
        portfolioHeat heatCapPct (enterSignal heatCapPct context signal enteredAt manager) ≤
          portfolioHeat heatCapPct manager +
            (sizeSignal heatCapPct context signal manager).riskPct :=
  ⟨portfolioHeat_afterSteps_le hcap steps, portfolioHeat_onTick_le,
    portfolioHeat_requestManualClose_le,
    fun _ _ enteredAt happroved => portfolioHeat_enterSignal_le enteredAt happroved⟩

/-! ## A concrete run -/

/-- An account of one thousand that risks one percent with each trade. -/
private noncomputable def thousandAccount : SizingContext := ⟨1000, 1 / 100, 1, 100000⟩

/-- Bought at one hundred with a stop at ninety; half is sold at one hundred and twenty. -/
private noncomputable def longSignal (signalId instrumentCode : String) :
    CascadeRecoverySignal ℝ ℝ where
  signalId
  cascadeId := "cascade"
  instrumentCode
  direction := .long
  entryPrice := 100
  stopPrice := 90
  rDistance := 10
  targets := ⟨⟨120, 2, 50⟩, ⟨150, 5, 30⟩, ⟨.ema, 5, 20⟩⟩
  timeStopAt := "t9"

private noncomputable def enterLong (signalId instrumentCode : String) : BacktestStep :=
  .enter thousandAccount (longSignal signalId instrumentCode) "t0"

/-- A tick that takes the first target. -/
private noncomputable def targetTick : PositionManagerTick ℝ := ⟨"BTC-PERP", 125, "t1", [], none⟩

private theorem sizeSignal_new (signalId instrumentCode : String) :
    sizeSignal (1 / 20) thousandAccount (longSignal signalId instrumentCode) PositionManager.new =
      ⟨true, 1, 100, 10, 1 / 100, 1 / 100, .risk, "Position size approved.", ⟨1, 10, 1000, 5⟩⟩ := by
  rw [sizeSignal, portfolioHeat_new]
  norm_num [calculatePositionSize, thousandAccount, longSignal, CascadeArithmetic.real]
  simp [findLimitingFactor]

/-- The first signal is approved and its position held, the tick that takes its first target
leaves no more heat, and with the second signal the heat is within the cap. -/
theorem traded_backtest_within_cap :
    let entered := afterSteps (1 / 20) (fun _ => none) [enterLong "a" "BTC-PERP"]
    entered.positions.entries.length = 1 ∧ portfolioHeat (1 / 20) entered ≤ 0 + 1 / 100 ∧
      portfolioHeat (1 / 20)
          (onTick CascadeArithmetic.real (fun _ => none) targetTick entered).1 ≤
        portfolioHeat (1 / 20) entered ∧
      portfolioHeat (1 / 20) (afterSteps (1 / 20) (fun _ => none)
        [enterLong "a" "BTC-PERP", .tick targetTick, enterLong "b" "ETH-PERP"]) ≤ 1 / 20 := by
  have hcap : (0 : ℝ) ≤ 1 / 20 := by norm_num
  have hsize := sizeSignal_new "a" "BTC-PERP"
  refine ⟨?_, ?_, (heat_within_cap (1 / 20) hcap (fun _ => none) [enterLong "a" "BTC-PERP"]).2.1
    targetTick, (heat_within_cap (1 / 20) hcap (fun _ => none) _).1⟩
  · have hunits : ¬(1 : ℝ) ≤ 0 := by norm_num
    simp only [afterSteps, List.foldl_cons, List.foldl_nil, enterLong, BacktestStep.apply,
      enterSignal, hsize, registerFromSignal, decide_eq_false hunits, if_true]
    rfl
  · have hentered := (heat_within_cap (1 / 20) hcap (fun _ => none) []).2.2.2 thousandAccount
      (longSignal "a" "BTC-PERP") "t0" (congrArg PositionSizeDecision.approved hsize)
    rw [show afterSteps (1 / 20) (fun _ => none) [] = PositionManager.new from rfl, hsize,
      portfolioHeat_new] at hentered
    exact hentered

end Yevow.Cascade
