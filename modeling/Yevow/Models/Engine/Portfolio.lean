import Mathlib.Tactic.Linarith
import Mathlib.Tactic.LinearCombination
import Mathlib.Tactic.Ring
import Yevow.Models.Engine.ExecutionAccounting

/-!
# Conservation of the portfolio

In exact arithmetic a fill moves value between cash, cost basis and realised profit and
creates none. Whatever reports arrive, each position is the sum of the fills booked for its
instrument, and equity is cash plus the marked value of the positions.
-/

namespace Yevow.Engine

open JavaScript (Record)

/-! ## What a report books -/

/-- A fill booked into the portfolio, its size positive for a purchase. -/
structure Fill where
  instrumentCode : String
  signed : ℚ
  price : ℚ
  fees : ℚ

variable (ar : EngineArithmetic)

/-- The price a report's fill would be booked at. -/
def EngineState.fillPrice (state : EngineState) (step : ExecutionStep) : Number :=
  Engine.fillPrice step.report (state.accounting ar step).order

/-- The report announces newly filled size. -/
def EngineState.Fills (state : EngineState) (step : ExecutionStep) : Prop :=
  isPortfolioFillStatus step.report.status = true ∧ 0 < (state.accounting ar step).fillIncrementSize

instance (state : EngineState) (step : ExecutionStep) : Decidable (state.Fills ar step) :=
  inferInstanceAs (Decidable (_ ∧ _))

/-- The fill a report books, if it books one. -/
def EngineState.bookedFill (state : EngineState) (step : ExecutionStep) : Option Fill :=
  if state.Fills ar step then
    match state.fillPrice ar step with
    | .finite price =>
      if price ≤ 0 then none
      else
        let order := (state.accounting ar step).order
        some ⟨order.instrumentCode,
          fillSigned order.side (state.accounting ar step).fillIncrementSize, price,
          step.report.fees.getD 0⟩
    | .infinite _ => none
    | .nan => none
  else none

/-- The cost of the open positions at their average entry prices. -/
def costBasis (positions : Record Position) : ℚ :=
  positions.total fun p => signedPosition (some p) * p.averageEntryPrice

/-- The value of the open positions at given marks. -/
def marketValue (markPrice : String → ℚ → ℚ) (positions : Record Position) : ℚ :=
  positions.total fun p => signedPosition (some p) * markPrice p.instrumentCode p.markPrice

private theorem sign_mul_quantity (p : Position) :
    p.side.sign * p.quantity = signedPosition (some p) := by
  cases h : p.side with
  | long => simp [signedPosition, h, PositionSide.sign]
  | short => simp [signedPosition, h, PositionSide.sign]

/-- Revaluation sets equity to cash plus the marked positions. -/
theorem markBankrollToMarket_unrounded (state : EngineState) (cash realizedPnl : ℚ)
    (positions : Record Position) (observedAt : String) (markPrice : String → ℚ → ℚ) :
    markBankrollToMarket .unrounded state cash realizedPnl positions observedAt markPrice =
      { state.bankroll with
        cash
        equity := cash + marketValue markPrice positions
        realizedPnl
        updatedAt := observedAt } := by
  have hfold : ∀ (ps : List Position) (sum : ℚ), ps.foldl (fun sum p =>
      sum + p.side.sign * p.quantity * markPrice p.instrumentCode p.markPrice) sum =
        sum + (ps.map fun p =>
          signedPosition (some p) * markPrice p.instrumentCode p.markPrice).sum := by
    intro ps
    induction ps with
    | nil => simp
    | cons p ps ih =>
      intro sum
      rw [List.foldl_cons, ih, List.map_cons, List.sum_cons, sign_mul_quantity]
      ring
  simp only [markBankrollToMarket, EngineArithmetic.unrounded_add, EngineArithmetic.unrounded_mul,
    EngineArithmetic.unrounded_roundCrypto, hfold, zero_add, marketValue, Record.sum_values]

/-! ## The cost of a fill -/

private theorem average_cost_sameDirection {q f a p : ℚ} (hf : f ≠ 0)
    (hsame : q = 0 ∨ SignType.sign q = SignType.sign f) (hdust : 1 / 10 ^ 8 < |q + f|) :
    (q + f) * averageEntryPrice .unrounded q f (q + f) a p = q * a + f * p := by
  have habs : |q + f| = |q| + |f| := by
    rcases lt_or_gt_of_ne hf with hneg | hpos
    · have hq : q ≤ 0 := by
        rcases hsame with rfl | hsign
        · exact le_rfl
        · rw [sign_neg hneg, sign_eq_neg_one_iff] at hsign
          exact hsign.le
      rw [abs_of_nonpos hq, abs_of_neg hneg, abs_of_neg (by linarith)]
      ring
    · have hq : 0 ≤ q := by
        rcases hsame with rfl | hsign
        · exact le_rfl
        · rw [sign_pos hpos, sign_eq_one_iff] at hsign
          exact hsign.le
      rw [abs_of_nonneg hq, abs_of_pos hpos, abs_of_pos (by linarith)]
  have hscale : (q + f) * (|q| * a + |f| * p) = (q * a + f * p) * (|q| + |f|) := by
    have hcross : f * |q| = q * |f| := by
      rcases hsame with rfl | hsign
      · simp
      · rw [← sign_mul_abs q, ← sign_mul_abs f, hsign, abs_mul, abs_mul, abs_abs, abs_abs]
        ring
    linear_combination (a - p) * hcross
  have hmax : max (1 / 10 ^ 8) (|q| + |f|) = |q| + |f| := by
    rw [max_eq_right]
    rw [← habs]
    exact hdust.le
  have hpos : 0 < |q| + |f| := by
    rw [← habs]
    exact lt_trans (by norm_num) hdust
  rw [averageEntryPrice, if_pos hsame]
  simp only [EngineArithmetic.unrounded_roundCrypto, EngineArithmetic.unrounded_div,
    EngineArithmetic.unrounded_add, EngineArithmetic.unrounded_mul,
    EngineArithmetic.unrounded_dust, hmax]
  rw [← mul_div_assoc, hscale, mul_div_cancel_right₀ _ hpos.ne']

private theorem average_cost_opposite {q f a p : ℚ} (hf : f ≠ 0) (hq : q ≠ 0)
    (hopposite : SignType.sign q ≠ SignType.sign f) :
    (q + f) * averageEntryPrice .unrounded q f (q + f) a p =
      q * a + f * p + realizedFromClose .unrounded q f a p := by
  have hclosing : closingSize q f = min |q| |f| := by
    rw [closingSize, if_pos ⟨hq, hopposite⟩]
  have hpos : 0 < min |q| |f| := lt_min (abs_pos.mpr hq) (abs_pos.mpr hf)
  rw [averageEntryPrice, if_neg (by tauto), realizedFromClose, hclosing, if_pos hpos]
  simp only [EngineArithmetic.unrounded_mul, EngineArithmetic.unrounded_sub]
  rcases lt_or_gt_of_ne hq with hneg | hqpos
  · have hfpos : 0 < f := by
      by_contra hle
      have hlt : f < 0 := lt_of_le_of_ne (not_lt.mp hle) hf
      exact hopposite (by rw [sign_neg hneg, sign_neg hlt])
    rw [abs_of_neg hneg, abs_of_pos hfpos, if_neg (not_lt.mpr hneg.le), sign_neg hneg]
    by_cases hnext : q + f < 0
    · rw [if_pos (sign_neg hnext), min_eq_right (by linarith)]
      ring
    · rw [if_neg (mt sign_eq_neg_one_iff.mp hnext), min_eq_left (by linarith)]
      ring
  · have hfneg : f < 0 := by
      by_contra hle
      have hlt : 0 < f := lt_of_le_of_ne (not_lt.mp hle) hf.symm
      exact hopposite (by rw [sign_pos hqpos, sign_pos hlt])
    rw [abs_of_pos hqpos, abs_of_neg hfneg, if_pos hqpos, sign_pos hqpos]
    by_cases hnext : 0 < q + f
    · rw [if_pos (sign_pos hnext), min_eq_right (by linarith)]
      ring
    · rw [if_neg (mt sign_eq_one_iff.mp hnext), min_eq_left (by linarith)]
      ring

/-- A fill adds its own price to the cost basis, and realises what it takes out above cost. -/
theorem average_cost {q f : ℚ} (a p : ℚ) (hf : f ≠ 0) (hdust : q + f = 0 ∨ 1 / 10 ^ 8 < |q + f|) :
    (q + f) * averageEntryPrice .unrounded q f (q + f) a p =
      q * a + f * p + realizedFromClose .unrounded q f a p := by
  by_cases hsame : q = 0 ∨ SignType.sign q = SignType.sign f
  · have hclosing : closingSize q f = 0 := by
      rw [closingSize, if_neg (by tauto)]
    rw [realizedFromClose, hclosing, if_neg (lt_irrefl 0), add_zero]
    rcases hdust with hzero | hdust
    · have hneg : q = -f := by linarith
      rcases hsame with rfl | hsign
      · exact absurd hneg.symm (neg_ne_zero.mpr hf)
      · rw [hneg, Left.sign_neg] at hsign
        exact absurd hsign (by simpa using SignType.neg_eq_self_iff.not.mpr (sign_ne_zero.mpr hf))
    · exact average_cost_sameDirection hf hsame hdust
  · push Not at hsame
    exact average_cost_opposite hf hsame.1 hsame.2

/-! ## What one report does -/

/-- The fill a report announces has a positive price. -/
def EngineState.PositivelyPriced (state : EngineState) (step : ExecutionStep) : Prop :=
  state.Fills ar step → ∃ price, state.fillPrice ar step = .finite price ∧ 0 < price

/-- The position a fill leaves is closed exactly or exceeds the closing tolerance. -/
def EngineState.LeavesNoDust (state : EngineState) (step : ExecutionStep) : Prop :=
  ∀ fill ∈ state.bookedFill ar step,
    let residual := signedPosition (state.openPositions.get? fill.instrumentCode) + fill.signed
    residual = 0 ∨ 1 / 10 ^ 8 < |residual|

instance (state : EngineState) (step : ExecutionStep) : Decidable (state.LeavesNoDust ar step) :=
  inferInstanceAs (Decidable (∀ fill ∈ state.bookedFill ar step,
    signedPosition (state.openPositions.get? fill.instrumentCode) + fill.signed = 0 ∨
      1 / 10 ^ 8 < |signedPosition (state.openPositions.get? fill.instrumentCode) + fill.signed|))

/-- Cash and cost basis less the profit taken, which no fill changes. -/
def EngineState.invested (state : EngineState) : ℚ :=
  state.bankroll.cash + costBasis state.openPositions - state.bankroll.realizedPnl

/-- Everything a booked fill does to the portfolio. -/
structure Books (s s' : EngineState) (fill : Fill) : Prop where
  signed : signedPosition (s'.openPositions.get? fill.instrumentCode) =
    signedPosition (s.openPositions.get? fill.instrumentCode) + fill.signed
  absent : s'.openPositions.get? fill.instrumentCode = none ↔
    signedPosition (s.openPositions.get? fill.instrumentCode) + fill.signed = 0
  others : ∀ code ≠ fill.instrumentCode, s'.openPositions.get? code = s.openPositions.get? code
  wellFormed : ∀ p, s'.openPositions.get? fill.instrumentCode = some p →
    p.instrumentCode = fill.instrumentCode ∧ 0 < p.quantity
  invested : s'.invested = s.invested

private theorem signedPosition_signed {next : ℚ} (hnext : next ≠ 0) (p : Position)
    (hside : p.side = if next > 0 then .long else .short) (hquantity : p.quantity = |next|) :
    signedPosition (some p) = next := by
  rcases lt_or_gt_of_ne hnext with hneg | hpos
  · rw [if_neg (not_lt.mpr hneg.le)] at hside
    simp [signedPosition, hside, hquantity, abs_of_neg hneg]
  · rw [if_pos hpos] at hside
    simp [signedPosition, hside, hquantity, abs_of_pos hpos]

/-- The positions after a fill: the one it meets is closed or rewritten. -/
private theorem bookFill_positions {s : EngineState} {order : ManagedOrder} {size : ℚ}
    (price fees : ℚ) (observedAt : String) (markPrice : String → ℚ → ℚ) {q f : ℚ}
    (hq : q = signedPosition (s.openPositions.get? order.instrumentCode))
    (hf : f = fillSigned order.side size) (hdust : q + f = 0 ∨ 1 / 10 ^ 8 < |q + f|) :
    (q + f = 0 ∧ (bookFill .unrounded s order size price fees observedAt markPrice).2 =
        s.openPositions.delete order.instrumentCode) ∨
    (q + f ≠ 0 ∧ ∃ p : Position,
      (bookFill .unrounded s order size price fees observedAt markPrice).2 =
        s.openPositions.set order.instrumentCode p ∧
      p.instrumentCode = order.instrumentCode ∧ 0 < p.quantity ∧ signedPosition (some p) = q + f ∧
      p.averageEntryPrice = averageEntryPrice .unrounded q f (q + f)
        ((s.openPositions.get? order.instrumentCode).elim price Position.averageEntryPrice)
        price) := by
  by_cases hzero : q + f = 0
  · refine Or.inl ⟨hzero, ?_⟩
    simp only [bookFill, EngineArithmetic.unrounded_add, EngineArithmetic.unrounded_roundCrypto,
      EngineArithmetic.unrounded_dust, ← hq, ← hf, hzero, abs_zero]
    rw [if_pos (by norm_num)]
  · have hlarge : 1 / 10 ^ 8 < |q + f| := hdust.resolve_left hzero
    refine Or.inr ⟨hzero, ?_⟩
    simp only [bookFill, EngineArithmetic.unrounded_add, EngineArithmetic.unrounded_roundCrypto,
      EngineArithmetic.unrounded_dust, ← hq, ← hf, if_neg (not_le.mpr hlarge)]
    exact ⟨_, rfl, rfl, abs_pos.mpr hzero, signedPosition_signed hzero _ rfl rfl, rfl⟩

private theorem bookFill_bankroll (s : EngineState) (order : ManagedOrder)
    (size price fees : ℚ) (observedAt : String) (markPrice : String → ℚ → ℚ) :
    let booked := bookFill .unrounded s order size price fees observedAt markPrice
    let f := fillSigned order.side size
    let existing := s.openPositions.get? order.instrumentCode
    booked.1.cash = s.bankroll.cash - f * price - fees ∧
    booked.1.realizedPnl = s.bankroll.realizedPnl +
      realizedFromClose .unrounded (signedPosition existing) f
        (existing.elim price Position.averageEntryPrice) price - fees ∧
    booked.1.equity = booked.1.cash + marketValue markPrice booked.2 := by
  simp only [bookFill, markBankrollToMarket_unrounded, EngineArithmetic.unrounded_add,
    EngineArithmetic.unrounded_sub, EngineArithmetic.unrounded_mul,
    EngineArithmetic.unrounded_roundCrypto, and_true]
  cases order.side with
  | buy =>
    simp only [fillSigned]
    ring
  | sell =>
    simp only [fillSigned]
    ring

/-- A booked fill is the order's, at a positive size and price. -/
theorem EngineState.bookedFill_eq_some {state : EngineState} {step : ExecutionStep} {fill : Fill}
    (h : state.bookedFill ar step = some fill) :
    ∃ price, 0 < price ∧ 0 < (state.accounting ar step).fillIncrementSize ∧
      fill = ⟨(state.accounting ar step).order.instrumentCode,
        fillSigned (state.accounting ar step).order.side
          (state.accounting ar step).fillIncrementSize, price, step.report.fees.getD 0⟩ ∧
      ((state.execute ar step).bankroll, (state.execute ar step).openPositions) =
        bookFill ar state (state.accounting ar step).order
          (state.accounting ar step).fillIncrementSize price (step.report.fees.getD 0)
          (state.accounting ar step).observedAt step.markPrice := by
  unfold EngineState.bookedFill at h
  by_cases hfills : state.Fills ar step
  · rw [if_pos hfills] at h
    cases hprice : state.fillPrice ar step with
    | finite price =>
      simp only [hprice] at h
      split_ifs at h with hle
      refine ⟨price, not_le.mp hle, hfills.2, (Option.some.inj h).symm, ?_⟩
      have happly : applyFillToPortfolio ar state (state.accounting ar step).order
          (state.accounting ar step).fillIncrementSize (state.fillPrice ar step)
          (step.report.fees.getD 0) (state.accounting ar step).observedAt step.markPrice =
            bookFill ar state (state.accounting ar step).order
              (state.accounting ar step).fillIncrementSize price (step.report.fees.getD 0)
              (state.accounting ar step).observedAt step.markPrice := by
        simp only [hprice, applyFillToPortfolio]
        exact if_neg (not_or.mpr ⟨not_le.mpr hfills.2, hle⟩)
      rw [← happly]
      exact congrArg (fun x : Bankroll × Record Position => (x.1, x.2)) (if_pos hfills)
    | infinite negative => simp [hprice] at h
    | nan => simp [hprice] at h
  · rw [if_neg hfills] at h
    exact absurd h (by simp)

/-- A report that books nothing revalues the bankroll, unless its price is unusable. -/
theorem EngineState.execute_of_bookedFill_eq_none {state : EngineState} {step : ExecutionStep}
    (h : state.bookedFill ar step = none) :
    (state.execute ar step).openPositions = state.openPositions ∧
      ((state.execute ar step).bankroll = state.bankroll ∧ ¬state.PositivelyPriced ar step ∨
        (state.execute ar step).bankroll = markBankrollToMarket ar state state.bankroll.cash
          state.bankroll.realizedPnl state.openPositions (state.accounting ar step).observedAt
          step.markPrice) := by
  have hexecute : ((state.execute ar step).bankroll, (state.execute ar step).openPositions) =
      if state.Fills ar step then
        applyFillToPortfolio ar state (state.accounting ar step).order
          (state.accounting ar step).fillIncrementSize (state.fillPrice ar step)
          (step.report.fees.getD 0) (state.accounting ar step).observedAt step.markPrice
      else
        (markBankrollToMarket ar state state.bankroll.cash state.bankroll.realizedPnl
          state.openPositions (state.accounting ar step).observedAt step.markPrice,
          state.openPositions) := rfl
  by_cases hfills : state.Fills ar step
  · have hunpriced : ¬state.PositivelyPriced ar step ∧
        applyFillToPortfolio ar state (state.accounting ar step).order
          (state.accounting ar step).fillIncrementSize (state.fillPrice ar step)
          (step.report.fees.getD 0) (state.accounting ar step).observedAt step.markPrice =
            (state.bankroll, state.openPositions) := by
      rw [EngineState.bookedFill, if_pos hfills] at h
      unfold EngineState.PositivelyPriced
      cases hprice : state.fillPrice ar step with
      | finite price =>
        simp only [hprice] at h
        split_ifs at h with hle
        constructor
        · intro hpriced
          obtain ⟨price', hp, hpos⟩ := hpriced hfills
          obtain rfl := Number.finite.inj hp
          exact absurd hpos (not_lt.mpr hle)
        · exact if_pos (Or.inr hle)
      | infinite negative =>
        refine ⟨fun hpriced => ?_, rfl⟩
        obtain ⟨price, hp, -⟩ := hpriced hfills
        exact absurd hp (by simp)
      | nan =>
        refine ⟨fun hpriced => ?_, rfl⟩
        obtain ⟨price, hp, -⟩ := hpriced hfills
        exact absurd hp (by simp)
    rw [if_pos hfills, hunpriced.2] at hexecute
    obtain ⟨hbankroll, hpositions⟩ := Prod.mk.inj hexecute
    exact ⟨hpositions, Or.inl ⟨hbankroll, hunpriced.1⟩⟩
  · rw [if_neg hfills] at hexecute
    obtain ⟨hbankroll, hpositions⟩ := Prod.mk.inj hexecute
    exact ⟨hpositions, Or.inr hbankroll⟩

private theorem fillSigned_ne_zero (side : TradeSide) {size : ℚ} (h : 0 < size) :
    fillSigned side size ≠ 0 := by
  cases side with
  | buy => exact h.ne'
  | sell => exact neg_ne_zero.mpr h.ne'

/-- The cost basis after the position under a key was closed or rewritten. -/
private theorem costBasis_update {r r' : Record Position} {code : String} {q' a' : ℚ}
    (h : r' = r.delete code ∧ q' = 0 ∨ ∃ p : Position, r' = r.set code p ∧
      signedPosition (some p) = q' ∧ p.averageEntryPrice = a') :
    costBasis r' = costBasis r - (r.get? code).elim 0
      (fun p => signedPosition (some p) * p.averageEntryPrice) + q' * a' := by
  unfold costBasis
  rw [Rows.total_eq_add_delete _ r code]
  rcases h with ⟨rfl, rfl⟩ | ⟨p, rfl, rfl, rfl⟩
  · ring
  · rw [Rows.total_set]
    ring

/-- A booked fill conserves the invested value and leaves the other positions alone. -/
theorem EngineState.books {s : EngineState} {step : ExecutionStep} {fill : Fill}
    (h : s.bookedFill .unrounded step = some fill) (hdust : s.LeavesNoDust .unrounded step) :
    Books s (s.execute .unrounded step) fill ∧
      (s.execute .unrounded step).bankroll.equity = (s.execute .unrounded step).bankroll.cash +
        marketValue step.markPrice (s.execute .unrounded step).openPositions := by
  have hresidual := hdust fill h
  obtain ⟨price, -, hsize, hfill, hbook⟩ := s.bookedFill_eq_some .unrounded h
  have hbankroll : (s.execute .unrounded step).bankroll = _ := congrArg Prod.fst hbook
  have hpositions : (s.execute .unrounded step).openPositions = _ := congrArg Prod.snd hbook
  generalize hs' : s.execute .unrounded step = s' at hbankroll hpositions ⊢
  generalize (s.accounting .unrounded step).order = order at hfill hbankroll hpositions
  generalize (s.accounting .unrounded step).fillIncrementSize = size at *
  obtain ⟨hcash, hpnl, hequity⟩ := bookFill_bankroll s order size price (step.report.fees.getD 0)
    (s.accounting .unrounded step).observedAt step.markPrice
  rw [← hbankroll] at hcash hpnl hequity
  rw [← hpositions] at hequity
  subst hfill
  have hcost := average_cost
    ((s.openPositions.get? order.instrumentCode).elim price Position.averageEntryPrice) price
    (fillSigned_ne_zero order.side hsize) hresidual
  have hold : (s.openPositions.get? order.instrumentCode).elim 0
        (fun p => signedPosition (some p) * p.averageEntryPrice) =
      signedPosition (s.openPositions.get? order.instrumentCode) *
        (s.openPositions.get? order.instrumentCode).elim price Position.averageEntryPrice := by
    cases s.openPositions.get? order.instrumentCode with
    | none => simp [signedPosition]
    | some p => rfl
  have hinvested : ∀ q' a', (s'.openPositions = s.openPositions.delete order.instrumentCode ∧
      q' = 0 ∨ ∃ p : Position, s'.openPositions = s.openPositions.set order.instrumentCode p ∧
        signedPosition (some p) = q' ∧ p.averageEntryPrice = a') →
      q' * a' = signedPosition (s.openPositions.get? order.instrumentCode) *
          (s.openPositions.get? order.instrumentCode).elim price Position.averageEntryPrice +
        fillSigned order.side size * price + realizedFromClose .unrounded
          (signedPosition (s.openPositions.get? order.instrumentCode))
          (fillSigned order.side size)
          ((s.openPositions.get? order.instrumentCode).elim price Position.averageEntryPrice)
          price → s'.invested = s.invested := by
    intro q' a' hupdate hvalue
    unfold EngineState.invested
    rw [costBasis_update hupdate, hcash, hpnl, hvalue, hold]
    ring
  refine ⟨?_, hequity⟩
  rcases bookFill_positions price (step.report.fees.getD 0)
      (s.accounting .unrounded step).observedAt step.markPrice rfl rfl hresidual with
    ⟨hzero, hdelete⟩ | ⟨hnonzero, p, hset, hcode, hquantity, hsigned, haverage⟩
  · rw [← hpositions] at hdelete
    have hnone : s'.openPositions.get? order.instrumentCode = none := by
      rw [hdelete, Rows.get?_delete, if_pos rfl]
    constructor
    · rw [hnone, hzero]
      rfl
    · simp only [hnone, hzero]
    · intro code hne
      rw [hdelete, Rows.get?_delete, if_neg hne]
    · intro p hp
      exact absurd (hnone.symm.trans hp) (by simp)
    · refine hinvested _ _ (Or.inl ⟨hdelete, hzero⟩) hcost
  · rw [← hpositions] at hset
    have hsome : s'.openPositions.get? order.instrumentCode = some p := by
      rw [hset, Rows.get?_set_self]
    constructor
    · rw [hsome, hsigned]
    · simp only [hsome, hnonzero, reduceCtorEq]
    · intro code hne
      rw [hset, Rows.get?_set, if_neg hne]
    · intro p' hp'
      obtain rfl := Option.some.inj (hsome.symm.trans hp')
      exact ⟨hcode, hquantity⟩
    · exact hinvested _ _ (Or.inr ⟨p, hset, hsigned, haverage⟩) hcost

/-! ## Runs -/

/-- The states reached by accounting for allowed reports, with the fills booked on the way. -/
inductive ExecutionRun (Allowed : EngineState → ExecutionStep → Prop) (initial : EngineState) :
    List Fill → EngineState → Prop
  | start : ExecutionRun Allowed initial [] initial
  | report {fills : List Fill} {s : EngineState} (step : ExecutionStep) :
      ExecutionRun Allowed initial fills s → Allowed s step →
      ExecutionRun Allowed initial (fills ++ (s.bookedFill ar step).toList) (s.execute ar step)

/-- The signed size booked for an instrument. -/
def bookedSize (fills : List Fill) (code : String) : ℚ :=
  ((fills.filter fun fill => fill.instrumentCode = code).map Fill.signed).sum

/-- Reports at positive prices that leave no position within the closing tolerance. -/
structure OrderlyReport (s : EngineState) (step : ExecutionStep) : Prop where
  priced : s.PositivelyPriced .unrounded step
  noDust : s.LeavesNoDust .unrounded step

/-- The positions are the booked fills, and the invested value is the initial one. -/
structure PortfolioInvariant (initial : EngineState) (fills : List Fill) (s : EngineState) :
    Prop where
  signed : ∀ code, signedPosition (s.openPositions.get? code) = bookedSize fills code
  absent : ∀ code, s.openPositions.get? code = none ↔ bookedSize fills code = 0
  wellFormed : ∀ code p, s.openPositions.get? code = some p →
    p.instrumentCode = code ∧ 0 < p.quantity
  invested : s.invested = initial.invested

private theorem bookedSize_append (fills : List Fill) (fill : Fill) (code : String) :
    bookedSize (fills ++ [fill]) code =
      bookedSize fills code + if fill.instrumentCode = code then fill.signed else 0 := by
  unfold bookedSize
  rw [List.filter_append, List.map_append, List.sum_append]
  split_ifs with h
  · simp [h]
  · simp [h]

private theorem portfolioInvariant_initial {initial : EngineState}
    (hflat : initial.openPositions = .empty) : PortfolioInvariant initial [] initial where
  signed code := by simp [hflat, signedPosition, bookedSize]
  absent code := by simp [hflat, bookedSize]
  wellFormed code p h := by simp [hflat] at h
  invested := rfl

/-- A booked fill keeps the positions in step with the fills. -/
theorem PortfolioInvariant.books {initial s s' : EngineState} {fills : List Fill} {fill : Fill}
    (hinv : PortfolioInvariant initial fills s) (hbooks : Books s s' fill) :
    PortfolioInvariant initial (fills ++ [fill]) s' := by
  constructor
  · intro code
    rw [bookedSize_append, ← hinv.signed]
    by_cases hcode : fill.instrumentCode = code
    · subst hcode
      rw [if_pos rfl, hbooks.signed]
    · rw [if_neg hcode, hbooks.others code (Ne.symm hcode), add_zero]
  · intro code
    rw [bookedSize_append]
    by_cases hcode : fill.instrumentCode = code
    · subst hcode
      rw [if_pos rfl, hbooks.absent, hinv.signed]
    · rw [if_neg hcode, hbooks.others code (Ne.symm hcode), add_zero]
      exact hinv.absent code
  · intro code p hp
    by_cases hcode : fill.instrumentCode = code
    · subst hcode
      exact hbooks.wellFormed p hp
    · rw [hbooks.others code (Ne.symm hcode)] at hp
      exact hinv.wellFormed code p hp
  · exact hbooks.invested.trans hinv.invested

/-- A report that books nothing keeps positions, cash and profit. -/
theorem invested_of_bookedFill_eq_none {s : EngineState} {step : ExecutionStep}
    (h : s.bookedFill .unrounded step = none) :
    (s.execute .unrounded step).invested = s.invested := by
  obtain ⟨hpositions, hbankroll⟩ := s.execute_of_bookedFill_eq_none .unrounded h
  unfold EngineState.invested
  rw [hpositions]
  rcases hbankroll with ⟨hbankroll, -⟩ | hbankroll
  · rw [hbankroll]
  · rw [hbankroll, markBankrollToMarket_unrounded]

private theorem PortfolioInvariant.execute {initial s : EngineState} {fills : List Fill}
    {step : ExecutionStep} (hinv : PortfolioInvariant initial fills s)
    (hdust : s.LeavesNoDust .unrounded step) :
    PortfolioInvariant initial (fills ++ (s.bookedFill .unrounded step).toList)
      (s.execute .unrounded step) := by
  cases h : s.bookedFill .unrounded step with
  | none =>
    obtain ⟨hpositions, -⟩ := s.execute_of_bookedFill_eq_none .unrounded h
    rw [Option.toList_none, List.append_nil]
    constructor
    · rw [hpositions]
      exact hinv.signed
    · rw [hpositions]
      exact hinv.absent
    · rw [hpositions]
      exact hinv.wellFormed
    · exact (invested_of_bookedFill_eq_none h).trans hinv.invested
  | some fill => exact hinv.books (EngineState.books h hdust).1

/-- After every orderly report equity is cash plus the marked positions. -/
theorem equity_of_orderly {s : EngineState} {step : ExecutionStep} (h : OrderlyReport s step) :
    (s.execute .unrounded step).bankroll.equity = (s.execute .unrounded step).bankroll.cash +
      marketValue step.markPrice (s.execute .unrounded step).openPositions := by
  cases hfill : s.bookedFill .unrounded step with
  | none =>
    obtain ⟨hpositions, hbankroll⟩ := s.execute_of_bookedFill_eq_none .unrounded hfill
    rcases hbankroll with ⟨-, hunpriced⟩ | hbankroll
    · exact absurd h.priced hunpriced
    · rw [hpositions, hbankroll, markBankrollToMarket_unrounded]
  | some fill => exact (EngineState.books hfill h.noDust).2

/-- From a flat portfolio, in every reachable state each position is the sum of the fills
booked for its instrument, cash and cost basis less realised profit keep their initial value,
and the next orderly report leaves equity equal to cash plus the marked positions. -/
theorem reachable_portfolio_conserves {initial s : EngineState} {fills : List Fill}
    (hflat : initial.openPositions = .empty)
    (hrun : ExecutionRun .unrounded OrderlyReport initial fills s) :
    (∀ code, signedPosition (s.openPositions.get? code) = bookedSize fills code ∧
      (s.openPositions.get? code = none ↔ bookedSize fills code = 0)) ∧
    s.bankroll.cash + costBasis s.openPositions - s.bankroll.realizedPnl =
      initial.bankroll.cash + costBasis initial.openPositions - initial.bankroll.realizedPnl ∧
    (∀ code p, s.openPositions.get? code = some p → p.instrumentCode = code ∧ 0 < p.quantity) ∧
    ∀ step, OrderlyReport s step →
      let s' := s.execute .unrounded step
      s'.bankroll.equity = s'.bankroll.cash + marketValue step.markPrice s'.openPositions := by
  have hinv : PortfolioInvariant initial fills s := by
    induction hrun with
    | start => exact portfolioInvariant_initial hflat
    | report step _ hallowed ih => exact ih.execute hallowed.noDust
  refine ⟨fun code => ⟨hinv.signed code, hinv.absent code⟩, hinv.invested, hinv.wellFormed, ?_⟩
  intro step hstep
  exact equity_of_orderly hstep

private def flatState : EngineState where
  bankroll := ⟨"USD", 1000, 1000, 0, "t0"⟩
  openPositions := .empty
  orderMap := .empty
  lastTradeIntent := none
  inventory := ⟨0⟩
  current_inventory_delta := 0
  updatedAt := "t0"
  heartbeatAt := "t0"

private def fillReport (clientId : String) (side : TradeSide) (size price : ℚ) : ExecutionStep where
  report :=
    { clientId
      exchangeOrderId := none
      instrumentCode := some "btc-usd"
      side := some side
      orderSize := some (.finite size)
      status := .filled
      filledSize := some (.finite size)
      fillIncrementSize := none
      achievedPrice := some (.finite price)
      expectedPrice := none
      fees := some 1
      observedAt := "t1" }
  observedAt := none
  markPrice := fun _ fallback => fallback
  inventory := ⟨0⟩

private def bought : EngineState := flatState.execute .unrounded (fillReport "a" .buy 2 100)

private def flipped : EngineState := bought.execute .unrounded (fillReport "b" .sell 3 110)

private theorem run_flipped :
    ExecutionRun .unrounded OrderlyReport flatState
      ([] ++ (flatState.bookedFill .unrounded (fillReport "a" .buy 2 100)).toList ++
        (bought.bookedFill .unrounded (fillReport "b" .sell 3 110)).toList) flipped := by
  refine .report _ (.report _ .start ?_) ?_
  · exact ⟨fun _ => ⟨100, by decide +kernel, by norm_num⟩, by decide +kernel⟩
  · exact ⟨fun _ => ⟨110, by decide +kernel, by norm_num⟩, by decide +kernel⟩

/-- Buying two and selling three leaves one sold at the new price. -/
theorem reachable_portfolio_conserves_flip :
    signedPosition (flipped.openPositions.get? "btc-usd") = -1 ∧
    flipped.bankroll.cash + costBasis flipped.openPositions - flipped.bankroll.realizedPnl =
      1000 := by
  obtain ⟨hsigned, hinvested, -, -⟩ := reachable_portfolio_conserves rfl run_flipped
  constructor
  · rw [(hsigned "btc-usd").1]
    decide +kernel
  · rw [hinvested]
    decide +kernel

end Yevow.Engine
