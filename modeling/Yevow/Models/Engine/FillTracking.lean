import Yevow.Models.Engine.Portfolio

/-!
# Fills derived from cumulative sizes

A report without an increment books the difference between its cumulative size and the one
stored with the order, and then overwrites the stored size, whatever its status and however
old it is. The sizes booked follow the exchange exactly as long as no report goes back and
none announces new size without being booked.
-/

namespace Yevow.Engine

open JavaScript (Record)

variable (ar : EngineArithmetic) (clientId : String)

/-- The order map is keyed by client id. -/
def WellKeyed (orderMap : Record ManagedOrder) : Prop :=
  ∀ key order, orderMap.get? key = some order → order.clientId = key

/-- The report belongs to the order with this client id. -/
def ExecutionReport.Concerns (report : ExecutionReport) (orderMap : Record ManagedOrder) : Prop :=
  (existingOrder orderMap report).elim report.clientId ManagedOrder.clientId = clientId

instance (report : ExecutionReport) (orderMap : Record ManagedOrder) :
    Decidable (report.Concerns clientId orderMap) := inferInstanceAs (Decidable (_ = _))

/-- The report carries the exchange's cumulative filled size and no increment. -/
def ExecutionReport.CumulativeOnly (report : ExecutionReport) : Prop :=
  report.fillIncrementSize = none ∧ ∃ size, report.filledSize = some (.finite size)

/-- The size a report says was filled. -/
def ExecutionReport.reportedSize (report : ExecutionReport) : ℚ :=
  match report.filledSize with
  | some (.finite size) => size
  | _ => 0

/-- The filled size stored with the order, zero while there is none. -/
def EngineState.storedSize (state : EngineState) : ℚ :=
  (state.orderMap.get? clientId).elim 0 ManagedOrder.filledSize

/-- Reports of one order, each carrying only a cumulative size. -/
def EngineState.OwnReports : EngineState → List ExecutionStep → Prop
  | _, [] => True
  | state, step :: steps =>
    step.report.Concerns clientId state.orderMap ∧ step.report.CumulativeOnly ∧
      EngineState.OwnReports (state.execute ar step) steps

/-- The state after a sequence of reports. -/
def EngineState.executeAll (state : EngineState) (steps : List ExecutionStep) : EngineState :=
  steps.foldl (EngineState.execute ar) state

/-- The total size a sequence of reports books into the portfolio. -/
def EngineState.totalBooked : EngineState → List ExecutionStep → ℚ
  | _, [] => 0
  | state, step :: steps =>
    (state.bookedFill ar step).elim 0 (fun fill => |fill.signed|) +
      EngineState.totalBooked (state.execute ar step) steps

/-- The largest cumulative size a sequence of reports delivers. -/
def largestReported : List ExecutionStep → ℚ
  | [] => 0
  | step :: steps => max step.report.reportedSize (largestReported steps)

/-- The report has the status of a fill and a usable price. -/
def EngineState.Bookable (state : EngineState) (step : ExecutionStep) : Prop :=
  isPortfolioFillStatus step.report.status = true ∧
    ∃ price, state.fillPrice ar step = .finite price ∧ 0 < price

/-- The report repeats the stored size, or books all that it reports above it. -/
def EngineState.Advances (state : EngineState) (step : ExecutionStep) : Prop :=
  let stored := state.storedSize clientId
  let reported := max 0 step.report.reportedSize
  reported = stored ∨
    stored < reported ∧ state.Bookable ar step ∧ ar.sub reported stored = reported - stored

/-- Every report of a run advances its order. -/
def EngineState.Advancing : EngineState → List ExecutionStep → Prop
  | _, [] => True
  | state, step :: steps =>
    state.Advances ar clientId step ∧ EngineState.Advancing (state.execute ar step) steps

/-- The size booked is the largest size delivered, and the size stored with the order. -/
def EngineState.FillsTracked (state : EngineState) (delivered : List ExecutionStep) : Prop :=
  state.totalBooked ar delivered = largestReported delivered ∧
    (state.executeAll ar delivered).storedSize clientId = state.totalBooked ar delivered

variable {ar} {clientId}

/-! ## One report -/

private theorem existingOrder_mem {orderMap : Record ManagedOrder} {report : ExecutionReport}
    {order : ManagedOrder} (h : existingOrder orderMap report = some order) :
    ∃ key, orderMap.get? key = some order := by
  unfold existingOrder at h
  cases hkey : orderMap.get? report.clientId with
  | some found =>
    rw [hkey] at h
    obtain rfl := Option.some.inj h
    exact ⟨_, hkey⟩
  | none =>
    rw [hkey] at h
    exact Record.mem_values_iff.mp (List.mem_of_find?_eq_some h)

private theorem previousFilledSize_eq_storedSize {state : EngineState} {report : ExecutionReport}
    (hkeyed : WellKeyed state.orderMap) (h : report.Concerns clientId state.orderMap) :
    previousFilledSize (existingOrder state.orderMap report) = state.storedSize clientId := by
  unfold ExecutionReport.Concerns at h
  unfold EngineState.storedSize previousFilledSize
  cases hexisting : existingOrder state.orderMap report with
  | none =>
    rw [hexisting, Option.elim_none] at h
    subst h
    have hnone : state.orderMap.get? report.clientId = none := by
      unfold existingOrder at hexisting
      cases hkey : state.orderMap.get? report.clientId with
      | none => rfl
      | some order => simp [hkey] at hexisting
    rw [hnone]
  | some order =>
    rw [hexisting, Option.elim_some] at h
    obtain ⟨key, hkey⟩ := existingOrder_mem hexisting
    rw [← h, hkeyed key order hkey, hkey]

/-- The order a report updates is the one it concerns. -/
theorem order_clientId {state : EngineState} {step : ExecutionStep}
    (h : step.report.Concerns clientId state.orderMap) :
    (state.accounting ar step).order.clientId = clientId := by
  unfold ExecutionReport.Concerns at h
  show ((existingOrder state.orderMap step.report).getD
    (reportedOrder state step.report _)).clientId = clientId
  rw [← h]
  cases existingOrder state.orderMap step.report with
  | none => rfl
  | some order => rfl

/-- A report keeps the orders under their ids. -/
theorem wellKeyed_execute {state : EngineState} (step : ExecutionStep)
    (h : WellKeyed state.orderMap) : WellKeyed (state.execute ar step).orderMap := by
  intro key order horder
  rw [show (state.execute ar step).orderMap = (state.orderMap.delete _).set
    (state.accounting ar step).order.clientId (state.accounting ar step).order from rfl,
    Rows.get?_set, Rows.get?_delete] at horder
  split_ifs at horder with hkey hdeleted
  · obtain rfl := Option.some.inj horder
    exact hkey.symm
  · exact h key order horder

/-- A report overwrites the stored size with its own. -/
theorem storedSize_execute {state : EngineState} {step : ExecutionStep}
    (hconcerns : step.report.Concerns clientId state.orderMap)
    (hcumulative : step.report.CumulativeOnly) :
    (state.execute ar step).storedSize clientId = max 0 step.report.reportedSize := by
  obtain ⟨size, hsize⟩ := hcumulative.2
  unfold EngineState.storedSize
  rw [show (state.execute ar step).orderMap = (state.orderMap.delete _).set
    (state.accounting ar step).order.clientId (state.accounting ar step).order from rfl,
    order_clientId hconcerns, Rows.get?_set_self, Option.elim_some]
  show cumulativeFilledSize _ step.report = _
  simp only [cumulativeFilledSize, ExecutionReport.reportedSize, hsize]

theorem fillIncrementSize_accounting {state : EngineState} {step : ExecutionStep}
    (hkeyed : WellKeyed state.orderMap) (hconcerns : step.report.Concerns clientId state.orderMap)
    (hcumulative : step.report.CumulativeOnly) :
    (state.accounting ar step).fillIncrementSize =
      max 0 (ar.sub (max 0 step.report.reportedSize) (state.storedSize clientId)) := by
  obtain ⟨hnone, size, hsize⟩ := hcumulative
  show fillIncrementSize ar (existingOrder state.orderMap step.report) step.report = _
  simp only [fillIncrementSize, hnone, cumulativeFilledSize, hsize,
    previousFilledSize_eq_storedSize hkeyed hconcerns, ExecutionReport.reportedSize]

private theorem abs_fillSigned (side : TradeSide) {size : ℚ} (h : 0 ≤ size) :
    |fillSigned side size| = size := by
  cases side with
  | buy => exact abs_of_nonneg h
  | sell => rw [fillSigned, abs_neg, abs_of_nonneg h]

/-- The size a bookable report books is its increment. -/
theorem booked_of_bookable {state : EngineState} {step : ExecutionStep}
    (h : state.Bookable ar step) :
    (state.bookedFill ar step).elim 0 (fun fill => |fill.signed|) =
      max 0 (state.accounting ar step).fillIncrementSize := by
  obtain ⟨hstatus, price, hprice, hpositive⟩ := h
  unfold EngineState.bookedFill
  by_cases hsize : 0 < (state.accounting ar step).fillIncrementSize
  · have hfills : state.Fills ar step := ⟨hstatus, hsize⟩
    rw [if_pos hfills, max_eq_right hsize.le]
    simp only [hprice, if_neg (not_le.mpr hpositive), Option.elim_some]
    exact abs_fillSigned _ hsize.le
  · have hfills : ¬state.Fills ar step := fun h => hsize h.2
    rw [if_neg hfills, max_eq_left (not_lt.mp hsize)]
    rfl

theorem booked_of_not_bookable {state : EngineState} {step : ExecutionStep}
    (h : ¬state.Bookable ar step) :
    (state.bookedFill ar step).elim 0 (fun fill => |fill.signed|) = 0 := by
  cases hfill : state.bookedFill ar step with
  | none => rfl
  | some fill =>
    refine absurd ?_ h
    unfold EngineState.bookedFill at hfill
    split_ifs at hfill with hfills
    cases hprice : state.fillPrice ar step with
    | finite price =>
      simp only [hprice] at hfill
      split_ifs at hfill with hle
      exact ⟨hfills.1, price, hprice, not_le.mp hle⟩
    | infinite negative => simp [hprice] at hfill
    | nan => simp [hprice] at hfill

/-- While the stored size is what was booked and delivered, one more report keeps it so
exactly when it advances. -/
theorem advances_iff {state : EngineState} {step : ExecutionStep}
    (hkeyed : WellKeyed state.orderMap) (hconcerns : step.report.Concerns clientId state.orderMap)
    (hcumulative : step.report.CumulativeOnly) (hstored : 0 ≤ state.storedSize clientId) :
    state.Advances ar clientId step ↔
      state.storedSize clientId + (state.bookedFill ar step).elim 0 (fun fill => |fill.signed|) =
        max (state.storedSize clientId) (max 0 step.report.reportedSize) ∧
      max 0 step.report.reportedSize = state.storedSize clientId +
        (state.bookedFill ar step).elim 0 (fun fill => |fill.signed|) := by
  have hincrement : (state.accounting ar step).fillIncrementSize = _ :=
    fillIncrementSize_accounting hkeyed hconcerns hcumulative
  unfold EngineState.Advances
  generalize state.storedSize clientId = stored at *
  generalize max 0 step.report.reportedSize = reported at *
  rcases lt_trichotomy reported stored with hlt | rfl | hgt
  · constructor
    · rintro (heq | hgt)
      · exact absurd heq hlt.ne
      · exact absurd hgt.1 hlt.not_gt
    · rintro ⟨hlargest, hbooked⟩
      rw [max_eq_left hlt.le, ← hbooked] at hlargest
      exact absurd hlargest hlt.ne
  · have hzero : (state.accounting ar step).fillIncrementSize = 0 := by
      rw [hincrement, EngineArithmetic.sub, sub_self, ar.number_zero, max_self]
    have hbooked : (state.bookedFill ar step).elim 0 (fun fill => |fill.signed|) = 0 := by
      by_cases hbookable : state.Bookable ar step
      · rw [booked_of_bookable hbookable, hzero, max_self]
      · exact booked_of_not_bookable hbookable
    rw [hbooked]
    simp
  · rw [max_eq_right hgt.le]
    by_cases hbookable : state.Bookable ar step
    · rw [booked_of_bookable hbookable, hincrement]
      constructor
      · rintro (heq | ⟨-, -, hexact⟩)
        · exact absurd heq hgt.ne'
        · rw [hexact, max_eq_right (sub_nonneg.mpr hgt.le), max_eq_right (sub_nonneg.mpr hgt.le)]
          constructor <;> ring
      · rintro ⟨-, hbooked⟩
        refine Or.inr ⟨hgt, hbookable, ?_⟩
        have hpositive : 0 < max 0 (max 0 (ar.sub reported stored)) := by linarith
        have hsub : max 0 (max 0 (ar.sub reported stored)) = ar.sub reported stored := by
          rcases lt_max_iff.mp hpositive with h | h
          · exact absurd h (lt_irrefl 0)
          · rcases lt_max_iff.mp h with h | h
            · exact absurd h (lt_irrefl 0)
            · rw [max_eq_right h.le, max_eq_right h.le]
        linarith
    · rw [booked_of_not_bookable hbookable, add_zero]
      constructor
      · rintro (heq | ⟨-, h, -⟩)
        · exact absurd heq hgt.ne'
        · exact absurd h hbookable
      · rintro ⟨-, heq⟩
        exact absurd heq hgt.ne'

/-! ## Sequences of reports -/

private theorem largestReported_nonneg (steps : List ExecutionStep) :
    0 ≤ largestReported steps := by
  induction steps with
  | nil => exact le_rfl
  | cons step steps ih => exact le_max_of_le_right ih

/-- The first report of a sequence may be clamped before the largest is taken. -/
private theorem max_largestReported (stored reported : ℚ) (steps : List ExecutionStep) :
    max stored (max reported (largestReported steps)) =
      max (max stored (max 0 reported)) (largestReported steps) := by
  rw [max_comm 0, max_assoc, max_assoc, max_eq_right (largestReported_nonneg steps)]

/-- From a state whose stored size is what has been booked and delivered before. -/
private theorem tracked_from {state : EngineState} {steps : List ExecutionStep}
    (hkeyed : WellKeyed state.orderMap) (hown : state.OwnReports ar clientId steps)
    (hstored : 0 ≤ state.storedSize clientId) :
    (∀ delivered, delivered <+: steps →
      state.storedSize clientId + state.totalBooked ar delivered =
        max (state.storedSize clientId) (largestReported delivered) ∧
      (state.executeAll ar delivered).storedSize clientId =
        state.storedSize clientId + state.totalBooked ar delivered) ↔
      state.Advancing ar clientId steps := by
  induction steps generalizing state with
  | nil =>
    refine iff_of_true ?_ trivial
    intro delivered hprefix
    obtain rfl := List.prefix_nil.mp hprefix
    simp [EngineState.totalBooked, largestReported, EngineState.executeAll, hstored]
  | cons step steps ih =>
    obtain ⟨hconcerns, hcumulative, hrest⟩ := hown
    have hstored' : (state.execute ar step).storedSize clientId =
        max 0 step.report.reportedSize := storedSize_execute hconcerns hcumulative
    have hnext : 0 ≤ (state.execute ar step).storedSize clientId := by
      rw [hstored']
      exact le_max_left _ _
    have hih := ih (wellKeyed_execute step hkeyed) hrest hnext
    have hadvances : state.Advances ar clientId step ↔ _ :=
      advances_iff hkeyed hconcerns hcumulative hstored
    constructor
    · intro htracked
      have hone := htracked [step] (List.prefix_cons_inj step |>.mpr List.nil_prefix)
      simp only [EngineState.totalBooked, largestReported, EngineState.executeAll,
        List.foldl_cons, List.foldl_nil, add_zero, hstored'] at hone
      rw [max_comm step.report.reportedSize 0] at hone
      refine ⟨hadvances.mpr hone, hih.mp ?_⟩
      intro delivered hprefix
      have htail := htracked (step :: delivered) ((List.prefix_cons_inj step).mpr hprefix)
      simp only [EngineState.totalBooked, largestReported, EngineState.executeAll,
        List.foldl_cons] at htail
      rw [← add_assoc, ← hone.2, ← hstored'] at htail
      refine ⟨?_, htail.2⟩
      rw [htail.1, max_largestReported, ← hone.1, ← hone.2, hstored']
    · rintro ⟨hadvance, hadvancing⟩ delivered hprefix
      obtain ⟨hlargest, hbooked⟩ := hadvances.mp hadvance
      cases delivered with
      | nil => simp [EngineState.totalBooked, largestReported, EngineState.executeAll, hstored]
      | cons step' delivered =>
        obtain ⟨rfl, htail⟩ := List.cons_prefix_cons.mp hprefix
        obtain ⟨htotal, hfinal⟩ := hih.mpr hadvancing delivered htail
        simp only [EngineState.totalBooked, largestReported, EngineState.executeAll,
          List.foldl_cons]
        rw [← add_assoc, ← hbooked, ← hstored']
        refine ⟨?_, hfinal⟩
        rw [htotal, max_largestReported, ← hlargest, ← hbooked, hstored']

/-- For an order not filled yet, every prefix of its reports has booked the largest size
delivered and stored it with the order exactly when every report advances. -/
theorem fills_tracked_iff {state : EngineState} {steps : List ExecutionStep}
    (hkeyed : WellKeyed state.orderMap) (hunfilled : state.storedSize clientId = 0)
    (hown : state.OwnReports ar clientId steps) :
    (∀ delivered, delivered <+: steps → state.FillsTracked ar clientId delivered) ↔
      state.Advancing ar clientId steps := by
  rw [← tracked_from hkeyed hown hunfilled.ge]
  unfold EngineState.FillsTracked
  simp only [hunfilled, zero_add, max_eq_right (largestReported_nonneg _)]

private def acceptedOrder : ManagedOrder where
  clientId := "order-a"
  exchangeOrderId := some "exchange-a"
  intentId := none
  instrumentCode := "btc-usd"
  side := .buy
  price := .finite 100
  size := .finite 10
  filledSize := 0
  status := .open
  createdAt := "t0"
  updatedAt := "t0"
  ackDeadlineAt := "t0"

private def acceptedState : EngineState where
  bankroll := ⟨"USD", 5000, 5000, 0, "t0"⟩
  openPositions := .empty
  orderMap := Rows.empty.set "order-a" acceptedOrder
  lastTradeIntent := none
  inventory := ⟨0⟩
  current_inventory_delta := 0
  updatedAt := "t0"
  heartbeatAt := "t0"

private def cumulativeReport (status : ManagedOrderStatus) (size : ℚ) : ExecutionStep where
  report :=
    { clientId := "order-a"
      exchangeOrderId := none
      instrumentCode := some "btc-usd"
      side := some .buy
      orderSize := none
      status
      filledSize := some (.finite size)
      fillIncrementSize := none
      achievedPrice := some (.finite 100)
      expectedPrice := none
      fees := none
      observedAt := "t1" }
  observedAt := none
  markPrice := fun _ fallback => fallback
  inventory := ⟨0⟩

private theorem wellKeyed_acceptedState : WellKeyed acceptedState.orderMap := by
  intro key order h
  rw [acceptedState, Rows.get?_set, Rows.get?_empty] at h
  split_ifs at h with hkey
  obtain rfl := Option.some.inj h
  exact hkey.symm

/-- A partial fill followed by the complete one is tracked. -/
theorem fills_tracked_iff_partial :
    acceptedState.FillsTracked .unrounded "order-a"
      [cumulativeReport .partialFill 4, cumulativeReport .filled 10] := by
  refine (fills_tracked_iff wellKeyed_acceptedState (by decide +kernel) ?_).mpr ?_ _
    List.prefix_rfl
  · exact ⟨by decide +kernel, ⟨rfl, 4, rfl⟩, by decide +kernel, ⟨rfl, 10, rfl⟩, trivial⟩
  · exact ⟨Or.inr ⟨by decide +kernel, ⟨rfl, 100, by decide +kernel, by norm_num⟩, rfl⟩,
      Or.inr ⟨by decide +kernel, ⟨rfl, 100, by decide +kernel, by norm_num⟩, rfl⟩, trivial⟩

/-- Ten are filled, a late report repeats the earlier four, and the fill of ten is delivered
again: sixteen are booked. Had a cancel announced the four, none would have been. -/
theorem stale_report_books_again :
    WellKeyed acceptedState.orderMap ∧ acceptedState.storedSize "order-a" = 0 ∧
    acceptedState.OwnReports .binary64 "order-a"
      [cumulativeReport .filled 10, cumulativeReport .partialFill 4,
        cumulativeReport .filled 10] ∧
    acceptedState.totalBooked .binary64
      [cumulativeReport .filled 10, cumulativeReport .partialFill 4,
        cumulativeReport .filled 10] = 16 ∧
    largestReported
      [cumulativeReport .filled 10, cumulativeReport .partialFill 4,
        cumulativeReport .filled 10] = 10 ∧
    acceptedState.totalBooked .binary64 [cumulativeReport .cancelled 4] = 0 ∧
    largestReported [cumulativeReport .cancelled 4] = 4 := by
  refine ⟨wellKeyed_acceptedState, by decide +kernel, ?_, by decide +kernel, by decide +kernel,
    by decide +kernel, by decide +kernel⟩
  exact ⟨by decide +kernel, ⟨rfl, 10, rfl⟩, by decide +kernel, ⟨rfl, 4, rfl⟩,
    by decide +kernel, ⟨rfl, 10, rfl⟩, trivial⟩

end Yevow.Engine
