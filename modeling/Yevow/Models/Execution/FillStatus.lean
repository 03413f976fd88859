import Mathlib.Tactic.Linarith
import Yevow.Core.JavaScript.Reference
import Yevow.Models.Execution.Reports

/-!
# The status of a filled order

What the answer of an exchange says was filled, beside the status that its report is given. Only a
report that is partially filled or filled is booked, and its status comes from words in a text.
-/

namespace Yevow.Execution

open Engine (ManagedOrderStatus isPortfolioFillStatus)
open JavaScript (Runtime Json)

variable (js : Runtime)

/-! ## Words -/

/-- What the text of a status is taken for. -/
inductive StatusWord
  | closed
  | partly
  | new
  | filled
  | other
  deriving DecidableEq

/-- The text, in small letters, contains a word. -/
def FieldText.Mentions (word : String) : FieldText → Prop
  | .text s => word.toList <:+: s.toLower.toList
  | .numeral _ => False

/-- The text, in small letters, is a word. -/
def FieldText.Is (word : String) : FieldText → Prop
  | .text s => s.toLower = word
  | .numeral _ => False

instance (word : String) : (text : FieldText) → Decidable (text.Mentions word)
  | .text s => inferInstanceAs (Decidable (word.toList <:+: s.toLower.toList))
  | .numeral _ => inferInstanceAs (Decidable False)

instance (word : String) : (text : FieldText) → Decidable (text.Is word)
  | .text s => inferInstanceAs (Decidable (s.toLower = word))
  | .numeral _ => inferInstanceAs (Decidable False)

/-- What a raw status says. -/
def statusWord : Option FieldText → StatusWord
  | none => .other
  | some text =>
    if text.Is "test_accepted" ∨ text.Mentions "reject" ∨ text.Mentions "expired" ∨
        text.Mentions "cancel" then .closed
    else if text.Mentions "partial" then .partly
    else if text.Is "new" then .new
    else if text.Mentions "fill" then .filled
    else .other

/-- The status text that a body reports. -/
def reportedStatus (body : Body) : Option FieldText :=
  ((extractHyperliquidExecution js body).toOption.bind (·.rawStatus)) <|>
    stringField body ["status", "state", "order_status"]

/-! ## What becomes of a fill -/

/-- A filled report is filled to its size, and a fill is booked. -/
structure FillIsKept (report : ExecutionReport) (f s : ℚ) : Prop where
  whole : report.status = .filled → f = s
  booked : 0 < f → (report.status = .partialFill ∨ report.status = .filled) ∧
    isPortfolioFillStatus report.status = true

/-- The filled size goes with the word: nothing for an order that is closed or new, the whole for
one that is filled, and one of the two where the word says neither. -/
def FillAgrees (f s : ℚ) : StatusWord → Prop
  | .closed => f = 0
  | .partly => True
  | .new => f = 0
  | .filled => f = s
  | .other => f = 0 ∨ f = s

private theorem le_finite (a b : ℚ) : (Number.finite a).le (.finite b) = decide (a ≤ b) := by
  show (decide (a < b) || (true && decide (Number.finite a = .finite b))) = _
  rw [Bool.true_and, Bool.eq_iff_iff]
  simp only [Bool.or_eq_true, decide_eq_true_eq, Number.finite.injEq]
  exact le_iff_lt_or_eq.symm

/-- The statuses a word leads to. -/
theorem normalizeOrderStatus_cases (rawStatus : Option FieldText) {f s : ℚ} (hs : 0 < s) :
    let status := normalizeOrderStatus rawStatus true (.finite f) (.finite s)
    match statusWord rawStatus with
    | .closed => status = .cancelled ∨ status = .rejected
    | .partly => status = .partialFill
    | .new => status = .open
    | .filled => status = .filled
    | .other => status = if s ≤ f then .filled else .open := by
  intro status
  have hcomplete : ((Number.finite 0).lt (.finite s) && (Number.finite s).le (.finite f)) =
      decide (s ≤ f) := by
    rw [le_finite]
    show (decide ((0 : ℚ) < s) && decide (s ≤ f)) = _
    rw [decide_eq_true hs, Bool.true_and]
  cases rawStatus with
  | none =>
    show status = if s ≤ f then .filled else .open
    have hstatus : status = if ((Number.finite 0).lt (.finite s) &&
        (Number.finite s).le (.finite f)) = true then .filled else .open := rfl
    rw [hstatus, hcomplete]
    simp only [decide_eq_true_eq]
  | some text =>
    have hstatus : status =
        if text.Is "test_accepted" then .cancelled
        else if text.Mentions "reject" then .rejected
        else if text.Mentions "expired" then .rejected
        else if text.Mentions "cancel" then .cancelled
        else if text.Mentions "partial" then .partialFill
        else if text.Is "new" ∨ text.Is "pending_cancel" then .open
        else if text.Mentions "fill" ∨ s ≤ f then .filled
        else .open := by
      cases text with
      | text t =>
        show (if (t.toLower == "test_accepted") = true then ManagedOrderStatus.cancelled
          else if decide ("reject".toList <:+: t.toLower.toList) = true then .rejected
          else if decide ("expired".toList <:+: t.toLower.toList) = true then .rejected
          else if decide ("cancel".toList <:+: t.toLower.toList) = true then .cancelled
          else if decide ("partial".toList <:+: t.toLower.toList) = true then .partialFill
          else if (t.toLower == "new" || t.toLower == "pending_cancel") = true then .open
          else if (decide ("fill".toList <:+: t.toLower.toList) ||
              ((Number.finite 0).lt (.finite s) && (Number.finite s).le (.finite f))) = true then
            .filled
          else .open) = _
        rw [hcomplete]
        simp only [beq_iff_eq, decide_eq_true_eq, Bool.or_eq_true]
        rfl
      | numeral n =>
        show (if ((Number.finite 0).lt (.finite s) && (Number.finite s).le (.finite f)) = true then
            ManagedOrderStatus.filled
          else .open) = _
        rw [hcomplete]
        simp only [FieldText.Is, FieldText.Mentions, if_false, or_self, false_or, decide_eq_true_eq]
    rw [hstatus]
    unfold statusWord
    simp only
    by_cases haccepted : text.Is "test_accepted"
    · simp [haccepted]
    by_cases hreject : text.Mentions "reject"
    · simp [haccepted, hreject]
    by_cases hexpired : text.Mentions "expired"
    · simp [haccepted, hreject, hexpired]
    by_cases hcancel : text.Mentions "cancel"
    · simp [haccepted, hreject, hexpired, hcancel]
    have hpending : ¬text.Is "pending_cancel" := by
      cases text with
      | text t =>
        intro hpending
        apply hcancel
        show "cancel".toList <:+: t.toLower.toList
        rw [show t.toLower = "pending_cancel" from hpending]
        decide
      | numeral n => exact id
    by_cases hPart : text.Mentions "partial"
    · simp [haccepted, hreject, hexpired, hcancel, hPart]
    by_cases hnew : text.Is "new"
    · simp [haccepted, hreject, hexpired, hcancel, hPart, hnew]
    by_cases hfill : text.Mentions "fill"
    · simp [haccepted, hreject, hexpired, hcancel, hPart, hnew, hpending, hfill]
    · simp [haccepted, hreject, hexpired, hcancel, hPart, hnew, hpending, hfill]

/-- A report has the status of what its answer reports. -/
theorem status_toExecutionReport {intent : TradeIntent} {response : ResponseHead} {body : Body}
    {report : ExecutionReport} {filled : Number}
    (hreport : toExecutionReport js intent response body = .ok report)
    (hfilled : filledSize js body = .ok filled) :
    report.status =
      normalizeOrderStatus (reportedStatus js body) response.ok filled intent.size := by
  obtain ⟨answer, hanswer, hmade⟩ := Except.bind_eq_ok.mp hreport
  unfold readAnswer at hanswer
  simp only [Except.bind_eq_ok, hfilled, Except.ok.injEq, exists_eq_left', Except.pure_eq_ok]
    at hanswer
  obtain ⟨hyperliquid, hread, price, -, fees, -, reason, -, rfl⟩ := hanswer
  obtain rfl := Except.ok.inj hmade
  simp only [reportedStatus, hread]
  rfl

/-- A fill reported with success is kept exactly where the filled size goes with the word. -/
theorem fill_is_kept_iff {intent : TradeIntent} {response : ResponseHead} {body : Body}
    {report : ExecutionReport} {f s : ℚ}
    (hreport : toExecutionReport js intent response body = .ok report)
    (hsize : intent.size = .finite s) (hs : 0 < s) (hok : response.ok = true)
    (hfilled : filledSize js body = .ok (.finite f)) (hnonneg : 0 ≤ f) (hle : f ≤ s) :
    FillIsKept report f s ↔ FillAgrees f s (statusWord (reportedStatus js body)) := by
  have hstatus := status_toExecutionReport js hreport hfilled
  rw [hok, hsize] at hstatus
  have hcases := normalizeOrderStatus_cases (reportedStatus js body) (f := f) hs
  rw [← hstatus] at hcases
  have hempty : ¬0 < f → f = 0 := fun h => le_antisymm (not_lt.mp h) hnonneg
  cases hword : statusWord (reportedStatus js body) with
  | closed =>
    rw [hword] at hcases
    constructor
    · intro h
      apply hempty
      intro hpos
      obtain ⟨hbooked, -⟩ := h.booked hpos
      rcases hcases with hcancelled | hrejected
      · rw [hcancelled] at hbooked
        simp at hbooked
      · rw [hrejected] at hbooked
        simp at hbooked
    · intro h
      refine ⟨fun hfilled => ?_, fun hpos => absurd h hpos.ne'⟩
      rcases hcases with hcancelled | hrejected
      · rw [hcancelled] at hfilled
        cases hfilled
      · rw [hrejected] at hfilled
        cases hfilled
  | partly =>
    rw [hword] at hcases
    have hPart : report.status = .partialFill := hcases
    refine ⟨fun _ => trivial, fun _ => ⟨fun hfilled => ?_, fun _ => ?_⟩⟩
    · rw [hPart] at hfilled
      cases hfilled
    · rw [hPart]
      exact ⟨Or.inl rfl, rfl⟩
  | new =>
    rw [hword] at hcases
    have hopen : report.status = .open := hcases
    constructor
    · intro h
      apply hempty
      intro hpos
      obtain ⟨hbooked, -⟩ := h.booked hpos
      rw [hopen] at hbooked
      simp at hbooked
    · intro h
      refine ⟨fun hfilled => ?_, fun hpos => absurd h hpos.ne'⟩
      rw [hopen] at hfilled
      cases hfilled
  | filled =>
    rw [hword] at hcases
    have hwhole : report.status = .filled := hcases
    refine ⟨fun h => h.whole hwhole, fun h => ⟨fun _ => h, fun _ => ?_⟩⟩
    rw [hwhole]
    exact ⟨Or.inr rfl, rfl⟩
  | other =>
    rw [hword] at hcases
    have hother : report.status = if s ≤ f then .filled else .open := hcases
    by_cases hwhole : s ≤ f
    · rw [if_pos hwhole] at hother
      refine ⟨fun h => Or.inr (h.whole hother), fun _ =>
        ⟨fun _ => le_antisymm hle hwhole, fun _ => ?_⟩⟩
      rw [hother]
      exact ⟨Or.inr rfl, rfl⟩
    · rw [if_neg hwhole] at hother
      constructor
      · intro h
        refine Or.inl (hempty fun hpos => ?_)
        obtain ⟨hbooked, -⟩ := h.booked hpos
        rw [hother] at hbooked
        simp at hbooked
      · rintro (rfl | rfl)
        · refine ⟨fun hfilled => ?_, fun hpos => absurd hpos (lt_irrefl 0)⟩
          rw [hother] at hfilled
          cases hfilled
        · exact absurd le_rfl hwhole

/-! ## Answers of an exchange -/

private def anOrder (size : ℚ) : TradeIntent where
  schemaVersion := "trade-intent.v1"
  intentId := "order"
  traceId := ""
  instrumentCode := "BTC"
  sourceExchange := none
  executionStyle := some .takerIoc
  action := .buy
  orderType := .ioc
  postOnly := false
  timeInForce := .ioc
  expectedPrice := .finite 100
  requestedSize := .finite size
  approvedSize := none
  maxSlippageBps := .finite 10
  rationale := ""
  targetSubaccount := none

private def flatBody (status executedQty : String) : Body :=
  some [("status", .string status), ("executedQty", .string executedQty)]

private def hyperliquidBody (totalSz : String) : Body :=
  some [("response", .object [("data", .object [("statuses", .array
    [.object [("filled", .object [("totalSz", .string totalSz)])]])])])]

/-- Half of an order is filled and then expires, is cancelled, or is all that was filled: the report
is rejected, cancelled or filled. -/
theorem half_fills_not_kept :
    let js := JavaScript.reference .exact
    let answered := fun body => ((filledSize js body).toOption,
      (toExecutionReport js (anOrder 2) ⟨200⟩ body).toOption.map (·.status))
    answered (flatBody "EXPIRED" "1") = (some (.finite 1), some .rejected) ∧
      answered (flatBody "canceled" "1") = (some (.finite 1), some .cancelled) ∧
      answered (flatBody "new" "1") = (some (.finite 1), some .open) ∧
      answered (hyperliquidBody "1") = (some (.finite 1), some .filled) := by
  refine ⟨?_, ?_, ?_, ?_⟩
  · decide +kernel
  · decide +kernel
  · decide +kernel
  · decide +kernel

/-- The report of a partial fill is booked. -/
theorem partial_fill_is_kept :
    ∃ report, toExecutionReport (JavaScript.reference .exact) (anOrder 2) ⟨200⟩
        (flatBody "PARTIALLY_FILLED" "1") = .ok report ∧ FillIsKept report 1 2 := by
  have hfilled : filledSize (JavaScript.reference .exact) (flatBody "PARTIALLY_FILLED" "1") =
    .ok (.finite 1) := by rfl
  have hword : statusWord (reportedStatus (JavaScript.reference .exact)
    (flatBody "PARTIALLY_FILLED" "1")) = .partly := by decide +kernel
  have hsize : (anOrder 2).size = .finite 2 := rfl
  have hok : ResponseHead.ok ⟨200⟩ = true := rfl
  refine ⟨_, rfl, ?_⟩
  apply (fill_is_kept_iff (JavaScript.reference .exact) rfl hsize (by norm_num) hok hfilled
    (by norm_num) (by norm_num)).mpr
  rw [hword]
  trivial

end Yevow.Execution
