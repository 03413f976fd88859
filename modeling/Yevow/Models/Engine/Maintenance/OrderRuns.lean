import Yevow.Models.Engine.FillTracking
import Yevow.Models.Engine.Maintenance.Reconciliation

/-!
# Reconciliations and execution reports

What reconciliations cancel and what reports book, over any sequence of the two. Listed orders
are matched with local ones by client id alone when orphans are looked for, an answer that
failed looks like an empty exchange, and a stored size is overwritten without being booked.
-/

namespace Yevow.Engine

open JavaScript (Record)

/-- The exchange lists no empty client id. -/
def OpenOrdersAnswer.Normalized (answer : OpenOrdersAnswer) : Prop :=
  ∀ remote ∈ fetchJanitorExchangeOpenOrders answer, remote.clientId ≠ some ""

/-- A local order refers to a listed one by either id. -/
def ManagedOrder.Refers (clientId : String) (order : ManagedOrder) (remote : ExchangeOpenOrder) :
    Prop :=
  remote.clientId = some clientId ∨ order.exchangeOrderId = some remote.exchangeOrderId

namespace JanitorOrderReconciliationInput

variable (input : JanitorOrderReconciliationInput)

/-- An exchange order is cancelled only if no local order refers to it but zombies. -/
def CancelsUnreferenced : Prop :=
  ∀ request ∈ (reconcileJanitorOrders input).cancellationRequests,
    match request.reason with
    | .zombieLocalOrder => request.orderId ∈ input.zombieOrders
    | .orphanExchangeOrder =>
      ∀ remote ∈ input.exchangeOpenOrders, remote.exchangeOrderId = request.orderId →
        ∀ clientId order, input.orderMap.get? clientId = some order →
          order.Refers clientId remote → clientId ∈ input.zombieOrders

/-- A local order is marked cancelled only if it is a zombie or the exchange does not list it. -/
def MarksUnlisted (answer : OpenOrdersAnswer) : Prop :=
  ∀ clientId order after, input.orderMap.get? clientId = some order →
    order.status ≠ .cancelled →
    (reconcileJanitorOrders input).orderMap.get? clientId = some after →
    after.status = .cancelled →
      clientId ∈ input.zombieOrders ∨ ∃ orders, answer = .listed orders ∧
        ∀ remote ∈ orders, ¬order.Refers clientId remote

/-- Orders listed without the client id of a local order do not bear the exchange id of one
either, be it in another entry of the list. -/
def OrphansUnknown : Prop :=
  ∀ orphan ∈ input.exchangeOpenOrders, ¬input.isKnown orphan →
    ∀ remote ∈ input.exchangeOpenOrders, remote.exchangeOrderId = orphan.exchangeOrderId →
      ∀ clientId order, input.orderMap.get? clientId = some order →
        order.Refers clientId remote → clientId ∈ input.zombieOrders

/-- The answer is a list or nothing depends on it, and no order in it is listed as cancelled
that is not so here. -/
def AnswerUsable (answer : OpenOrdersAnswer) : Prop :=
  ((∃ orders, answer = .listed orders) ∨
    ∀ clientId order, input.orderMap.get? clientId = some order →
      order.exchangeOrderId.any (· ≠ "") → order.status = .pending ∨ order.status = .open →
      clientId ∈ input.zombieOrders) ∧
  ∀ clientId order remote, input.orderMap.get? clientId = some order →
    order.status ≠ .cancelled →
    exchangeByClientId input.exchangeOpenOrders clientId = some remote →
    remote.status = .cancelled → clientId ∈ input.zombieOrders

end JanitorOrderReconciliationInput

/-! ## One reconciliation -/

private theorem exchangeByClientId_eq_none {orders : List ExchangeOpenOrder} {clientId : String}
    (hnormal : ∀ remote ∈ orders, remote.clientId ≠ some "") :
    exchangeByClientId orders clientId = none ↔
      ∀ remote ∈ orders, remote.clientId ≠ some clientId := by
  unfold exchangeByClientId
  rw [List.find?_eq_none]
  simp only [List.mem_reverse, List.mem_filter, decide_eq_true_eq, and_imp]
  constructor
  · intro h remote hremote heq
    refine h remote hremote ?_ heq
    have hne : clientId ≠ "" := by
      rintro rfl
      exact hnormal remote hremote heq
    simp [hasClientId, heq, hne]
  · intro h remote hremote _
    exact h remote hremote

private theorem mem_of_exchangeByClientId {orders : List ExchangeOpenOrder} {clientId : String}
    {remote : ExchangeOpenOrder} (h : exchangeByClientId orders clientId = some remote) :
    remote ∈ orders ∧ remote.clientId = some clientId := by
  constructor
  · exact (List.mem_filter.mp (List.mem_reverse.mp (List.mem_of_find?_eq_some h))).1
  · simpa using List.find?_some h

namespace JanitorOrderReconciliationInput

variable {input : JanitorOrderReconciliationInput}

private theorem get?_cancelZombie (orderMap : Record ManagedOrder) (zombie clientId : String) :
    (input.cancelZombie orderMap zombie).get? clientId =
      if clientId = zombie then
        (orderMap.get? clientId).map fun order =>
          { order with
            status := .cancelled
            updatedAt := input.observedAt }
      else orderMap.get? clientId := by
  unfold cancelZombie
  cases hzombie : orderMap.get? zombie with
  | none =>
    split_ifs with heq
    · rw [heq, hzombie]
      rfl
    · rfl
  | some order =>
    simp only [Rows.get?_set]
    split_ifs with heq
    · rw [heq, hzombie]
      rfl
    · rfl

/-- What a reconciliation leaves under a client id. -/
theorem get?_reconcileJanitorOrders (input : JanitorOrderReconciliationInput) (clientId : String) :
    (reconcileJanitorOrders input).orderMap.get? clientId =
      (input.orderMap.get? clientId).map fun order =>
        if clientId ∈ input.zombieOrders then
          { input.reconciledOrder clientId order with
            status := .cancelled
            updatedAt := input.observedAt }
        else input.reconciledOrder clientId order := by
  have hfold : ∀ (zombies : List String) (orderMap : Record ManagedOrder),
      (zombies.foldl input.cancelZombie orderMap).get? clientId =
        (orderMap.get? clientId).map fun order =>
          if clientId ∈ zombies then
            { order with
              status := .cancelled
              updatedAt := input.observedAt }
          else order := by
    intro zombies
    induction zombies with
    | nil => simp
    | cons zombie zombies ih =>
      intro orderMap
      rw [List.foldl_cons, ih, get?_cancelZombie]
      by_cases heq : clientId = zombie
      · simp [heq, Function.comp_def]
      · simp [heq]
  rw [reconcileJanitorOrders, hfold, reconciledMap, Rows.get?_map, Option.map_map]
  rfl

private theorem cancelsUnreferenced_iff : input.CancelsUnreferenced ↔ input.OrphansUnknown := by
  unfold CancelsUnreferenced OrphansUnknown reconcileJanitorOrders orphans
  simp only [List.mem_append, List.mem_map, List.mem_filter, decide_eq_true_eq]
  constructor
  · intro h orphan horphan hunknown
    exact h ⟨orphan.exchangeOrderId, .orphanExchangeOrder, some orphan.instrumentCode⟩
      (.inl ⟨orphan, ⟨horphan, by simpa using hunknown⟩, rfl⟩)
  · rintro h request (⟨orphan, ⟨horphan, hunknown⟩, rfl⟩ | ⟨zombie, hzombie, rfl⟩)
    · exact h orphan horphan (by simpa using hunknown)
    · exact hzombie

private theorem status_reconciledOrder {clientId : String} {order : ManagedOrder} :
    (input.reconciledOrder clientId order).status =
      match exchangeByClientId input.exchangeOpenOrders clientId with
      | some remote => remote.status
      | none => if input.isUnlisted order then .cancelled else order.status := by
  unfold reconciledOrder
  cases exchangeByClientId input.exchangeOpenOrders clientId with
  | some remote => rfl
  | none => exact apply_ite ManagedOrder.status _ _ _

private theorem clientId_reconciledOrder (clientId : String) (order : ManagedOrder) :
    (input.reconciledOrder clientId order).clientId = order.clientId := by
  unfold reconciledOrder
  cases exchangeByClientId input.exchangeOpenOrders clientId with
  | some remote => rfl
  | none => split_ifs <;> rfl

private theorem marksUnlisted_iff {answer : OpenOrdersAnswer} (hnormal : answer.Normalized)
    (hanswer : input.exchangeOpenOrders = fetchJanitorExchangeOpenOrders answer) :
    input.MarksUnlisted answer ↔ input.AnswerUsable answer := by
  unfold MarksUnlisted AnswerUsable
  have hnormal' : ∀ remote ∈ input.exchangeOpenOrders, remote.clientId ≠ some "" :=
    hanswer ▸ hnormal
  constructor
  · intro h
    constructor
    · by_cases hlisted : ∃ orders, answer = .listed orders
      · exact .inl hlisted
      · right
        intro clientId order horder hid hstatus
        by_contra hzombie
        have hnone : input.exchangeOpenOrders = [] := by
          rw [hanswer]
          cases answer with
          | unbound => rfl
          | failed => rfl
          | listed orders => exact absurd ⟨orders, rfl⟩ hlisted
        have hunlisted : input.isUnlisted order := by
          simp only [isUnlisted, hnone, List.map_nil, List.not_mem_nil, not_false_eq_true,
            and_true, decide_eq_true_eq]
          exact ⟨hid, hstatus⟩
        have hafter := get?_reconcileJanitorOrders input clientId
        rw [horder, Option.map_some, if_neg hzombie] at hafter
        have hne : order.status ≠ .cancelled := by
          rcases hstatus with hs | hs <;> simp [hs]
        have hcancelled : (input.reconciledOrder clientId order).status = .cancelled := by
          rw [status_reconciledOrder, hnone]
          simp [exchangeByClientId, hunlisted]
        rcases h clientId order _ horder hne hafter hcancelled with hmem | ⟨orders, heq, -⟩
        · exact hzombie hmem
        · exact hlisted ⟨orders, heq⟩
    · intro clientId order remote horder hne hremote hstatus
      by_contra hzombie
      have hafter := get?_reconcileJanitorOrders input clientId
      rw [horder, Option.map_some, if_neg hzombie] at hafter
      have hcancelled : (input.reconciledOrder clientId order).status = .cancelled := by
        rw [status_reconciledOrder, hremote]
        exact hstatus
      rcases h clientId order _ horder hne hafter hcancelled with hmem | ⟨orders, heq, hall⟩
      · exact hzombie hmem
      · obtain ⟨hmem, hid⟩ := mem_of_exchangeByClientId hremote
        rw [hanswer, heq] at hmem
        exact hall remote hmem (.inl hid)
  · rintro ⟨husable, hcancelled⟩ clientId order after horder hne hafter hstatus
    rw [get?_reconcileJanitorOrders, horder, Option.map_some] at hafter
    obtain rfl := Option.some.inj hafter
    by_cases hzombie : clientId ∈ input.zombieOrders
    · exact .inl hzombie
    · rw [if_neg hzombie, status_reconciledOrder] at hstatus
      cases hremote : exchangeByClientId input.exchangeOpenOrders clientId with
      | some remote =>
        rw [hremote] at hstatus
        exact .inl (hcancelled clientId order remote horder hne hremote hstatus)
      | none =>
        simp only [hremote] at hstatus
        have hunlisted : input.isUnlisted order := by
          by_contra hlisted
          rw [if_neg hlisted] at hstatus
          exact hne hstatus
        simp only [isUnlisted, decide_eq_true_eq] at hunlisted
        obtain ⟨hid, hopen⟩ := hunlisted
        obtain ⟨id, hexchange, hid⟩ := Option.any_eq_true _ _ |>.mp hid
        simp only [decide_eq_true_eq] at hid
        rcases husable with ⟨orders, heq⟩ | hnothing
        · right
          refine ⟨orders, heq, ?_⟩
          rintro remote hmem (hclient | hexchange')
          · have hmem' : remote ∈ input.exchangeOpenOrders := by
              rw [hanswer, heq]
              exact hmem
            exact (exchangeByClientId_eq_none hnormal').mp hremote remote hmem' hclient
          · obtain rfl := Option.some.inj (hexchange.symm.trans hexchange')
            apply hid.2
            rw [hanswer, heq]
            exact List.mem_map_of_mem hmem
        · left
          refine hnothing clientId order horder ?_ hopen
          simp [hexchange, hid.1]

end JanitorOrderReconciliationInput

/-! ## Sequences of reconciliations and reports -/

/-- The janitor reconciles, or an execution report is accounted for. -/
inductive OrderStep
  | reconcile (answer : OpenOrdersAnswer) (zombieOrders : List String) (observedAt : String)
  | report (step : ExecutionStep)

/-- The orders that a janitor run reads. -/
def EngineState.janitorInput (state : EngineState) (answer : OpenOrdersAnswer)
    (zombieOrders : List String) (observedAt : String) : JanitorOrderReconciliationInput :=
  ⟨state.orderMap, fetchJanitorExchangeOpenOrders answer, zombieOrders, observedAt⟩

/-- The part of `stateAfterJanitorRun` that accounting reads. -/
def EngineState.reconcile (state : EngineState) (input : JanitorOrderReconciliationInput) :
    EngineState :=
  { state with
    orderMap := (reconcileJanitorOrders input).orderMap
    updatedAt := input.observedAt
    heartbeatAt := input.observedAt }

variable (ar : EngineArithmetic)

/-- A report or a janitor run. -/
def EngineState.maintain (state : EngineState) : OrderStep → EngineState
  | .reconcile answer zombieOrders observedAt =>
    state.reconcile (state.janitorInput answer zombieOrders observedAt)
  | .report step => state.execute ar step

/-- Reports and janitor runs, one after the other. -/
def EngineState.maintainAll (state : EngineState) (steps : List OrderStep) : EngineState :=
  steps.foldl (EngineState.maintain ar) state

/-- The size that a step books for an order. -/
def EngineState.bookedFor (state : EngineState) (clientId : String) : OrderStep → ℚ
  | .reconcile _ _ _ => 0
  | .report step =>
    if step.report.Concerns clientId state.orderMap then
      (state.bookedFill ar step).elim 0 fun fill => |fill.signed|
    else 0

/-- The size that a sequence books for an order. -/
def EngineState.totalBookedFor (clientId : String) : EngineState → List OrderStep → ℚ
  | _, [] => 0
  | state, step :: steps =>
    state.bookedFor ar clientId step +
      EngineState.totalBookedFor clientId (state.maintain ar step) steps

/-- The largest size announced for an order, once a step is counted. -/
def EngineState.announcedBy (state : EngineState) (clientId : String) (announced : ℚ) :
    OrderStep → ℚ
  | .reconcile _ _ _ => announced
  | .report step =>
    if step.report.Concerns clientId state.orderMap then max announced step.report.reportedSize
    else announced

/-- The largest cumulative size announced for an order by a sequence, or before it. -/
def EngineState.largestAnnounced (clientId : String) : EngineState → ℚ → List OrderStep → ℚ
  | _, announced, [] => announced
  | state, announced, step :: steps =>
    EngineState.largestAnnounced clientId (state.maintain ar step)
      (state.announcedBy clientId announced step) steps

/-- The janitor asks for no cancellation and marks no order that it must not. -/
def EngineState.Reconciles (state : EngineState) : OrderStep → Prop
  | .reconcile answer zombieOrders observedAt =>
    let input := state.janitorInput answer zombieOrders observedAt
    input.CancelsUnreferenced ∧ input.MarksUnlisted answer
  | .report _ => True

/-- A sequence in which no cancel is wrong and, after every part of it, the size booked for
each order has grown as much as the largest size announced. -/
structure EngineState.Maintained (state : EngineState) (announced : String → ℚ)
    (steps : List OrderStep) : Prop where
  reconciles : ∀ done step later, steps = done ++ step :: later →
    (state.maintainAll ar done).Reconciles step
  booked : ∀ done, done <+: steps → ∀ clientId,
    announced clientId + state.totalBookedFor ar clientId done =
      state.largestAnnounced ar clientId (announced clientId) done

/-- What a report adds to the stored size of its order is what it adds to the largest size
announced before, and is booked if it is anything. -/
def EngineState.BooksAnnounced (state : EngineState) (clientId : String) (announced : ℚ)
    (step : ExecutionStep) : Prop :=
  let reported := max 0 step.report.reportedSize
  (state.Bookable ar step →
    max 0 (ar.sub reported (state.storedSize clientId)) = max 0 (reported - announced)) ∧
  (¬state.Bookable ar step → reported ≤ announced)

/-- A step that does no harm to cancels and fills. -/
def EngineState.Harmless (state : EngineState) (announced : String → ℚ) : OrderStep → Prop
  | .reconcile answer zombieOrders observedAt =>
    let input := state.janitorInput answer zombieOrders observedAt
    input.OrphansUnknown ∧ input.AnswerUsable answer
  | .report step => ∀ clientId, step.report.Concerns clientId state.orderMap →
      state.BooksAnnounced ar clientId (announced clientId) step

/-- Answers without empty client ids, and reports with a cumulative size alone. -/
def OrderStep.WellFormed : OrderStep → Prop
  | .reconcile answer _ _ => answer.Normalized
  | .report step => step.report.CumulativeOnly

variable {ar}

/-! ## One step -/

private theorem wellKeyed_maintain {state : EngineState} (step : OrderStep)
    (h : WellKeyed state.orderMap) : WellKeyed (state.maintain ar step).orderMap := by
  cases step with
  | report step => exact wellKeyed_execute step h
  | reconcile answer zombieOrders observedAt =>
    intro clientId order horder
    have hget := JanitorOrderReconciliationInput.get?_reconcileJanitorOrders
      (state.janitorInput answer zombieOrders observedAt) clientId
    rw [show (state.maintain ar (.reconcile answer zombieOrders observedAt)).orderMap =
      (reconcileJanitorOrders (state.janitorInput answer zombieOrders observedAt)).orderMap from
        rfl, hget] at horder
    obtain ⟨before, hbefore, rfl⟩ := Option.map_eq_some_iff.mp horder
    have hkey := h clientId before hbefore
    split_ifs
    · exact (JanitorOrderReconciliationInput.clientId_reconciledOrder ..).trans hkey
    · exact (JanitorOrderReconciliationInput.clientId_reconciledOrder ..).trans hkey

private theorem announcedBy_nonneg {state : EngineState} {clientId : String} {announced : ℚ}
    (h : 0 ≤ announced) (step : OrderStep) : 0 ≤ state.announcedBy clientId announced step := by
  cases step with
  | reconcile answer zombieOrders observedAt => exact h
  | report step =>
    rw [EngineState.announcedBy]
    split_ifs
    · exact le_max_of_le_left h
    · exact h

/-- A report books for its order what it announces exactly when its increment is that. -/
theorem booksAnnounced_iff {state : EngineState} {clientId : String} {announced : ℚ}
    {step : ExecutionStep} (hkeyed : WellKeyed state.orderMap) (hannounced : 0 ≤ announced)
    (hcumulative : step.report.CumulativeOnly)
    (hconcerns : step.report.Concerns clientId state.orderMap) :
    announced + (state.bookedFill ar step).elim 0 (fun fill => |fill.signed|) =
      max announced step.report.reportedSize ↔
    state.BooksAnnounced ar clientId announced step := by
  have hincrement : (state.accounting ar step).fillIncrementSize = _ :=
    fillIncrementSize_accounting hkeyed hconcerns hcumulative
  have hmax : max announced step.report.reportedSize =
      announced + max 0 (max 0 step.report.reportedSize - announced) := by
    rcases le_total 0 step.report.reportedSize with hpos | hneg
    · rw [max_eq_right hpos, ← max_add_add_left, add_zero, add_sub_cancel]
    · rw [max_eq_left hneg, max_eq_left (hneg.trans hannounced), zero_sub,
        max_eq_left (neg_nonpos.mpr hannounced), add_zero]
  rw [hmax, add_right_inj, EngineState.BooksAnnounced]
  by_cases hbookable : state.Bookable ar step
  · rw [booked_of_bookable hbookable, hincrement]
    simp [hbookable]
  · rw [booked_of_not_bookable hbookable]
    simp only [hbookable, false_imp_iff, not_false_eq_true, true_imp_iff, true_and]
    rw [eq_comm, max_eq_left_iff, sub_nonpos]

/-- One step does no harm exactly when it cancels nothing wrongly and books what it announces. -/
theorem harmless_iff {state : EngineState} {announced : String → ℚ} {step : OrderStep}
    (hkeyed : WellKeyed state.orderMap) (hannounced : ∀ clientId, 0 ≤ announced clientId)
    (hstep : step.WellFormed) :
    (state.Reconciles step ∧ ∀ clientId, announced clientId + state.bookedFor ar clientId step =
      state.announcedBy clientId (announced clientId) step) ↔
    state.Harmless ar announced step := by
  cases step with
  | reconcile answer zombieOrders observedAt =>
    simp only [EngineState.Reconciles, EngineState.bookedFor, EngineState.announcedBy, add_zero,
      implies_true, and_true, EngineState.Harmless]
    exact and_congr JanitorOrderReconciliationInput.cancelsUnreferenced_iff
      (JanitorOrderReconciliationInput.marksUnlisted_iff hstep rfl)
  | report step =>
    simp only [EngineState.Reconciles, true_and, EngineState.Harmless, EngineState.bookedFor,
      EngineState.announcedBy]
    apply forall_congr'
    intro clientId
    by_cases hconcerns : step.report.Concerns clientId state.orderMap
    · simp only [hconcerns, true_imp_iff]
      exact booksAnnounced_iff hkeyed (hannounced clientId) hstep hconcerns
    · simp [hconcerns]

/-! ## Any sequence -/

/-- Every step of a sequence, at the state it meets and with what is announced by then. -/
def EngineState.AllHarmless (ar : EngineArithmetic) (state : EngineState) (announced : String → ℚ)
    (steps : List OrderStep) : Prop :=
  ∀ done step later, steps = done ++ step :: later →
    (state.maintainAll ar done).Harmless ar
      (fun clientId => state.largestAnnounced ar clientId (announced clientId) done) step

private theorem allHarmless_cons {state : EngineState} {announced : String → ℚ}
    {step : OrderStep} {steps : List OrderStep} :
    state.AllHarmless ar announced (step :: steps) ↔
      state.Harmless ar announced step ∧
        (state.maintain ar step).AllHarmless ar
          (fun clientId => state.announcedBy clientId (announced clientId) step) steps := by
  constructor
  · intro h
    refine ⟨h [] step steps rfl, ?_⟩
    intro done other later heq
    exact h (step :: done) other later (by rw [heq, List.cons_append])
  · rintro ⟨hstep, hsteps⟩ done other later heq
    cases done with
    | nil =>
      obtain ⟨rfl, -⟩ := List.cons.inj heq
      exact hstep
    | cons first done =>
      obtain ⟨rfl, htail⟩ := List.cons.inj heq
      exact hsteps done other later htail

private theorem maintained_cons {state : EngineState} {announced : String → ℚ}
    {step : OrderStep} {steps : List OrderStep} :
    state.Maintained ar announced (step :: steps) ↔
      (state.Reconciles step ∧
        ∀ clientId, announced clientId + state.bookedFor ar clientId step =
          state.announcedBy clientId (announced clientId) step) ∧
        (state.maintain ar step).Maintained ar
          (fun clientId => state.announcedBy clientId (announced clientId) step) steps := by
  constructor
  · intro h
    have hone : ∀ clientId, announced clientId + state.bookedFor ar clientId step =
        state.announcedBy clientId (announced clientId) step := by
      intro clientId
      have hbooked := h.booked [step] ((List.prefix_cons_inj step).mpr List.nil_prefix) clientId
      simpa [EngineState.totalBookedFor, EngineState.largestAnnounced] using hbooked
    refine ⟨⟨h.reconciles [] step steps rfl, hone⟩, ?_, ?_⟩
    · intro done other later heq
      exact h.reconciles (step :: done) other later (by rw [heq, List.cons_append])
    · intro done hdone clientId
      have hbooked := h.booked (step :: done) ((List.prefix_cons_inj step).mpr hdone) clientId
      simp only [EngineState.totalBookedFor, EngineState.largestAnnounced] at hbooked
      rw [← hone clientId, add_assoc, hbooked, hone clientId]
  · rintro ⟨⟨hreconciles, hone⟩, hrest⟩
    constructor
    · intro done other later heq
      cases done with
      | nil =>
        obtain ⟨rfl, -⟩ := List.cons.inj heq
        exact hreconciles
      | cons first done =>
        obtain ⟨rfl, htail⟩ := List.cons.inj heq
        exact hrest.reconciles done other later htail
    · intro done hdone clientId
      cases done with
      | nil => simp [EngineState.totalBookedFor, EngineState.largestAnnounced]
      | cons first done =>
        obtain ⟨rfl, htail⟩ := List.cons_prefix_cons.mp hdone
        have hbooked := hrest.booked done htail clientId
        simp only [EngineState.totalBookedFor, EngineState.largestAnnounced]
        rw [← hbooked, ← hone clientId, add_assoc]

private theorem maintained_nil (state : EngineState) (announced : String → ℚ) :
    state.Maintained ar announced [] where
  reconciles done step later h := by simp at h
  booked done hdone clientId := by
    obtain rfl := List.prefix_nil.mp hdone
    simp [EngineState.totalBookedFor, EngineState.largestAnnounced]

/-- No cancel is wrong and every announced size is booked exactly when every step is harmless. -/
theorem maintained_iff {state : EngineState} {announced : String → ℚ} {steps : List OrderStep}
    (hkeyed : WellKeyed state.orderMap) (hannounced : ∀ clientId, 0 ≤ announced clientId)
    (hsteps : ∀ step ∈ steps, step.WellFormed) :
    state.Maintained ar announced steps ↔ state.AllHarmless ar announced steps := by
  induction steps generalizing state announced with
  | nil =>
    refine iff_of_true (maintained_nil state announced) ?_
    intro done step later h
    simp at h
  | cons step steps ih =>
    rw [maintained_cons, allHarmless_cons,
      harmless_iff hkeyed hannounced (hsteps step List.mem_cons_self),
      ih (wellKeyed_maintain step hkeyed)
        (fun clientId => announcedBy_nonneg (hannounced clientId) step)
        (fun other hother => hsteps other (List.mem_cons_of_mem _ hother))]

private def placedOrder : ManagedOrder where
  clientId := "c"
  exchangeOrderId := some "7"
  intentId := none
  instrumentCode := "btc"
  side := .buy
  price := .finite 100
  size := .finite 10
  filledSize := 0
  status := .open
  createdAt := "t0"
  updatedAt := "t0"
  ackDeadlineAt := "t0"

private def placedState : EngineState where
  bankroll := ⟨"USD", 5000, 5000, 0, "t0"⟩
  openPositions := .empty
  orderMap := Rows.empty.set "c" placedOrder
  lastTradeIntent := none
  inventory := ⟨0⟩
  current_inventory_delta := 0
  updatedAt := "t0"
  heartbeatAt := "t0"

private def partialFillReport : ExecutionStep where
  report :=
    { clientId := "c"
      exchangeOrderId := none
      instrumentCode := none
      side := none
      orderSize := none
      status := .partialFill
      filledSize := some (.finite 4)
      fillIncrementSize := none
      achievedPrice := some (.finite 100)
      expectedPrice := none
      fees := none
      observedAt := "t1" }
  observedAt := none
  markPrice := fun _ fallback => fallback
  inventory := ⟨0⟩

private theorem get?_placedState {clientId : String} {order : ManagedOrder}
    (h : placedState.orderMap.get? clientId = some order) :
    clientId = "c" ∧ order = placedOrder := by
  rw [placedState, Rows.get?_set, Rows.get?_empty] at h
  split_ifs at h with hkey
  exact ⟨hkey, (Option.some.inj h).symm⟩

/-- The exchange lists the order under both its ids, and a report then fills four. -/
private def listedThenFilled : List OrderStep :=
  [.reconcile (.listed [⟨some "c", "7", "btc", 0, .open⟩]) [] "t1", .report partialFillReport]

theorem listedThenFilled_maintained :
    placedState.Maintained .unrounded (fun _ => 0) listedThenFilled := by
  refine (maintained_iff ?_ (fun _ => le_rfl) ?_).mpr ?_
  · intro clientId order h
    obtain ⟨rfl, rfl⟩ := get?_placedState h
    rfl
  · rintro step (_ | ⟨_, _ | ⟨_, ⟨⟩⟩⟩)
    · intro remote hremote
      rw [List.mem_singleton.mp hremote]
      decide
    · exact ⟨rfl, 4, rfl⟩
  · refine allHarmless_cons.mpr ⟨⟨?_, .inl ⟨_, rfl⟩, ?_⟩, allHarmless_cons.mpr ⟨?_, ?_⟩⟩
    · intro orphan horphan hunknown
      rw [List.mem_singleton.mp horphan] at hunknown
      exact absurd (by decide +kernel) hunknown
    · intro clientId order remote _ _ hremote hstatus
      rw [List.mem_singleton.mp (mem_of_exchangeByClientId hremote).1] at hstatus
      cases hstatus
    · intro clientId hconcerns
      obtain rfl : clientId = "c" := by
        refine hconcerns.symm.trans ?_
        decide +kernel
      refine ⟨fun _ => by decide +kernel, fun hnot => absurd ?_ hnot⟩
      exact ⟨rfl, 100, by decide +kernel, by norm_num⟩
    · intro done step later h
      simp at h

/-- An order listed without its client id is cancelled as an orphan; a failed fetch marks it
cancelled; and four filled units that a reconciliation has stored are never booked. -/
theorem reconciliation_harms :
    ¬(placedState.janitorInput (.listed [⟨none, "7", "btc", 0, .open⟩]) []
      "t1").CancelsUnreferenced ∧
    ¬(placedState.janitorInput .failed [] "t1").MarksUnlisted .failed ∧
    placedState.totalBookedFor .binary64 "c"
      [.reconcile (.listed [⟨some "c", "7", "btc", 4, .partialFill⟩]) [] "t1",
        .report partialFillReport] = 0 ∧
    placedState.largestAnnounced .binary64 "c" 0
      [.reconcile (.listed [⟨some "c", "7", "btc", 4, .partialFill⟩]) [] "t1",
        .report partialFillReport] = 4 := by
  refine ⟨?_, ?_, by decide +kernel, by decide +kernel⟩
  · intro h
    have hmem := h ⟨"7", .orphanExchangeOrder, some "btc"⟩ (by decide +kernel)
      ⟨none, "7", "btc", 0, .open⟩ List.mem_cons_self rfl "c" placedOrder (by decide +kernel)
      (.inr rfl)
    cases hmem
  · intro h
    have hafter : (reconcileJanitorOrders (placedState.janitorInput .failed [] "t1")).orderMap.get?
        "c" = some { placedOrder with
          status := .cancelled
          updatedAt := "t1" } := by decide +kernel
    rcases h "c" placedOrder _ (by decide +kernel) (by decide) hafter rfl with hmem |
      ⟨orders, heq, -⟩
    · cases hmem
    · cases heq

end Yevow.Engine
