import Yevow.Core.JavaScript.Reference
import Yevow.Models.Execution.Conformance

/-!
# Calls for one intent

Several calls of `executeIntent` carry the same intent. A call consults the ledger, awaits many
answers and only then writes its response into the ledger, so that the ledger alone does not
keep two calls from sending the order; nor does it where a call that has sent the order throws
at an answer that cannot be read. Where no call consults the ledger while another one is between
its look and its response, one order is sent and the other calls answer with what was remembered.
-/

namespace Yevow.Execution

open JavaScript (Runtime)
open Isolate (Reaches trail news)

variable {js : Runtime} {env : Env} {round : ℚ → ℚ} {intent : TradeIntent}

/-! ## Runs -/

namespace Note

/-- The intent was looked up in the ledger. -/
def isEvaluated : Note → Bool
  | .evaluated => true
  | _ => false

/-- An order is sent under an id. -/
def isOrderOf (orderId : String) : Note → Bool
  | .sent _ sentId _ => sentId == orderId
  | _ => false

end Note

/-- Calls for one intent, the slices they scheduled, and requests for information. -/
def ofIntent (intent : TradeIntent) (isolate : ExecutionIsolate) : ExecutionEvent → Bool
  | .start (.execute started) => started = intent
  | .start .info => true
  | .start (.twap slices) => isolate.state.scheduled.contains slices
  | .resume _ _ => true
  | .act _ => true

/-- The calls that consult the ledger in an event. -/
def consulting (js : Runtime) (env : Env) (round : ℚ → ℚ) (isolate : ExecutionIsolate)
    (event : ExecutionEvent) : List ℕ :=
  ((news (setting js env round) isolate event).filter fun entry => entry.2.isEvaluated).map Prod.fst

/-- Where the ledger is consulted, what it remembers of the intent is still alive. -/
def withinTtl (js : Runtime) (env : Env) (round : ℚ → ℚ) (intent : TradeIntent)
    (isolate : ExecutionIsolate)
    (event : ExecutionEvent) : Bool :=
  (consulting js env round isolate event).all fun _ =>
    (isolate.state.ledger.get? intent.intentId).all fun entry =>
      isolate.state.now < entry.expiresAt

/-- A call has responded, or has thrown before it sent its order. -/
def hasEnded (intent : TradeIntent) (isolate : ExecutionIsolate) (i : ℕ) : Bool :=
  match isolate.threads[i]? with
  | some (_, .done (.ok _)) => true
  | some (_, .done (.error _)) =>
    (trail isolate.history i).all fun sent => !sent.isOrderOf intent.intentId
  | _ => false

/-- Where a call consults the ledger, every other call that has consulted it has ended. -/
def isSerial (js : Runtime) (env : Env) (round : ℚ → ℚ) (intent : TradeIntent)
    (isolate : ExecutionIsolate)
    (event : ExecutionEvent) : Bool :=
  (consulting js env round isolate event).all fun i => isolate.history.all fun entry =>
    !entry.2.isEvaluated || entry.1 == i || hasEnded intent isolate entry.1

/-- One order was sent for the intent, and every other call that has answered gave a remembered
response or one that reports no new order. -/
structure SubmittedOnce (intent : TradeIntent) (isolate : ExecutionIsolate) : Prop where
  orders : isolate.history.countP (fun entry => entry.2.isOrderOf intent.intentId) ≤ 1
  others : ∃ first, (∀ entry ∈ isolate.history, entry.2.isOrderOf intent.intentId = true →
      entry.1 = first) ∧
    ∀ i ≠ first, ∀ request response,
      isolate.threads[i]? = some (request, .done (.ok (some response))) →
      response.body.isQuiet ∨ ∃ original,
        response = ⟨original.status, .replay original.body⟩ ∧
          ∃ k, (k, .remembered original) ∈ isolate.history

/-! ## The calls between the ledger and their end -/

/-- A call has found its intent new and has not ended. -/
def Phase.live : Phase → Prop
  | .call _ .fresh => False
  | .call _ (.closed _) => False
  | .call _ (.finished _) => False
  | .call _ _ => True
  | _ => False

/-- A call that is done. -/
def Phase.finished : Phase → Prop
  | .call _ (.finished _) => True
  | _ => False

/-- The phases that come after the order may have been sent. -/
def Phase.mayHaveSent : Phase → Prop
  | .call _ .open => False
  | .call _ .granted => False
  | .call intent phase => (Phase.call intent phase).live ∨ (Phase.call intent phase).finished
  | _ => False

/-- The phases that come after the order was sent and before it is reported. -/
def Phase.hasSent : Phase → Prop
  | .call _ .sent => True
  | .call _ (.received _) => True
  | _ => False

/-- How many orders were sent under an identifier. -/
def orderCount (orderId : String) (notes : List Note) : ℕ := notes.countP (Note.isOrderOf orderId)

/-- A live call has consulted the ledger, and a call sends its order at most once. -/
structure CallNotes (orderId : String) (phase : Phase) (notes : List Note) : Prop where
  consulted : phase.live → .evaluated ∈ notes
  once : orderCount orderId notes ≤ 1
  unsent : ¬ phase.mayHaveSent → orderCount orderId notes = 0
  sent : phase.hasSent → orderCount orderId notes ≠ 0

/-! ## Phases -/

variable {phase : Phase} {op : Op} {answer : Except String op.Ret}

/-- Only a look at the ledger makes a call live. -/
private theorem live_of_next (hop : ∀ evaluated, op ≠ .evaluate evaluated) (hmay : phase.may op)
    (hlive : (phase.next js op answer).live) : phase.live := by
  cases phase with
  | call called phase =>
    cases phase with
    | fresh =>
      cases op with
      | evaluate evaluated => exact absurd rfl (hop evaluated)
      | fetchConfig => cases answer <;> exact False.elim hlive
      | requestJson => cases answer <;> exact False.elim hlive
      | _ => exact False.elim hmay
    | closed replayed => exact False.elim hmay
    | finished placed => exact False.elim hmay
    | _ => trivial
  | _ => exact False.elim hlive

/-- A call ends in the ledger where its response is remembered. -/
private theorem not_finished_next (hop : ∀ r f p, op ≠ .remember r f p) (hmay : phase.may op) :
    ¬ (phase.next js op answer).finished := by
  intro hfinished
  cases phase with
  | call called phase =>
    cases phase <;> cases op <;> first
      | exact False.elim hmay
      | exact False.elim hfinished
      | exact absurd rfl (hop _ _ _)
      | (rcases answer with _ | _ | _ <;> exact False.elim hfinished)
  | _ => exact False.elim hfinished

private theorem not_replayed_next (hop : ∀ evaluated, op ≠ .evaluate evaluated)
    (hmay : phase.may op) {called : TradeIntent} {response : IntentResponse} :
    phase.next js op answer ≠ .call called (.closed (some response)) := by
  intro hclosed
  cases phase with
  | call called' phase =>
    obtain ⟨rfl, hphase⟩ := Phase.call.inj hclosed
    cases phase <;> cases op <;> first
      | exact False.elim hmay
      | exact absurd rfl (hop _)
      | exact CallPhase.noConfusion hphase
      | (rcases answer with _ | _ | _ <;> cases hphase)
  | _ => cases hclosed

private theorem exists_of_next_call {called : TradeIntent} {callPhase : CallPhase}
    (hnext : phase.next js op answer = .call called callPhase) :
    ∃ before, phase = .call called before := by
  cases phase with
  | call called' before =>
    obtain ⟨rfl, -⟩ := Phase.call.inj hnext
    exact ⟨before, rfl⟩
  | _ => cases hnext

private theorem eq_of_next_twap {orderIds : List String}
    (hnext : phase.next js op answer = .twap orderIds) : phase = .twap orderIds := by
  cases phase with
  | twap orderIds' => exact hnext
  | _ => cases hnext

private theorem mayHaveSent_next (hmay : phase.may op) (hsent : phase.mayHaveSent) :
    (phase.next js op answer).mayHaveSent := by
  cases phase with
  | call called phase =>
    cases phase <;> cases op <;> first
      | exact False.elim hmay
      | exact False.elim hsent
      | exact Or.inl trivial
      | exact Or.inr trivial
      | (cases answer <;> exact Or.inl trivial)
      | (rcases hsent with hsent | hsent <;> exact False.elim hsent)
  | _ => exact False.elim hsent

/-- Only an order that is sent leads to where one was. -/
private theorem hasSent_of_next (hop : ∀ kind orderId request, op ≠ .sendOrder kind orderId request)
    (hmay : phase.may op) (hsent : (phase.next js op answer).hasSent) : phase.hasSent := by
  cases phase with
  | call called phase =>
    cases phase <;> cases op <;> first
      | exact False.elim hmay
      | exact False.elim hsent
      | trivial
      | exact absurd rfl (hop _ _ _)
      | (rcases answer with _ | _ | _ <;> exact False.elim hsent)
  | _ => exact False.elim hsent

private theorem live_or_finished (hsent : phase.mayHaveSent) : phase.live ∨ phase.finished := by
  cases phase with
  | call called phase => cases phase <;> first | exact False.elim hsent | exact hsent
  | _ => exact False.elim hsent

/-- The order of an intent is sent once, from where it has not been sent. -/
private theorem order_of_note {memory : Memory} (hmay : phase.may op)
    (hcalled : ∀ called callPhase, phase = .call called callPhase → called = intent)
    (hids : ∀ orderIds, phase = .twap orderIds → intent.intentId ∉ orderIds)
    (horder : orderCount intent.intentId (note op answer memory) ≠ 0) :
    orderCount intent.intentId (note op answer memory) = 1 ∧ ¬ phase.mayHaveSent ∧
      (phase.next js op answer).mayHaveSent := by
  cases op with
  | sendOrder kind orderId request =>
    have hcount : orderCount intent.intentId
        (note (.sendOrder kind orderId request) answer memory) =
        if orderId = intent.intentId then 1 else 0 := by
      simp [orderCount, note, Note.isOrderOf]
    rw [hcount] at horder ⊢
    have horderId : orderId = intent.intentId := by
      by_contra hother
      exact horder (if_neg hother)
    rw [if_pos horderId]
    cases phase with
    | call called phase =>
      obtain rfl := hcalled called phase rfl
      cases phase with
      | granted => exact ⟨rfl, id, Or.inl trivial⟩
      | reported => exact absurd (hmay.2.symm.trans horderId) (stopRetryId_ne called)
      | _ => exact False.elim hmay
    | twap orderIds =>
      exact absurd (horderId ▸ hmay.2) (hids orderIds rfl)
    | info phase => cases phase <;> exact False.elim hmay
    | absent => exact False.elim hmay
  | safeJson response => cases answer <;> exact absurd rfl horder
  | reserve exchangeKey priority => rcases answer with _ | _ | _ <;> exact absurd rfl horder
  | _ => exact absurd rfl horder

private theorem callNotes_next {memory : Memory} {notes : List Note} (hmay : phase.may op)
    (hcalled : ∀ called callPhase, phase = .call called callPhase → called = intent)
    (hids : ∀ orderIds, phase = .twap orderIds → intent.intentId ∉ orderIds)
    (hnotes : CallNotes intent.intentId phase notes) :
    CallNotes intent.intentId (phase.next js op answer) (notes ++ note op answer memory) := by
  have hcount : orderCount intent.intentId (notes ++ note op answer memory) =
      orderCount intent.intentId notes +
        orderCount intent.intentId (note op answer memory) := List.countP_append ..
  constructor
  · intro hlive
    by_cases hop : ∀ evaluated, op ≠ .evaluate evaluated
    · exact List.mem_append_left _ (hnotes.consulted (live_of_next hop hmay hlive))
    · push Not at hop
      obtain ⟨evaluated, rfl⟩ := hop
      exact List.mem_append_right _ (List.mem_singleton_self _)
  · rw [hcount]
    have := hnotes.once
    by_cases horder : orderCount intent.intentId (note op answer memory) = 0
    · omega
    · obtain ⟨hone, hunsent, -⟩ :=
        @order_of_note js intent phase op answer memory hmay hcalled hids horder
      have := hnotes.unsent hunsent
      omega
  · intro hunsent
    rw [hcount]
    by_cases horder : orderCount intent.intentId (note op answer memory) = 0
    · have := hnotes.unsent fun hsent => hunsent (mayHaveSent_next hmay hsent)
      omega
    · exact absurd (order_of_note hmay hcalled hids horder).2.2 hunsent
  · intro hsent
    rw [hcount]
    by_cases hop : ∀ kind orderId request, op ≠ .sendOrder kind orderId request
    · have := hnotes.sent (hasSent_of_next hop hmay hsent)
      omega
    · push Not at hop
      obtain ⟨kind, orderId, request, rfl⟩ := hop
      have hone : orderCount intent.intentId
          (note (.sendOrder kind orderId request) answer memory) = 1 := by
        cases phase with
        | call called phase =>
          obtain rfl := hcalled called phase rfl
          cases phase with
          | granted =>
            obtain ⟨-, rfl⟩ := hmay
            simp [orderCount, note, Note.isOrderOf]
          | reported => exact False.elim hsent
          | _ => exact False.elim hmay
        | _ => exact False.elim hsent
      omega

/-! ## The invariant -/

/-- Every call is for the intent, and no slice has its id. -/
structure Assigned (intent : TradeIntent) (memory : Memory) (phase : ℕ → Phase)
    (history : List (ℕ × Note)) : Prop where
  same : ∀ i called callPhase, phase i = .call called callPhase → called = intent
  scheduled : ∀ slices ∈ memory.scheduled, ∀ slice ∈ slices,
    slice.intent.intentId ≠ intent.intentId
  sliced : ∀ i orderIds, phase i = .twap orderIds → intent.intentId ∉ orderIds
  notes : ∀ i, CallNotes intent.intentId (phase i) (trail history i)

/-- At most one call is live or has ended in the ledger, and what the ledger holds was
remembered by one that has ended. -/
structure Guarded (intent : TradeIntent) (memory : Memory) (phase : ℕ → Phase)
    (history : List (ℕ × Note)) : Prop where
  live_unique : ∀ i j, (phase i).live → (phase j).live → i = j
  finished_unique : ∀ i j, (phase i).finished → (phase j).finished → i = j
  entry : ∀ i, (phase i).finished → ∃ entry, memory.ledger.get? intent.intentId = some entry
  idle : ∀ entry, memory.ledger.get? intent.intentId = some entry → ∀ i, ¬ (phase i).live
  remembered : ∀ entry, memory.ledger.get? intent.intentId = some entry →
    ∃ i, (i, .remembered entry.response) ∈ history
  replayed : ∀ i called response, phase i = .call called (.closed (some response)) →
    ∃ k, (k, .remembered response) ∈ history

variable {memory memory' : Memory} {phases : ℕ → Phase} {history : List (ℕ × Note)} {i : ℕ}
  {phase' : Phase}

private theorem sliceId_ne {called : TradeIntent} (suffix : String) :
    called.intentId ++ "-slice-" ++ suffix ≠ called.intentId := by
  intro h
  have hlength := congrArg String.length h
  rw [String.length_append, String.length_append] at hlength
  have hslice : "-slice-".length = 7 := rfl
  omega

private theorem Assigned.move
    (hmove :
      Isolate.Move (host js env round) (protocol js) memory (phases i) op answer memory' phase')
    (h : Assigned intent memory phases history) :
    Assigned intent memory' (Function.update phases i phase')
      (history ++ (note op answer memory).map (i, ·)) := by
  have hphase : phase' = (phases i).next js op answer := hmove.leads
  subst hphase
  have hmay := hmove.may
  refine ⟨?_, ?_, ?_, ?_⟩
  · intro j called callPhase hj
    by_cases hij : j = i
    · subst hij
      rw [Function.update_self] at hj
      obtain ⟨before, hbefore⟩ := exists_of_next_call hj
      exact h.same j called before hbefore
    · rw [Function.update_of_ne hij] at hj
      exact h.same j called callPhase hj
  · have hstate := hmove.state_eq
    cases op with
    | runTwapSlices slices =>
      intro given hgiven
      rw [hstate] at hgiven
      rcases List.mem_append.mp hgiven with hold | hnew
      · exact h.scheduled given hold
      · obtain rfl := List.mem_singleton.mp hnew
        intro slice hslice
        cases hi : phases i with
        | call called callPhase =>
          obtain rfl := h.same i called callPhase hi
          rw [hi] at hmay
          cases callPhase with
          | «open» =>
            obtain ⟨suffix, hid⟩ := hmay slice hslice
            rw [hid]
            exact sliceId_ne suffix
          | _ => exact False.elim hmay
        | info infoPhase =>
          rw [hi] at hmay
          cases infoPhase <;> exact False.elim hmay
        | _ =>
          rw [hi] at hmay
          exact False.elim hmay
    | configureRuntimeRateLimits =>
      rw [hstate]
      show ∀ slices ∈ (serve js env round .configureRuntimeRateLimits memory).2.scheduled, _
      simp only [serve]
      split_ifs <;> exact h.scheduled
    | _ =>
      rw [hstate]
      exact h.scheduled
  · intro j orderIds hj
    by_cases hij : j = i
    · subst hij
      rw [Function.update_self] at hj
      exact h.sliced j orderIds (eq_of_next_twap hj)
    · rw [Function.update_of_ne hij] at hj
      exact h.sliced j orderIds hj
  · exact Isolate.forall_trail_append h.notes
      (callNotes_next hmay (h.same i) (h.sliced i))

/-- What a property of the updated phase of one call comes from. -/
private theorem of_update {P : Phase → Prop} (hP : P phase' → P (phases i)) {j : ℕ}
    (h : P (Function.update phases i phase' j)) : P (phases j) := by
  by_cases hj : j = i
  · subst hj
    rw [Function.update_self] at h
    exact hP h
  · rwa [Function.update_of_ne hj] at h

/-- What leaves the entry of the intent and makes no call live. -/
private theorem Guarded.frame (h : Guarded intent memory phases history)
    (hledger : memory'.ledger.get? intent.intentId = memory.ledger.get? intent.intentId)
    (hlive : phase'.live → (phases i).live) (hfinished : ¬ phase'.finished)
    (hreplayed : ∀ called response, phase' = .call called (.closed (some response)) →
      ∃ k, (k, .remembered response) ∈ history)
    (later : List (ℕ × Note)) :
    Guarded intent memory' (Function.update phases i phase') (history ++ later) := by
  have hold : ∀ j, (Function.update phases i phase' j).live → (phases j).live :=
    fun j => of_update hlive
  have hended : ∀ j, (Function.update phases i phase' j).finished → (phases j).finished :=
    fun j => of_update fun hi => absurd hi hfinished
  refine ⟨fun j k hj hk => h.live_unique j k (hold j hj) (hold k hk),
    fun j k hj hk => h.finished_unique j k (hended j hj) (hended k hk), ?_, ?_, ?_, ?_⟩
  · intro j hj
    rw [hledger]
    exact h.entry j (hended j hj)
  · intro entry hentry j hj
    rw [hledger] at hentry
    exact h.idle entry hentry j (hold j hj)
  · intro entry hentry
    rw [hledger] at hentry
    obtain ⟨k, hk⟩ := h.remembered entry hentry
    exact ⟨k, List.mem_append_left _ hk⟩
  · intro j called response hj
    obtain ⟨k, hk⟩ : ∃ k, (k, .remembered response) ∈ history := by
      by_cases hij : j = i
      · subst hij
        rw [Function.update_self] at hj
        exact hreplayed called response hj
      · rw [Function.update_of_ne hij] at hj
        exact h.replayed j called response hj
    exact ⟨k, List.mem_append_left _ hk⟩

/-- The one live call ends in the ledger. -/
private theorem Guarded.remember (h : Guarded intent memory phases history)
    (hlive : (phases i).live) {fingerprint : IntentFingerprint} {response : IntentResponse}
    {placed : Bool} (later : List (ℕ × Note)) (hlater : (i, .remembered response) ∈ later) :
    Guarded intent
      { memory with
        ledger := IntentIdempotencyLedger.remember memory.ledger intent memory.now fingerprint
          response }
      (Function.update phases i (.call intent (.finished placed))) (history ++ later) := by
  have hnone : ∀ j, ¬ (Function.update phases i (.call intent (.finished placed)) j).live := by
    intro j hj
    by_cases hij : j = i
    · subst hij
      rw [Function.update_self] at hj
      exact hj
    · rw [Function.update_of_ne hij] at hj
      exact hij (h.live_unique j i hj hlive)
  have honly : ∀ j, (Function.update phases i (.call intent (.finished placed)) j).finished →
      j = i := by
    intro j hj
    by_contra hij
    rw [Function.update_of_ne hij] at hj
    obtain ⟨entry, hentry⟩ := h.entry j hj
    exact h.idle entry hentry i hlive
  refine ⟨fun j _ hj => absurd hj (hnone j), fun j k hj hk => (honly j hj).trans (honly k hk).symm,
    ?_, fun _ _ j => hnone j, ?_, ?_⟩
  · intro _ _
    exact ⟨_, Rows.get?_set_self _ _ _⟩
  · intro entry hentry
    obtain rfl := Option.some.inj ((Rows.get?_set_self _ _ _).symm.trans hentry)
    exact ⟨i, List.mem_append_right _ hlater⟩
  · intro j called given hj
    have hbefore : phases j = .call called (.closed (some given)) :=
      of_update (P := fun phase => phase = .call called (.closed (some given)))
        (fun hi => by cases hi) hj
    obtain ⟨k, hk⟩ := h.replayed j called given hbefore
    exact ⟨k, List.mem_append_left _ hk⟩

/-- A look at the ledger, where nothing remembered has expired and no other call is live. -/
private theorem Guarded.evaluate (h : Guarded intent memory phases history)
    (halive : ∀ entry, memory.ledger.get? intent.intentId = some entry →
      memory.now < entry.expiresAt)
    (hothers : ∀ j ≠ i, ¬ (phases j).live) (later : List (ℕ × Note)) :
    Guarded intent
      { memory with
        ledger := (IntentIdempotencyLedger.evaluate memory.ledger intent memory.now).2 }
      (Function.update phases i (.call intent (CallPhase.next js .fresh (.evaluate intent)
        (.ok (IntentIdempotencyLedger.evaluate memory.ledger intent memory.now).1))))
      (history ++ later) := by
  cases hentry : memory.ledger.get? intent.intentId with
  | some entry =>
    have hkept : (IntentIdempotencyLedger.evaluate memory.ledger intent memory.now).2.get?
        intent.intentId = some entry :=
      IntentIdempotencyLedger.get?_evaluate hentry (halive entry hentry)
    have hdecision : (IntentIdempotencyLedger.evaluate memory.ledger intent memory.now).1 =
        .conflict ∨ (IntentIdempotencyLedger.evaluate memory.ledger intent memory.now).1 =
        .replay entry.response := by
      have hpruned : (IntentIdempotencyLedger.prune memory.ledger memory.now).get?
          intent.intentId = some entry := hkept
      simp only [IntentIdempotencyLedger.evaluate, hpruned]
      split_ifs
      · exact Or.inl rfl
      · exact Or.inr rfl
    rcases hdecision with hconflict | hreplay
    · rw [hconflict]
      apply h.frame (hkept.trans hentry.symm) False.elim id
      rintro called response ⟨⟩
    · rw [hreplay]
      apply h.frame (hkept.trans hentry.symm) False.elim id
      intro called response hi
      obtain ⟨-, hclosed⟩ := Phase.call.inj hi
      obtain rfl := Option.some.inj (CallPhase.closed.inj hclosed)
      exact h.remembered entry hentry
  | none =>
    have hpruned : (IntentIdempotencyLedger.prune memory.ledger memory.now).get?
        intent.intentId = none := by
      rw [IntentIdempotencyLedger.prune, Rows.get?_filter, hentry]
      rfl
    have hdecision : (IntentIdempotencyLedger.evaluate memory.ledger intent memory.now).1 =
        .new (intentFingerprint intent) := by
      simp only [IntentIdempotencyLedger.evaluate, hpruned]
    rw [hdecision]
    have hlive : ∀ j, (Function.update phases i (.call intent .open) j).live → j = i := by
      intro j hj
      by_contra hij
      rw [Function.update_of_ne hij] at hj
      exact hothers j hij hj
    have hended : ∀ j, ¬ (Function.update phases i (.call intent .open) j).finished := by
      intro j hj
      have hbefore : (phases j).finished := of_update (P := Phase.finished) False.elim hj
      obtain ⟨entry, hsome⟩ := h.entry j hbefore
      rw [hentry] at hsome
      cases hsome
    refine ⟨fun j k hj hk => (hlive j hj).trans (hlive k hk).symm,
      fun j _ hj => absurd hj (hended j), fun j hj => absurd hj (hended j), ?_, ?_, ?_⟩
    · intro entry hsome
      cases hpruned.symm.trans hsome
    · intro entry hsome
      cases hpruned.symm.trans hsome
    · intro j called response hj
      have hbefore : phases j = .call called (.closed (some response)) :=
        of_update (P := fun phase => phase = .call called (.closed (some response)))
          (fun hi => by cases hi) hj
      obtain ⟨k, hk⟩ := h.replayed j called response hbefore
      exact ⟨k, List.mem_append_left _ hk⟩

/-- The ledger is consulted first, for the intent of the call. -/
private theorem fresh_of_may {evaluated : TradeIntent} (hmay : phase.may (.evaluate evaluated)) :
    phase = .call evaluated .fresh := by
  cases phase with
  | call called callPhase =>
    cases callPhase with
    | fresh => rw [show evaluated = called from hmay]
    | _ => exact False.elim hmay
  | info infoPhase => cases infoPhase <;> exact False.elim hmay
  | _ => exact False.elim hmay

/-- A response is remembered by a live call, which ends with it. -/
private theorem remember_of_may {remembered : TradeIntent} {fingerprint : IntentFingerprint}
    {response : IntentResponse} {answer : Except String Unit}
    (hmay : phase.may (.remember remembered fingerprint response))
    (hcalled : ∀ called callPhase, phase = .call called callPhase → called = intent) :
    remembered = intent ∧ phase.live ∧ ∃ placed,
      phase.next js (.remember remembered fingerprint response) answer =
        .call intent (.finished placed) := by
  cases phase with
  | call called callPhase =>
    obtain rfl := hcalled called callPhase rfl
    cases callPhase <;> first
      | exact False.elim hmay
      | exact ⟨hmay.1, trivial, _, rfl⟩
  | info infoPhase => cases infoPhase <;> exact False.elim hmay
  | _ => exact False.elim hmay

private theorem Guarded.move
    (hmove :
      Isolate.Move (host js env round) (protocol js) memory (phases i) op answer memory' phase')
    (hassigned : Assigned intent memory phases history) (h : Guarded intent memory phases history)
    (hevaluate : (∃ evaluated, op = .evaluate evaluated) →
      (∀ entry, memory.ledger.get? intent.intentId = some entry → memory.now < entry.expiresAt) ∧
        ∀ j ≠ i, ¬ (phases j).live) :
    Guarded intent memory' (Function.update phases i phase')
      (history ++ (note op answer memory).map (i, ·)) := by
  have hphase : phase' = (phases i).next js op answer := hmove.leads
  have hmay := hmove.may
  have hstate := hmove.state_eq
  have hframe : (∀ evaluated, op ≠ .evaluate evaluated) → (∀ r f p, op ≠ .remember r f p) →
      memory'.ledger = memory.ledger → Guarded intent memory' (Function.update phases i phase')
        (history ++ (note op answer memory).map (i, ·)) := by
    intro hlook hremember hledger
    rw [hphase]
    exact h.frame (by rw [hledger]) (live_of_next hlook hmay) (not_finished_next hremember hmay)
      (fun _ _ hclosed => absurd hclosed (not_replayed_next hlook hmay)) _
  cases op with
  | evaluate evaluated =>
    obtain ⟨halive, hothers⟩ := hevaluate ⟨evaluated, rfl⟩
    have hanswer := hmove.answer_eq rfl
    have hfresh := fresh_of_may hmay
    obtain rfl := hassigned.same i _ _ hfresh
    rw [hphase, hstate, hanswer, hfresh]
    exact h.evaluate halive hothers _
  | remember remembered fingerprint response =>
    obtain ⟨rfl, hlive, placed, hnext⟩ :=
      @remember_of_may js intent _ remembered fingerprint response answer hmay (hassigned.same i)
    rw [hphase, hnext, hstate]
    exact h.remember hlive _ (List.mem_map_of_mem (List.mem_singleton_self _))
  | configureRuntimeRateLimits =>
    refine hframe (fun _ h => by cases h) (fun _ _ _ h => by cases h) ?_
    rw [hstate]
    show (serve js env round .configureRuntimeRateLimits memory).2.ledger = _
    simp only [serve]
    split_ifs <;> rfl
  | _ =>
    refine hframe (fun _ h => by cases h) (fun _ _ _ h => by cases h) ?_
    rw [hstate]
    rfl

/-! ## Runs of calls that do not overlap -/

/-- No call was made for the intent yet. -/
def Unknown (intent : TradeIntent) (memory : Memory) : Prop :=
  memory.ledger.get? intent.intentId = none ∧ memory.scheduled = []

/-- The events of calls for one intent within the ledger's time to live, of which none consults
the ledger while another one is between its look and its response. -/
def SerialCalls (js : Runtime) (env : Env) (round : ℚ → ℚ) (intent : TradeIntent)
    (isolate : ExecutionIsolate)
    (event : ExecutionEvent) : Prop :=
  (ofIntent intent isolate event && withinTtl js env round intent isolate event &&
    isSerial js env round intent isolate event) = true

/-- A call in its first phase has left the memory as it was at the last event. -/
private def Untouched (before memory : Memory) (phase : Phase) : Prop :=
  ∀ called, phase = .call called .fresh → memory = before

private theorem Untouched.move {before : Memory} {phase phase' : Phase}
    (hmove : Isolate.Move (host js env round) (protocol js) memory phase op answer memory' phase')
    (h : Untouched before memory phase) : Untouched before memory' phase' := by
  intro called hfresh
  have hphase : phase' = phase.next js op answer := hmove.leads
  have hmay := hmove.may
  rw [hphase] at hfresh
  have hstate := hmove.state_eq
  cases phase with
  | call called' callPhase =>
    cases callPhase <;> cases op <;> first
      | exact False.elim hmay
      | cases hfresh
      | exact hstate.trans (h _ rfl)
      | (rcases answer with _ | _ | _ <;> cases hfresh)
  | _ => cases hfresh

private theorem mem_consulting {isolate : ExecutionIsolate} {event : ExecutionEvent} {i : ℕ} :
    i ∈ consulting js env round isolate event ↔
      (i, Note.evaluated) ∈ news (setting js env round) isolate event := by
  simp only [consulting, List.mem_map, List.mem_filter, Prod.exists, exists_and_right,
    exists_eq_right]
  constructor
  · rintro ⟨note, hmem, hnote⟩
    cases note <;> first | exact hmem | cases hnote
  · exact fun hmem => ⟨.evaluated, hmem, rfl⟩

/-- Where a call consults the ledger, no other call is live. -/
private theorem not_live_of_isSerial {isolate : ExecutionIsolate} {event : ExecutionEvent}
    (hserial : isSerial js env round intent isolate event = true)
    (hconsulting : i ∈ consulting js env round isolate event) {j : ℕ} (hij : j ≠ i) {phase : Phase}
    (hnotes : CallNotes intent.intentId phase (trail isolate.history j))
    (hfollows : ∀ request p, isolate.threads[j]? = some (request, p) →
      p.Follows (protocol js) Phase.ends phase) : ¬ phase.live := by
  intro hlive
  have hconsulted : (j, Note.evaluated) ∈ isolate.history :=
    Isolate.mem_trail.mp (hnotes.consulted hlive)
  have hended : hasEnded intent isolate j = true := by
    have hall := List.all_eq_true.mp (List.all_eq_true.mp hserial i hconsulting) _ hconsulted
    simpa [Note.isEvaluated, hij] using hall
  unfold hasEnded at hended
  split at hended
  · rename_i request response hthread
    have hends : phase.ends (.ok response) := hfollows request _ hthread
    cases phase with
    | call called callPhase =>
      cases callPhase <;> first
        | exact False.elim hlive
        | (cases response <;> exact False.elim hends)
    | _ => exact False.elim hlive
  · rename_i request e hthread
    have hends : phase.ends (.error e) := hfollows request _ hthread
    -- A call that has thrown and is live has sent its order.
    have hsent : phase.hasSent := by
      cases phase with
      | call called callPhase =>
        cases callPhase <;> first
          | exact False.elim hlive
          | exact False.elim hends
          | trivial
      | _ => exact False.elim hlive
    apply hnotes.sent hsent
    rw [orderCount, List.countP_eq_zero]
    intro sent hmem
    simpa using List.all_eq_true.mp hended sent hmem
  · cases hended

private theorem invariant_start {memory : Memory} (h : Unknown intent memory) :
    Assigned intent memory (fun _ => .absent) [] ∧ Guarded intent memory (fun _ => .absent) [] := by
  obtain ⟨hnone, hscheduled⟩ := h
  constructor
  · constructor
    · rintro i called callPhase ⟨⟩
    · intro slices hslices
      rw [hscheduled] at hslices
      cases hslices
    · rintro i orderIds ⟨⟩
    · exact fun i => ⟨False.elim, Nat.zero_le _, fun _ => rfl, False.elim⟩
  · constructor
    · exact fun i _ hi => False.elim hi
    · exact fun i _ hi => False.elim hi
    · exact fun i hi => False.elim hi
    · exact fun entry hentry _ => id
    · intro entry hentry
      rw [hnone] at hentry
      cases hentry
    · rintro i called response ⟨⟩

private theorem invariant_birth {isolate : ExecutionIsolate} {phase : ℕ → Phase} {n : ℕ}
    {request : Request} (hevent : SerialCalls js env round intent isolate (.start request))
    (hn : phase n = .absent) (hassigned : Assigned intent isolate.state phase isolate.history)
    (hguarded : Guarded intent isolate.state phase isolate.history) :
    Assigned intent isolate.state (Function.update phase n request.phase) isolate.history ∧
      Guarded intent isolate.state (Function.update phase n request.phase) isolate.history := by
  have hof : ofIntent intent isolate (.start request) = true := by
    simp only [SerialCalls, Bool.and_eq_true] at hevent
    exact hevent.1.1
  have hunsent : orderCount intent.intentId (trail isolate.history n) = 0 := by
    have hnotes := hassigned.notes n
    rw [hn] at hnotes
    exact hnotes.unsent id
  have hphase : ¬ request.phase.live ∧ ¬ request.phase.finished ∧ ¬ request.phase.hasSent ∧
      ∀ called response, request.phase ≠ .call called (.closed (some response)) := by
    cases request with
    | execute started =>
      refine ⟨id, id, id, ?_⟩
      rintro called response ⟨⟩
    | info => exact ⟨id, id, id, fun _ _ h => by cases h⟩
    | twap slices => exact ⟨id, id, id, fun _ _ h => by cases h⟩
  obtain ⟨hlive, hfinished, hanswered, hreplayed⟩ := hphase
  constructor
  · refine ⟨fun j called callPhase hj => ?_, hassigned.scheduled, fun j orderIds hj => ?_,
      fun j => ?_⟩
    · by_cases hjn : j = n
      · subst hjn
        rw [Function.update_self] at hj
        cases request with
        | execute started =>
          obtain ⟨rfl, -⟩ := Phase.call.inj hj
          simpa [ofIntent] using hof
        | info => cases hj
        | twap slices => cases hj
      · rw [Function.update_of_ne hjn] at hj
        exact hassigned.same j called callPhase hj
    · by_cases hjn : j = n
      · subst hjn
        rw [Function.update_self] at hj
        cases request with
        | execute started => cases hj
        | info => cases hj
        | twap slices =>
          obtain rfl := Phase.twap.inj hj
          have hscheduled : slices ∈ isolate.state.scheduled := by
            simpa [ofIntent] using hof
          intro hmem
          obtain ⟨slice, hslice, hid⟩ := List.mem_map.mp hmem
          exact hassigned.scheduled slices hscheduled slice hslice hid
      · rw [Function.update_of_ne hjn] at hj
        exact hassigned.sliced j orderIds hj
    · by_cases hjn : j = n
      · subst hjn
        rw [Function.update_self]
        exact ⟨fun h => absurd h hlive, by omega, fun _ => hunsent, fun h => absurd h hanswered⟩
      · rw [Function.update_of_ne hjn]
        exact hassigned.notes j
  · have hframe : Guarded intent isolate.state (Function.update phase n request.phase)
        (isolate.history ++ []) :=
      hguarded.frame rfl (fun h => absurd h hlive) hfinished
        (fun _ _ h => absurd h (hreplayed _ _)) []
    rwa [List.append_nil] at hframe

/-- Every call of a run keeps the invariant. -/
private theorem reaches_guarded {isolate : ExecutionIsolate}
    (hreach :
      Reaches (setting js env round) (SerialCalls js env round intent) (Unknown intent) isolate) :
    ∃ phase, isolate.Tracks (protocol js) Phase.ends phase ∧
      Assigned intent isolate.state phase isolate.history ∧
      Guarded intent isolate.state phase isolate.history := by
  obtain ⟨phase, htracks, -, hinvariant⟩ := hreach.invariant_since (keeps_host js env round)
    follows_program (J := Untouched) (fun _ _ _ _ => rfl)
    (fun _ _ _ _ _ _ _ hmove h => h.move hmove)
    (I := fun memory phase history =>
      Assigned intent memory phase history ∧ Guarded intent memory phase history)
    (fun memory h => invariant_start h)
    (fun isolate ms phase _ h => by
      obtain ⟨hassigned, hguarded⟩ := h
      exact ⟨⟨hassigned.same, hassigned.scheduled, hassigned.sliced, hassigned.notes⟩,
        ⟨hguarded.live_unique, hguarded.finished_unique, hguarded.entry, hguarded.idle,
          hguarded.remembered, hguarded.replayed⟩⟩)
    (fun isolate phase n request hevent hn h => invariant_birth hevent hn h.1 h.2)
    (fun isolate event i memory phase recent op answer memory' phase' hevent hothers hmove hnews
        huntouched h => by
      obtain ⟨hassigned, hguarded⟩ := h
      rw [List.map_append, ← List.append_assoc]
      refine ⟨hassigned.move hmove, hguarded.move hmove hassigned ?_⟩
      rintro ⟨evaluated, rfl⟩
      have hconsulting : i ∈ consulting js env round isolate event :=
        mem_consulting.mpr (hnews _ (List.mem_singleton_self _))
      simp only [SerialCalls, Bool.and_eq_true] at hevent
      obtain ⟨⟨-, hwithin⟩, hserial⟩ := hevent
      obtain rfl : memory = isolate.state := by
        exact huntouched evaluated (fresh_of_may hmove.may)
      constructor
      · intro entry hentry
        have hall := List.all_eq_true.mp hwithin i hconsulting
        rw [hentry] at hall
        simpa using hall
      · intro j hij
        have hnotes := hassigned.notes j
        rw [Isolate.trail_append, Isolate.trail_map_of_ne (Ne.symm hij), List.append_nil] at hnotes
        exact not_live_of_isSerial hserial hconsulting hij hnotes (hothers j hij))
  exact ⟨phase, htracks, hinvariant⟩

/-- One call alone is live or has ended in the ledger. -/
private theorem Guarded.engaged_unique (h : Guarded intent memory phases history) {i j : ℕ}
    (hi : (phases i).live ∨ (phases i).finished) (hj : (phases j).live ∨ (phases j).finished) :
    i = j := by
  have hapart : ∀ i j, (phases i).live → ¬ (phases j).finished := by
    intro i j hlive hfinished
    obtain ⟨entry, hentry⟩ := h.entry j hfinished
    exact h.idle entry hentry i hlive
  rcases hi with hi | hi <;> rcases hj with hj | hj
  · exact h.live_unique i j hi hj
  · exact absurd hj (hapart i j hi)
  · exact absurd hi (hapart j i hj)
  · exact h.finished_unique i j hi hj

/-- A call that answered without being live before gave a remembered response or a quiet one. -/
private theorem response_of_ends {phase : Phase} {response : IntentResponse}
    (hends : phase.ends (.ok (some response))) (hfinished : ¬ phase.finished) :
    response.body.isQuiet ∨ ∃ called original, phase = .call called (.closed (some original)) ∧
      response = ⟨original.status, .replay original.body⟩ := by
  cases phase with
  | call called callPhase =>
    cases callPhase with
    | closed replayed =>
      cases replayed with
      | none => exact Or.inl hends
      | some original => exact Or.inr ⟨called, original, rfl, hends⟩
    | finished placed => exact absurd trivial hfinished
    | _ => exact False.elim hends
  | _ => exact False.elim hends

/-- In every run of calls for one intent that do not overlap between their look at the ledger
and their response, one order is sent for the intent, and every other call answers with what was
remembered or reports no new order. -/
theorem submittedOnce_of_serialCalls {isolate : ExecutionIsolate}
    (hreach :
      Reaches (setting js env round) (SerialCalls js env round intent) (Unknown intent) isolate) :
    SubmittedOnce intent isolate := by
  obtain ⟨phase, htracks, hassigned, hguarded⟩ := reaches_guarded hreach
  obtain ⟨first, hfirst⟩ : ∃ first, ∀ i, (phase i).live ∨ (phase i).finished → i = first := by
    by_cases hengaged : ∃ i, (phase i).live ∨ (phase i).finished
    · obtain ⟨first, h⟩ := hengaged
      exact ⟨first, fun i hi => hguarded.engaged_unique hi h⟩
    · exact ⟨0, fun i hi => absurd ⟨i, hi⟩ hengaged⟩
  have hsender : ∀ entry ∈ isolate.history, entry.2.isOrderOf intent.intentId = true →
      entry.1 = first := by
    rintro ⟨i, sent⟩ hmem hsent
    apply hfirst
    apply live_or_finished
    by_contra hunsent
    have hnone := (hassigned.notes i).unsent hunsent
    exact List.countP_eq_zero.mp hnone sent (Isolate.mem_trail.mpr hmem) hsent
  refine ⟨?_, first, hsender, ?_⟩
  · calc isolate.history.countP (fun entry => entry.2.isOrderOf intent.intentId)
        ≤ isolate.history.countP (fun entry =>
            entry.2.isOrderOf intent.intentId && entry.1 == first) := by
          apply List.countP_mono_left
          intro entry hmem hsent
          rw [hsent, hsender entry hmem hsent]
          simp
      _ = orderCount intent.intentId (trail isolate.history first) := by
          rw [orderCount, trail, List.countP_map, List.countP_filter]
          rfl
      _ ≤ 1 := (hassigned.notes first).once
  · intro i hi request response hthread
    have hends : (phase i).ends (.ok (some response)) := htracks i request _ hthread
    have hfinished : ¬ (phase i).finished := fun h => hi (hfirst i (Or.inr h))
    rcases response_of_ends hends hfinished with hquiet | ⟨called, original, hclosed, hresponse⟩
    · exact Or.inl hquiet
    · exact Or.inr ⟨original, hresponse, hguarded.replayed i called original hclosed⟩

private abbrev jsSubmission : Runtime := JavaScript.reference .exact

private def submissionAnswer : ℕ → ExecutionEvent :=
  fun i => .resume i (sampleAnswer (some [("status", .string "NEW")]))

private def submissionIsolate (events : List ExecutionEvent) : ExecutionIsolate :=
  events.foldl (Isolate.after (setting jsSubmission sampleEnv id))
    ⟨sampleMemory 10 1 (10, 10), [], []⟩

/-- The second call begins when the first has ended. -/
private def serialRun : List ExecutionEvent :=
  .start (.execute sampleIntent) :: List.replicate 6 (submissionAnswer 0) ++
    .start (.execute sampleIntent) :: List.replicate 2 (submissionAnswer 1)

/-- The second call consults the ledger while the first awaits its signed request. -/
private def overlappingRun : List ExecutionEvent :=
  [.start (.execute sampleIntent), submissionAnswer 0, submissionAnswer 0,
    .start (.execute sampleIntent), submissionAnswer 1, submissionAnswer 1] ++
    List.replicate 4 (submissionAnswer 0) ++ List.replicate 4 (submissionAnswer 1)

private theorem reaches_submissionIsolate {condition : ExecutionIsolate → ExecutionEvent → Prop}
    (events : List ExecutionEvent)
    (hevents : Isolate.Along (setting jsSubmission sampleEnv id) condition events
      ⟨sampleMemory 10 1 (10, 10), [], []⟩) :
    Reaches (setting jsSubmission sampleEnv id) condition (Unknown sampleIntent)
      (submissionIsolate events) :=
  Reaches.along (Reaches.start _ ⟨rfl, rfl⟩) hevents

instance (isolate : ExecutionIsolate) (event : ExecutionEvent) :
    Decidable (SerialCalls jsSubmission sampleEnv id sampleIntent isolate event) :=
  inferInstanceAs (Decidable (_ = true))

/-- The second call replays what the first one sent. -/
theorem serialRun_submittedOnce :
    (submissionIsolate serialRun).history.countP (fun entry => entry.2.isOrderOf "order") = 1 ∧
      SubmittedOnce sampleIntent (submissionIsolate serialRun) :=
  ⟨by decide +kernel, submittedOnce_of_serialCalls
    (@reaches_submissionIsolate (SerialCalls jsSubmission sampleEnv id sampleIntent)
      serialRun (by decide +kernel))⟩

/-- The second call begins when the first has thrown at an answer that cannot be read. -/
private def unreadRun : List ExecutionEvent :=
  let unread := some [("executedQty", .object [("toString", .null)])]
  .start (.execute sampleIntent) :: List.replicate 6 (.resume 0 (sampleAnswer unread)) ++
    .start (.execute sampleIntent) :: List.replicate 6 (.resume 1 (sampleAnswer unread))

private theorem not_submittedOnce {isolate : ExecutionIsolate}
    (h : isolate.history.countP (fun entry => entry.2.isOrderOf sampleIntent.intentId) = 2) :
    ¬SubmittedOnce sampleIntent isolate := by
  intro honce
  have := honce.orders
  omega

/-- A run of calls for one intent within the time to live that sends it twice. -/
private def SubmitsTwice (events : List ExecutionEvent) : Prop :=
  Reaches (setting jsSubmission sampleEnv id)
      (fun isolate event => (ofIntent sampleIntent isolate event &&
        withinTtl jsSubmission sampleEnv id sampleIntent isolate event) = true)
      (Unknown sampleIntent) (submissionIsolate events) ∧
    ¬SubmittedOnce sampleIntent (submissionIsolate events)

/-- Two calls for one intent both find it new and both send it: where they overlap, and where the
first one throws at the answer. -/
theorem overlapping_calls_submit_twice : SubmitsTwice overlappingRun ∧ SubmitsTwice unreadRun :=
  ⟨⟨reaches_submissionIsolate overlappingRun (by decide +kernel),
      not_submittedOnce (by decide +kernel)⟩,
    reaches_submissionIsolate unreadRun (by decide +kernel),
      not_submittedOnce (by decide +kernel)⟩

end Yevow.Execution
