import Yevow.Models.Execution.Protocol

/-!
# The executioner keeps to its protocol

Every function of the executioner, from the exits up to `executeIntent`, goes through the
phases of the protocol, whatever its awaited calls answer.
-/

namespace Yevow.Execution

open JavaScript (Runtime)

variable {js : Runtime} {env : Env} {intent : TradeIntent} {α β : Type}

/-- From a phase of the call for an intent on, a task keeps to the protocol and ends in a phase
that its result allows. -/
abbrev Leads (js : Runtime) (intent : TradeIntent) (phase : CallPhase) (task : Task α)
    (Q : Except String α → CallPhase → Prop) : Prop :=
  task.Follows (protocol js)
    (fun k result => ∃ phase', k = .call intent phase' ∧ Q result phase') (.call intent phase)

/-- The task ends as a call may end. -/
abbrev Conforms (js : Runtime) (intent : TradeIntent) (phase : CallPhase)
    (task : Task IntentResponse) : Prop :=
  Leads js intent phase task fun result phase' => phase'.ends result

private theorem Leads.bind {phase : CallPhase} {task : Task α} {f : α → Task β}
    {Q : Except String α → CallPhase → Prop} {R : Except String β → CallPhase → Prop}
    (htask : Leads js intent phase task Q)
    (hok : ∀ a phase', Q (.ok a) phase' → Leads js intent phase' (f a) R)
    (herror : ∀ e phase', Q (.error e) phase' → R (.error e) phase') :
    Leads js intent phase (task >>= f) R := by
  apply Program.Follows.bind
  apply htask.mono
  rintro k result ⟨phase', rfl, hQ⟩
  cases result with
  | ok a => exact hok a phase' hQ
  | error e => exact ⟨phase', rfl, herror e phase' hQ⟩

private theorem Leads.attempt {phase : CallPhase} {task : Task α}
    {Q : Except String (Except String α) → CallPhase → Prop}
    (htask : Leads js intent phase task fun result phase' => Q (.ok result) phase') :
    Leads js intent phase task.attempt Q :=
  Program.Follows.attempt htask

private theorem leads_done {phase : CallPhase} {result : Except String α}
    {Q : Except String α → CallPhase → Prop} (h : Q result phase) :
    Leads js intent phase (.done result) Q := ⟨phase, rfl, h⟩

/-- A call served at once and what comes after it. -/
private theorem leads_serve {phase : CallPhase} {op : Op} {f : op.Ret → Task β}
    {R : Except String β → CallPhase → Prop} (hop : op.awaited = false)
    (hmay : phase.may intent op)
    (hok : ∀ a, op.Expects (.ok a) → Leads js intent (phase.next js op (.ok a)) (f a) R) :
    Leads js intent phase (ask op >>= f) R :=
  follows_serve (k := .call intent phase) hop hmay hok

/-- An awaited call and what comes after it. -/
private theorem leads_await {phase : CallPhase} {op : Op} {f : op.Ret → Task β}
    {R : Except String β → CallPhase → Prop} (hmay : phase.may intent op)
    (hok : ∀ a, Leads js intent (phase.next js op (.ok a)) (f a) R)
    (herror : ∀ e, R (.error e) (phase.next js op (.error e))) :
    Leads js intent phase (ask op >>= f) R :=
  follows_await (k := .call intent phase) hmay (fun a _ => hok a)
    (fun e => ⟨_, rfl, herror e⟩)

/-! ## Exits -/

private theorem conforms_respond {phase : CallPhase} {placed : Bool} {status : ℕ}
    {body : ResponseBody}
    (hmay : ∀ response, phase.may intent (.remember intent (intentFingerprint intent) response))
    (hnext : ∀ response, phase.next js
      (.remember intent (intentFingerprint intent) response) (.ok ()) = .finished placed)
    (hquiet : placed = false → body.isQuiet) :
    Conforms js intent phase (respond intent (intentFingerprint intent) status body) := by
  apply leads_serve rfl (hmay _)
  intro _ _
  rw [hnext]
  exact leads_done hquiet

private theorem conforms_reject {phase : CallPhase} {placed : Bool} {rejection : Rejection}
    (hmay : phase.may intent (.forwardReport (rejectedReport intent rejection)))
    (hnext : phase.next js (.forwardReport (rejectedReport intent rejection)) (.ok ()) =
      .closing placed) :
    Conforms js intent phase (reject intent (intentFingerprint intent) rejection) := by
  apply leads_serve rfl hmay
  intro _ _
  rw [hnext]
  exact conforms_respond (fun _ => ⟨rfl, rfl⟩) (fun _ => rfl) fun _ => trivial

private theorem conforms_reject_open (rejection : Rejection) :
    Conforms js intent .open (reject intent (intentFingerprint intent) rejection) :=
  conforms_reject rfl rfl

private theorem conforms_reject_granted (rejection : Rejection) :
    Conforms js intent .granted (reject intent (intentFingerprint intent) rejection) :=
  conforms_reject rfl rfl

private theorem conforms_reject_failed (rejection : Rejection) :
    Conforms js intent .failed (reject intent (intentFingerprint intent) rejection) :=
  conforms_reject rfl rfl

/-! ## Orders -/

private theorem leads_prepareOrderRequest {phase : CallPhase} {prepared : TradeIntent}
    {Q : Except String PreparedExchangeRequest → CallPhase → Prop}
    (hmay : ∀ adapter, phase.may intent (.prepareOrderRequest adapter prepared))
    (hnext : ∀ adapter answer,
      phase.next js (.prepareOrderRequest adapter prepared) answer = phase)
    (h : ∀ result, Q result phase) :
    Leads js intent phase (prepareOrderRequest env prepared) Q := by
  unfold prepareOrderRequest
  split
  · exact leads_done (h _)
  · rename_i adapter _
    refine ⟨hmay adapter, fun answer _ => ⟨_, rfl, phase, ?_, h answer⟩⟩
    exact congrArg (Phase.call intent) (hnext adapter answer)

/-- An order that is sent is answered by a body, or its sending fails. -/
private theorem leads_sendOrder {phase underway : CallPhase} {kind : OrderKind} {orderId : String}
    {request : PreparedExchangeRequest}
    {Q : Except String (ResponseHead × Body) → CallPhase → Prop}
    (hmay : phase.may intent (.sendOrder kind orderId request))
    (hsent : phase.next js (.sendOrder kind orderId request) (.ok ()) = underway)
    (hresponse : underway.may intent .response)
    (hjson : ∀ response, underway.may intent (.safeJson response))
    (hok : ∀ response, underway.next js .response (.ok response) = underway)
    (hread : ∀ response body,
      Q (.ok (response, body)) (underway.next js (.safeJson response) (.ok body)))
    (hlost : ∀ e, Q (.error e) (underway.next js .response (.error e)))
    (hunread : ∀ response e, Q (.error e) (underway.next js (.safeJson response) (.error e))) :
    Leads js intent phase (sendOrder kind orderId request) Q := by
  apply leads_serve rfl hmay
  intro _ _
  rw [hsent]
  apply leads_await hresponse _ hlost
  intro response
  rw [hok]
  exact leads_await (hjson response) (fun body => leads_done (hread response body))
    (hunread response)

private theorem leads_localResponse {phase : CallPhase} {fields : JavaScript.Json.Fields}
    {Q : Except String (ResponseHead × Body) → CallPhase → Prop}
    (hmay : phase.may intent .localJson)
    (hok : Q (.ok (⟨200⟩, some fields)) (phase.next js .localJson (.ok ())))
    (herror : ∀ e, Q (.error e) (phase.next js .localJson (.error e))) :
    Leads js intent phase (localResponse fields) Q :=
  leads_await hmay (fun _ => leads_done hok) herror

/-- What a local response says can be read. -/
private theorem reading_testAccepted : reading js ⟨200⟩ (some testAccepted) = some (.finite 0) :=
  rfl

private theorem reading_hyperliquidTestBody :
    reading js ⟨200⟩ (some (hyperliquidTestBody intent)) = some (.finite 0) := rfl

/-- The phases after an order is sent or tried out. -/
private def OrderAnswered (js : Runtime) : Except String (ResponseHead × Body) → CallPhase → Prop
  | .ok (response, body), phase => phase = .received (reading js response body) ∨
      phase = .answered ∧ reading js response body ≠ none
  | .error _, phase => phase = .failed

private theorem leads_single (request : PreparedExchangeRequest) :
    Leads js intent .granted
      (if env.isTestedBy .hyperliquid then localResponse (hyperliquidTestBody intent)
        else sendOrder .single intent.intentId request) (OrderAnswered js) := by
  split_ifs
  · refine leads_localResponse trivial (Or.inr ⟨rfl, ?_⟩) fun _ => rfl
    rw [reading_hyperliquidTestBody]
    exact Option.some_ne_none _
  · exact leads_sendOrder ⟨rfl, rfl⟩ rfl trivial (fun _ => trivial) (fun _ => rfl)
      (fun _ _ => Or.inl rfl) (fun _ => rfl) fun _ _ => rfl

/-- The phases after a retry is sent or tried out. -/
private def RetryAnswered (js : Runtime) : Except String (ResponseHead × Body) → CallPhase → Prop
  | .ok (response, body), phase => phase = .retryReceived (reading js response body) ∨
      phase = .retryAnswered ∧ reading js response body ≠ none
  | .error _, phase => phase = .retried

/-- The phases in which a retry leaves its call. -/
private def RetryEnded (phase : CallPhase) : Prop :=
  phase = .reported ∨ phase = .retried ∨ phase = .retryReceived none

private theorem leads_reportRetry {retryIntent : TradeIntent} {task : Task (ResponseHead × Body)}
    (hid : retryIntent.intentId = stopRetryId intent)
    (htask : Leads js intent .reported task (RetryAnswered js)) :
    Leads js intent .reported
      (do
        let answered ← task
        let retryReport ← .done (toExecutionReport js retryIntent answered.1 answered.2)
        ask (.forwardReport retryReport)
        pure retryReport)
      fun _ phase => RetryEnded phase := by
  apply Leads.bind htask
  · rintro ⟨response, body⟩ phase hphase
    dsimp only
    rcases toExecutionReport_cases js retryIntent response body with
      ⟨report, hreport, hclient, hread⟩ | ⟨e, herror, hnone⟩
    · rw [hreport, Program.ok_bind]
      rcases hphase with rfl | ⟨rfl, -⟩
      · have hmay : (CallPhase.retryReceived (reading js response body)).may intent
            (.forwardReport report) := ⟨hclient.trans hid, hread⟩
        exact leads_serve rfl hmay fun _ _ => leads_done (Or.inr (Or.inl rfl))
      · have hmay : CallPhase.retryAnswered.may intent (.forwardReport report) := hclient.trans hid
        exact leads_serve rfl hmay fun _ _ => leads_done (Or.inr (Or.inl rfl))
    · rw [herror]
      rcases hphase with rfl | ⟨-, hreads⟩
      · rw [hnone]
        exact leads_done (Or.inr (Or.inr rfl))
      · exact absurd hnone hreads
  · rintro e _ rfl
    exact Or.inr (Or.inl rfl)

/-- The retry of a stop close sends at most one more order and reports its answer, if it can be
read. -/
private theorem leads_retryPartialStopClose (report : ExecutionReport) :
    Leads js intent .reported (retryPartialStopClose js env intent report) fun result phase =>
      (∃ retryReport, result = .ok retryReport) ∧ RetryEnded phase := by
  unfold retryPartialStopClose
  dsimp only
  generalize hretry : stopRetryIntent js intent
    ((Number.finite 0).max (intent.size.sub js.arithmetic.fraction report.filledSize)) = retryIntent
  have hid : retryIntent.intentId = stopRetryId intent := by
    rw [← hretry]
    rfl
  split
  · exact leads_done ⟨⟨_, rfl⟩, Or.inl rfl⟩
  · apply Leads.bind (Q := fun result phase =>
      (∃ retried, result = .ok retried) ∧ RetryEnded phase)
    · apply Leads.attempt
      apply Leads.bind (Q := fun _ phase => phase = .reported)
      · exact leads_prepareOrderRequest (fun _ => trivial) (fun _ _ => rfl) fun _ => rfl
      · rintro request _ rfl
        split
        · have hread : reading js ⟨200⟩ (some testAccepted) ≠ none := by
            rw [reading_testAccepted]
            exact Option.some_ne_none _
          apply (leads_reportRetry hid
            (leads_localResponse trivial (Or.inr ⟨rfl, hread⟩) fun _ => rfl)).mono
          rintro k result ⟨phase, rfl, hphase⟩
          exact ⟨phase, rfl, ⟨_, rfl⟩, hphase⟩
        · apply (leads_reportRetry hid
            (leads_sendOrder ⟨rfl, hid⟩ rfl trivial (fun _ => trivial) (fun _ => rfl)
              (fun _ _ => Or.inl rfl) (fun _ => rfl) fun _ _ => rfl)).mono
          rintro k result ⟨phase, rfl, hphase⟩
          exact ⟨phase, rfl, ⟨_, rfl⟩, hphase⟩
      · rintro e _ rfl
        exact ⟨⟨_, rfl⟩, Or.inl rfl⟩
    · rintro retried phase ⟨-, hphase⟩
      exact leads_done ⟨⟨_, rfl⟩, hphase⟩
    · rintro e phase ⟨⟨retried, hok⟩, -⟩
      cases hok

private theorem conforms_respond_reported {status : ℕ} {body : ResponseBody} :
    Conforms js intent .reported (respond intent (intentFingerprint intent) status body) :=
  conforms_respond (fun _ => ⟨rfl, rfl⟩) (fun _ => rfl) fun h => Bool.noConfusion h

private theorem conforms_respond_retried {status : ℕ} {body : ResponseBody} :
    Conforms js intent .retried (respond intent (intentFingerprint intent) status body) :=
  conforms_respond (fun _ => ⟨rfl, rfl⟩) (fun _ => rfl) fun h => Bool.noConfusion h

private theorem conforms_respond_unread {status : ℕ} {body : ResponseBody} :
    Conforms js intent (.retryReceived none)
      (respond intent (intentFingerprint intent) status body) :=
  conforms_respond (fun _ => ⟨rfl, rfl, rfl⟩) (fun _ => rfl) fun h => Bool.noConfusion h

/-- What the answer of the exchange is turned into, if it can be read. -/
private theorem conforms_answer {phase : CallPhase} {response : ResponseHead} {answer : Body}
    (hphase : OrderAnswered js (.ok (response, answer)) phase) {body : Body}
    (hbody : reading js response body = reading js response answer)
    {f : ExecutionReport → Task IntentResponse}
    (hf : ∀ report, Conforms js intent .reported (f report)) :
    Conforms js intent phase (do
      let report ← .done (toExecutionReport js intent response body)
      ask (.forwardReport report)
      f report) := by
  rcases toExecutionReport_cases js intent response body with
    ⟨report, hreport, hclient, hread⟩ | ⟨e, herror, hnone⟩
  · rw [hreport, Program.ok_bind]
    rcases hphase with rfl | ⟨rfl, -⟩
    · have hmay : (CallPhase.received (reading js response answer)).may intent
          (.forwardReport report) := ⟨hclient, hbody.symm.trans hread⟩
      exact leads_serve rfl hmay fun _ _ => hf report
    · have hmay : CallPhase.answered.may intent (.forwardReport report) := hclient
      exact leads_serve rfl hmay fun _ _ => hf report
  · rw [herror]
    rcases hphase with rfl | ⟨-, hreads⟩
    · exact leads_done (hbody.symm.trans hnone)
    · exact absurd (hbody.symm.trans hnone) hreads

/-- An order that is tried leaves a result, never an error. -/
private def Caught {α : Type} (Q : α → CallPhase → Prop) : Except String α → CallPhase → Prop
  | .ok a, phase => Q a phase
  | .error _, _ => False

private theorem leads_caught {phase : CallPhase} {task : Task α} {f : Except String α → Task β}
    {Q : Except String α → CallPhase → Prop} {R : Except String β → CallPhase → Prop}
    (htask : Leads js intent phase task Q)
    (hf : ∀ result phase', Q result phase' → Leads js intent phase' (f result) R) :
    Leads js intent phase (Program.attempt task >>= f) R := by
  apply Leads.bind (Q := Caught Q) (Leads.attempt htask) hf
  rintro e phase' ⟨⟩

/-- The test fields that `binance-us` adds are not among those that are read. -/
private theorem reading_binanceTestBody {response : ResponseHead} (hok : response.ok = true)
    (body : Body) : reading js response (binanceTestBody body) = reading js response body := by
  have hexecution : extractHyperliquidExecution js (binanceTestBody body) =
      extractHyperliquidExecution js body := by
    cases body <;> rfl
  have hsize : filledSize js (binanceTestBody body) = filledSize js body := by
    cases body <;> rfl
  have hprice : ∀ hyperliquid, achievedPrice js hyperliquid (binanceTestBody body) =
      achievedPrice js hyperliquid body := by
    intro hyperliquid
    cases body <;> rfl
  have hfees : extractFees js (binanceTestBody body) = extractFees js body := by
    cases body <;> rfl
  have hreason : ∀ hyperliquid, reportReason hyperliquid response (binanceTestBody body) =
      reportReason hyperliquid response body := by
    intro hyperliquid
    rw [reportReason, reportReason, if_pos hok, if_pos hok]
  unfold reading readAnswer
  simp only [hexecution, hsize, hprice, hfees, hreason]

private theorem conforms_submitOrder (request : PreparedExchangeRequest) :
    Conforms js intent .granted
      (submitOrder js env intent (intentFingerprint intent) request) := by
  apply leads_caught (leads_single request)
  intro answered phase hphase
  rcases answered with reason | ⟨response, answer⟩
  · obtain rfl : phase = .failed := hphase
    exact conforms_reject_failed _
  · have hbody : reading js response (if env.isTestedBy .binanceUs && response.ok
        then binanceTestBody answer else answer) = reading js response answer := by
      split_ifs with htested
      · exact reading_binanceTestBody (Bool.and_eq_true_iff.mp htested).2 answer
      · rfl
    dsimp only
    generalize (if env.isTestedBy .binanceUs && response.ok
        then binanceTestBody answer else answer) = body at hbody
    apply conforms_answer hphase hbody
    intro report
    split
    · exact conforms_respond_reported
    · split
      · apply Leads.bind (leads_retryPartialStopClose _)
        · rintro retryReport _ ⟨-, rfl | rfl | rfl⟩
          · exact conforms_respond_reported
          · exact conforms_respond_retried
          · exact conforms_respond_unread
        · rintro e _ ⟨⟨_, h⟩, -⟩
          cases h
      · exact conforms_respond_reported

/-! ## Checks -/

private theorem conforms_shadowOrder :
    Conforms js intent .granted
      (shadowOrder js env intent (intentFingerprint intent)) := by
  unfold shadowOrder
  have hforwarded : ∀ report status (body : ResponseBody), report.clientId = intent.intentId →
      report.status ≠ .rejected →
      Conforms js intent .granted (do
        ask (.forwardReport report)
        respond intent (intentFingerprint intent) status body) := by
    intro report status body hid hstatus
    have hmay : CallPhase.granted.may intent (.forwardReport report) := hid
    apply leads_serve rfl hmay
    intro _ _
    have hplaced : (report.status != .rejected) = true := by
      cases hstatus' : report.status <;> first | rfl | exact absurd hstatus' hstatus
    show Conforms js intent (.closing (report.status != .rejected)) _
    rw [hplaced]
    exact conforms_respond (fun _ => ⟨rfl, rfl⟩) (fun _ => rfl) fun h => Bool.noConfusion h
  split
  · exact hforwarded _ _ _ rfl (by simp [buildShadowRestingQuoteReport])
  · exact hforwarded _ _ _ rfl (by simp [buildGhostExecutionReport])

/-- A check that leaves a call in its phase. -/
private theorem conforms_validated {task : Task (Except Rejection Unit)}
    {f : Except Rejection Unit → Task IntentResponse} {phase : CallPhase}
    (htask : Leads js intent phase task fun result phase' =>
      (∃ decision, result = .ok decision) ∧ phase' = phase)
    (hf : ∀ decision, Conforms js intent phase (f decision)) :
    Conforms js intent phase (task >>= f) := by
  apply Leads.bind htask
  · rintro decision _ ⟨-, rfl⟩
    exact hf decision
  · rintro e _ ⟨⟨_, h⟩, -⟩
    cases h

private theorem leads_validatePreTrade (config : GlobalRiskConfig) :
    Leads js intent .granted (validatePreTrade js env intent config) fun result phase' =>
      (∃ decision, result = .ok decision) ∧ phase' = .granted := by
  apply leads_caught (Q := fun _ phase' => phase' = .granted)
  · exact ⟨trivial, fun answer _ => ⟨_, rfl, .granted, rfl, rfl⟩⟩
  · rintro snapshot _ rfl
    exact leads_done ⟨⟨_, rfl⟩, rfl⟩

private theorem conforms_dispatchOrder (config : GlobalRiskConfig) :
    Conforms js intent .granted
      (dispatchOrder js env config intent (intentFingerprint intent)) := by
  apply leads_caught (Q := fun _ phase => phase = .granted)
  · exact leads_prepareOrderRequest (fun _ => trivial) (fun _ _ => rfl) fun _ => rfl
  · rintro prepared _ rfl
    rcases prepared with reason | request
    · exact conforms_reject_granted _
    · dsimp only
      split
      · exact conforms_shadowOrder
      · apply conforms_validated (leads_validatePreTrade config)
        rintro (rejection | _)
        · exact conforms_reject_granted _
        · exact conforms_submitOrder request

private theorem conforms_reserveOrder (config : GlobalRiskConfig) :
    Conforms js intent .open
      (reserveOrder js env config intent (intentFingerprint intent)) := by
  have hconfigure : CallPhase.open.may intent .configureRuntimeRateLimits := trivial
  apply leads_serve rfl hconfigure
  intro _ _
  have hreserve : CallPhase.open.may intent
      (.reserve (intent.sourceExchange.getD "default") .new) := rfl
  apply leads_serve rfl hreserve
  intro reservation _
  cases reservation with
  | allowed => exact conforms_dispatchOrder config
  | refused waitMs => exact leads_done trivial

private theorem conforms_coolHedge (config : GlobalRiskConfig) :
    Conforms js intent .open
      (coolHedge js env config intent (intentFingerprint intent)) := by
  have hnow : CallPhase.open.may intent .now := trivial
  apply leads_serve rfl hnow
  intro now _
  have hlast : CallPhase.open.may intent (.hedgeCooldown intent.instrumentCode) := trivial
  apply leads_serve rfl hlast
  intro last _
  dsimp only
  split
  · exact conforms_reject_open _
  · have hset : CallPhase.open.may intent (.setHedgeCooldown intent.instrumentCode now) := trivial
    exact leads_serve rfl hset fun _ _ => conforms_reserveOrder config

private theorem conforms_checkOrderType (config : GlobalRiskConfig) :
    Conforms js intent .open
      (checkOrderType js env config intent (intentFingerprint intent)) := by
  unfold checkOrderType
  dsimp only
  split_ifs
  · exact conforms_reject_open _
  · exact conforms_reject_open _
  · exact conforms_coolHedge config
  · exact conforms_reserveOrder config

/-- A check that leaves a call open, or whose error closes it. -/
private def Checked : Except String (Except Rejection Unit) → CallPhase → Prop
  | .ok _, phase => phase = .open
  | .error _, phase => phase = .closed none

private theorem leads_cascadeGates (config : GlobalRiskConfig) :
    Leads js intent .open (cascadeGates js env config intent) Checked := by
  unfold cascadeGates
  split
  · exact leads_done rfl
  · unfold evaluateCascadeRiskLimiter
    split
    · exact leads_done rfl
    · have hmay : ∀ equity, CallPhase.open.may intent (.shouldBlockNewEntries equity) :=
        fun _ => trivial
      apply leads_await (hmay _)
      · rintro (_ | reason)
        · exact leads_done rfl
        · exact leads_done rfl
      · exact fun _ => rfl

private theorem conforms_cascade {config : GlobalRiskConfig}
    {f : Except Rejection Unit → Task IntentResponse}
    (hf : ∀ decision, Conforms js intent .open (f decision)) :
    Conforms js intent .open (cascadeGates js env config intent >>= f) := by
  apply Leads.bind (leads_cascadeGates config)
  · rintro decision _ rfl
    exact hf decision
  · rintro e _ rfl
    exact trivial

/-- The slices of an intent have ids of their own. -/
private theorem intentId_of_mem_buildTwapSlices {config : TwapSliceConfig} {slice : TwapSlice}
    (hslice : slice ∈ buildTwapSlices js intent config) :
    ∃ suffix, slice.intent.intentId = intent.intentId ++ "-slice-" ++ suffix := by
  obtain ⟨index, -, hindex⟩ := List.mem_filterMap.mp hslice
  dsimp only at hindex
  generalize (if index = _ then _ else _ : ℚ) = sliceSize at hindex
  split at hindex
  · cases hindex
  · obtain rfl := Option.some.inj hindex
    exact ⟨toString (index + 1), rfl⟩

private theorem conforms_scheduleSlicedTwap :
    Conforms js intent .open
      (scheduleSlicedTwap js env intent (intentFingerprint intent)) := by
  unfold scheduleSlicedTwap
  dsimp only
  split
  · exact conforms_reject_open _
  · have hmay : CallPhase.open.may intent (.runTwapSlices
        (buildTwapSlices js intent
          { sliceNotionalPerChunk := numberOr js env.sliceNotionalPerChunk 0
            sliceIntervalMs := numberOr js env.sliceIntervalMs 0
            sliceJitterMs := numberOr js env.sliceJitterMs 0 })) :=
      fun _ => intentId_of_mem_buildTwapSlices
    apply leads_serve rfl hmay
    exact fun _ _ => conforms_respond (fun _ => ⟨rfl, rfl⟩) (fun _ => rfl)
      fun h => Bool.noConfusion h

private theorem conforms_executeNew (config : GlobalRiskConfig) :
    Conforms js intent .open
      (executeNew js env config intent (intentFingerprint intent)) := by
  unfold executeNew
  split
  · exact conforms_reject_open _
  · dsimp only
    split
    · apply conforms_cascade
      rintro (rejection | _)
      · exact conforms_reject_open _
      · exact conforms_scheduleSlicedTwap
    · split
      · apply conforms_cascade
        rintro (rejection | _)
        · exact conforms_reject_open _
        · exact conforms_checkOrderType config
      · exact conforms_checkOrderType config

private theorem conforms_executeIntent (intent : TradeIntent) :
    Conforms js intent .fresh (executeIntent js env intent) := by
  have hconfig : CallPhase.fresh.may intent .fetchConfig := trivial
  apply leads_await hconfig _ fun _ => trivial
  intro config
  have hjson : CallPhase.fresh.may intent .requestJson := trivial
  apply leads_await hjson _ fun _ => trivial
  intro _
  split
  · exact leads_done trivial
  · have hevaluate : CallPhase.fresh.may intent (.evaluate intent) := rfl
    apply leads_serve rfl hevaluate
    intro decision hexpected
    cases decision with
    | replay response => exact leads_done rfl
    | conflict => exact leads_done trivial
    | new fingerprint =>
      obtain rfl : fingerprint = intentFingerprint intent := hexpected
      exact conforms_executeNew config

/-! ## Slices and requests for information -/

/-- A task that keeps to what a function in some phase may do and stays in that phase. -/
private abbrev Stays (js : Runtime) (phase : Phase) (task : Task α) : Prop :=
  task.Follows (protocol js) (fun k _ => k = phase) phase

private theorem stays_ask {phase : Phase} {op : Op} (hmay : phase.may op)
    (hnext : ∀ answer, phase.next js op answer = phase) : Stays js phase (ask op) :=
  ⟨hmay, fun answer _ => ⟨_, rfl, hnext answer⟩⟩

private theorem Stays.bind {phase : Phase} {task : Task α} {f : α → Task β}
    (htask : Stays js phase task) (hf : ∀ a, Stays js phase (f a)) :
    Stays js phase (task >>= f) := by
  apply Program.Follows.bind
  apply htask.mono
  rintro k (e | a) rfl
  · rfl
  · exact hf a

private theorem stays_delay {phase : Phase} (ms : ℤ) (hnow : phase.may .now)
    (htimeout : ∀ due, phase.may (.timeout due))
    (hnext : ∀ answer, phase.next js .now answer = phase)
    (hlater : ∀ due answer, phase.next js (.timeout due) answer = phase) :
    Stays js phase (delay ms) :=
  Stays.bind (stays_ask hnow hnext) fun _ => stays_ask (htimeout _) (hlater _)

/-- A slice is sent, and what is reported of it decides about the others. -/
private theorem stays_slice {orderIds : List String} {slice : TwapSlice} {slices : List TwapSlice}
    (hid : slice.intent.intentId ∈ orderIds)
    (hrest : Stays js (.twap orderIds) (runTwapSlices js env slices)) :
    Stays js (.twap orderIds) (do
      let sent ← Program.attempt do
        let request ← prepareOrderRequest env slice.intent
        if env.isShadowMode then pure none
        else
          let (response, body) ←
            if env.isExchangeOrderTestMode then localResponse testAccepted
            else sendOrder .slice slice.intent.intentId request
          let report ← .done (toExecutionReport js slice.intent response body)
          pure (some report)
      match sent with
      | .error _ => pure ()
      | .ok none => runTwapSlices js env slices
      | .ok (some report) =>
        if report.status = .partialFill ∧
            (fillRatio js report.filledSize slice.intent.size).lt
              (numberOr js env.minFillRatio (8 / 10)) then pure ()
        else runTwapSlices js env slices) := by
  have hprepare : Stays js (.twap orderIds) (prepareOrderRequest env slice.intent) := by
    unfold prepareOrderRequest
    split
    · exact rfl
    · exact stays_ask trivial fun _ => rfl
  have hsend : ∀ request, Stays js (.twap orderIds)
      (sendOrder .slice slice.intent.intentId request) := fun request =>
    Stays.bind (stays_ask ⟨rfl, hid⟩ fun _ => rfl) fun _ =>
      Stays.bind (stays_ask trivial fun _ => rfl) fun _ =>
        Stays.bind (stays_ask trivial fun _ => rfl) fun _ => rfl
  have hlocal : Stays js (.twap orderIds) (localResponse testAccepted) :=
    Stays.bind (stays_ask trivial fun _ => rfl) fun _ => rfl
  have hreport : ∀ answered : ResponseHead × Body, Stays js (.twap orderIds) (do
      let report ← .done (toExecutionReport js slice.intent answered.1 answered.2)
      pure (some report)) := fun _ => Stays.bind rfl fun _ => rfl
  apply Stays.bind
  · apply Program.Follows.attempt
    apply Stays.bind hprepare
    intro request
    split
    · exact rfl
    · split
      · exact Stays.bind hlocal hreport
      · exact Stays.bind (hsend request) hreport
  · intro sent
    split
    · exact rfl
    · exact hrest
    · split
      · exact rfl
      · exact hrest

/-- The slices keep to their orders' ids. -/
private theorem stays_runTwapSlices {orderIds : List String} (slices : List TwapSlice)
    (hids : ∀ slice ∈ slices, slice.intent.intentId ∈ orderIds) :
    Stays js (.twap orderIds) (runTwapSlices js env slices) := by
  induction slices with
  | nil => exact rfl
  | cons slice slices ih =>
    have hrest := ih fun slice' h => hids slice' (List.mem_cons_of_mem _ h)
    have hslice := stays_slice (hids slice List.mem_cons_self) hrest
    rw [runTwapSlices]
    split
    · exact Stays.bind (stays_delay _ trivial (fun _ => trivial) (fun _ => rfl) fun _ _ => rfl)
        fun _ => hslice
    · exact hslice

private theorem follows_hyperliquidInfo :
    hyperliquidInfo.Follows (protocol js) (fun k _ => ∃ phase, k = .info phase)
      (.info .start) := by
  have hreserve : (Phase.info .start).may (.reserve "hyperliquid" .new) := ⟨rfl, rfl⟩
  apply follows_serve rfl hreserve
  intro reservation _
  have hsend : ∀ phase, phase.may .sendInfo → (Phase.info phase).next js .sendInfo (.ok ()) =
      .info .sent →
      (do
        ask .sendInfo
        ask .response : Task ResponseHead).Follows (protocol js)
          (fun k _ => ∃ phase, k = .info phase) (.info phase) := by
    intro phase hmay hnext
    have hmay' : (Phase.info phase).may .sendInfo := hmay
    apply follows_serve rfl hmay'
    intro _ _
    rw [hnext]
    exact ⟨trivial, fun answer _ => ⟨_, rfl, _, rfl⟩⟩
  cases reservation with
  | allowed => exact hsend .granted trivial rfl
  | refused waitMs =>
    have hdelay : Stays js (.info .refused) (delay waitMs) :=
      stays_delay _ trivial (fun _ => trivial) (fun _ => rfl) fun _ _ => rfl
    apply Program.Follows.bind
    apply hdelay.mono
    rintro k (e | _) rfl
    · exact ⟨_, rfl⟩
    · exact hsend .refused trivial rfl

/-- Every function of the executioner keeps to the protocol and ends as it may. -/
theorem follows_program (request : Request) :
    (program js env request).Follows (protocol js) Phase.ends request.phase := by
  cases request with
  | execute intent =>
    apply Program.Follows.bind
    apply (conforms_executeIntent intent).mono
    rintro k (e | response) ⟨phase, rfl, hends⟩
    · exact hends
    · exact hends
  | info =>
    apply Program.Follows.bind
    apply follows_hyperliquidInfo.mono
    rintro k (e | _) ⟨phase, rfl⟩
    · trivial
    · trivial
  | twap slices =>
    apply Program.Follows.bind
    have hids : ∀ slice ∈ slices, slice.intent.intentId ∈
        slices.map fun slice => slice.intent.intentId := by
      intro slice hslice
      exact List.mem_map.mpr ⟨slice, hslice, rfl⟩
    apply (stays_runTwapSlices slices hids).mono
    rintro k (e | _) rfl
    · trivial
    · trivial

end Yevow.Execution
