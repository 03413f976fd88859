import Yevow.Models.Execution.Executioner

/-!
# The protocol of an execution

The memory of the isolate and what is noted of the calls made in it, and the phases that a
call of `executeIntent` passes through: what it may do in each phase, where that leads, and
how it may end. Whatever the awaited calls answer, the functions keep to these phases.
-/

namespace Yevow.Execution

open JavaScript (Runtime)

/-! ## The isolate -/

/-- What the module keeps between calls. -/
structure Memory where
  now : ℤ
  ledger : IntentIdempotencyLedger IntentResponse
  limiter : RateLimiter
  /-- The numbers of `hyperliquidRateLimitConfigKey`. -/
  rateLimits : ℚ × ℚ
  hedgeCooldowns : Rows String ℤ
  /-- The slices handed to `runTwapSlices`. -/
  scheduled : List (List TwapSlice)

/-- What is kept of the calls that are made. -/
inductive Note
  | evaluated
  | remembered (response : IntentResponse)
  | granted (exchangeKey : String) (at_ : ℤ)
  | sent (kind : OrderKind) (orderId : String) (at_ : ℤ)
  | infoSent (at_ : ℤ)
  /-- The answer to the order last sent. -/
  | received (response : ResponseHead) (body : Body)
  | forwarded (clientId : String) (filledSize : Number)

/-- What starts a function of the executioner. -/
inductive Request
  | execute (intent : TradeIntent)
  | info
  | twap (slices : List TwapSlice)

/-- The calls that a function awaits. -/
def Op.awaited : Op → Bool
  | .fetchConfig => true
  | .requestJson => true
  | .shouldBlockNewEntries _ => true
  | .prepareOrderRequest _ _ => true
  | .fetchBookSnapshot _ => true
  | .response => true
  | .safeJson _ => true
  | .localJson => true
  | .timeout _ => true
  | _ => false

variable (js : Runtime) (env : Env) (round : ℚ → ℚ)

/-- The bounded limits of `configureRuntimeRateLimits`. -/
def boundedRateLimits : ℚ × ℚ :=
  let parsedCapacity := env.hlRestRateLimitPerMinute.elim .nan js.toNumber
  let capacity := match positiveOrNull parsedCapacity with
    | some value => if value.den = 1 ∧ value ≤ 2 ^ 53 - 1 then value else 1000
    | none => 1000
  let refill := (positiveOrNull (env.hlRestRefillPerSecond.elim .nan js.toNumber)).getD
    (min 18 (round (capacity / 60)))
  (min 1200 capacity, min 20 refill)

/-- How the calls that are not awaited are served; token amounts are rounded. -/
def serve : Handler Op Op.Ret String Memory
  | .now, memory => (.ok memory.now, memory)
  | .evaluate intent, memory =>
    let evaluated := IntentIdempotencyLedger.evaluate memory.ledger intent memory.now
    (.ok evaluated.1, { memory with ledger := evaluated.2 })
  | .remember intent fingerprint response, memory =>
    (.ok (),
      { memory with
        ledger := IntentIdempotencyLedger.remember memory.ledger intent memory.now fingerprint
          response })
  | .hedgeCooldown instrumentCode, memory =>
    (.ok ((memory.hedgeCooldowns.get? instrumentCode).getD 0), memory)
  | .setHedgeCooldown instrumentCode now, memory =>
    (.ok (), { memory with hedgeCooldowns := memory.hedgeCooldowns.set instrumentCode now })
  | .configureRuntimeRateLimits, memory =>
    let limits := boundedRateLimits js env round
    if limits = memory.rateLimits then (.ok (), memory)
    else
      (.ok (),
        { memory with
          limiter :=
            RateLimiter.configureIn round memory.limiter memory.now "hyperliquid" limits.1 limits.2
          rateLimits := limits })
  | .reserve exchangeKey priority, memory =>
    let reserved := RateLimiter.reserveIn round memory.limiter memory.now exchangeKey priority
    (.ok reserved.1, { memory with limiter := reserved.2 })
  | .sendOrder _ _ _, memory => (.ok (), memory)
  | .sendInfo, memory => (.ok (), memory)
  | .forwardReport _, memory => (.ok (), memory)
  | .runTwapSlices slices, memory =>
    (.ok (), { memory with scheduled := memory.scheduled ++ [slices] })
  | _, memory => (.error "", memory)

/-- What is noted of an answered call. -/
def note : (op : Op) → Except String op.Ret → Memory → List Note
  | .evaluate _, _, _ => [.evaluated]
  | .remember _ _ response, _, _ => [.remembered response]
  | .reserve exchangeKey _, .ok .allowed, memory => [.granted exchangeKey memory.now]
  | .sendOrder kind orderId _, _, memory => [.sent kind orderId memory.now]
  | .sendInfo, _, memory => [.infoSent memory.now]
  | .safeJson response, .ok body, _ => [.received response body]
  | .forwardReport report, _, _ => [.forwarded report.clientId report.filledSize]
  | _, _, _ => []

/-- What serves and notes the calls. -/
def host : Host Op Op.Ret String Memory Note := ⟨Op.awaited, serve js env round, note⟩

/-- The function that a request starts. -/
def program : Request → Task (Option IntentResponse)
  | .execute intent => do
    let response ← executeIntent js env intent
    pure (some response)
  | .info => do
    let _ ← hyperliquidInfo
    pure none
  | .twap slices => do
    runTwapSlices js env slices
    pure none

/-- The functions of the executioner; time passes by milliseconds. -/
def setting : Isolate.Setting Request Op Op.Ret String (Option IntentResponse) Memory Note ℕ where
  program := program js env
  host := host js env round
  act ms memory := { memory with now := memory.now + ms }

/-- The executioner and its running functions. -/
abbrev ExecutionIsolate : Type :=
  Isolate Request Op Op.Ret String (Option IntentResponse) Memory Note

/-- What happens to the executioner. -/
abbrev ExecutionEvent : Type := Isolate.Event Request Op Op.Ret String ℕ

/-! ## Phases -/

/-- How far a call of `executeIntent` has come. A closed call ends without being remembered,
and a placed one has sent, tried out, scheduled or shadowed an order. Of an answer that was
received it is known what is read from it, if anything can be. -/
inductive CallPhase
  | fresh
  | closed (replayed : Option IntentResponse)
  | open
  | granted
  | closing (placed : Bool)
  | sent
  | failed
  | received (read : Option Number)
  | answered
  | reported
  | retrySent
  | retryReceived (read : Option Number)
  | retryAnswered
  | retried
  | scheduled
  | finished (placed : Bool)

/-- A response that reports no new order. -/
def ResponseBody.isQuiet : ResponseBody → Prop
  | .conflict => True
  | .rejected _ _ => True
  | .rateLimited _ => True
  | _ => False

/-- The identifier of a repeated stop. -/
def stopRetryId (intent : TradeIntent) : String := intent.intentId ++ "-stop-retry"

theorem stopRetryId_ne (intent : TradeIntent) : stopRetryId intent ≠ intent.intentId := by
  intro h
  have hlength := congrArg String.length h
  rw [stopRetryId, String.length_append] at hlength
  exact absurd hlength (by simp)

namespace CallPhase

/-- The calls of an intent in each phase. -/
def may (intent : TradeIntent) : CallPhase → Op → Prop
  | .fresh, .fetchConfig => True
  | .fresh, .requestJson => True
  | .fresh, .evaluate evaluated => evaluated = intent
  | .open, .shouldBlockNewEntries _ => True
  | .open, .now => True
  | .open, .hedgeCooldown _ => True
  | .open, .setHedgeCooldown _ _ => True
  | .open, .configureRuntimeRateLimits => True
  | .open, .reserve _ priority => priority = .new
  | .open, .forwardReport report => report.clientId = intent.intentId
  | .open, .runTwapSlices slices =>
    ∀ slice ∈ slices, ∃ suffix, slice.intent.intentId = intent.intentId ++ "-slice-" ++ suffix
  | .granted, .prepareOrderRequest _ _ => True
  | .granted, .fetchBookSnapshot _ => True
  | .granted, .localJson => True
  | .granted, .sendOrder kind orderId _ => kind = .single ∧ orderId = intent.intentId
  | .granted, .forwardReport report => report.clientId = intent.intentId
  | .closing _, .remember remembered fingerprint _ =>
    remembered = intent ∧ fingerprint = intentFingerprint intent
  | .sent, .response => True
  | .sent, .safeJson _ => True
  | .failed, .forwardReport report => report.clientId = intent.intentId
  | .received read, .forwardReport report =>
    report.clientId = intent.intentId ∧ read = some report.filledSize
  | .answered, .forwardReport report => report.clientId = intent.intentId
  | .reported, .prepareOrderRequest _ _ => True
  | .reported, .localJson => True
  | .reported, .sendOrder kind orderId _ => kind = .stopRetry ∧ orderId = stopRetryId intent
  | .reported, .remember remembered fingerprint _ =>
    remembered = intent ∧ fingerprint = intentFingerprint intent
  | .retrySent, .response => True
  | .retrySent, .safeJson _ => True
  | .retryReceived read, .forwardReport report =>
    report.clientId = stopRetryId intent ∧ read = some report.filledSize
  | .retryReceived read, .remember remembered fingerprint _ =>
    remembered = intent ∧ fingerprint = intentFingerprint intent ∧ read = none
  | .retryAnswered, .forwardReport report => report.clientId = stopRetryId intent
  | .retried, .remember remembered fingerprint _ =>
    remembered = intent ∧ fingerprint = intentFingerprint intent
  | .scheduled, .remember remembered fingerprint _ =>
    remembered = intent ∧ fingerprint = intentFingerprint intent
  | _, _ => False

/-- The phase of an intent after a call. -/
def next : CallPhase → (op : Op) → Except String op.Ret → CallPhase
  | .fresh, .fetchConfig, .error _ => .closed none
  | .fresh, .requestJson, .error _ => .closed none
  | .fresh, .evaluate _, .ok (.new _) => .open
  | .fresh, .evaluate _, .ok (.replay response) => .closed (some response)
  | .fresh, .evaluate _, _ => .closed none
  | .open, .shouldBlockNewEntries _, .error _ => .closed none
  | .open, .reserve _ _, .ok .allowed => .granted
  | .open, .reserve _ _, _ => .closed none
  | .open, .forwardReport _, _ => .closing false
  | .open, .runTwapSlices _, _ => .scheduled
  | .granted, .forwardReport report, _ => .closing (report.status != .rejected)
  | .granted, .sendOrder _ _ _, _ => .sent
  | .granted, .localJson, .ok _ => .answered
  | .granted, .localJson, .error _ => .failed
  | .closing placed, .remember _ _ _, _ => .finished placed
  | .sent, .response, .error _ => .failed
  | .sent, .safeJson response, .ok body => .received (reading js response body)
  | .sent, .safeJson _, .error _ => .failed
  | .failed, .forwardReport _, _ => .closing true
  | .received _, .forwardReport _, _ => .reported
  | .answered, .forwardReport _, _ => .reported
  | .reported, .localJson, .ok _ => .retryAnswered
  | .reported, .localJson, .error _ => .retried
  | .reported, .sendOrder _ _ _, _ => .retrySent
  | .reported, .remember _ _ _, _ => .finished true
  | .retrySent, .response, .error _ => .retried
  | .retrySent, .safeJson response, .ok body => .retryReceived (reading js response body)
  | .retrySent, .safeJson _, .error _ => .retried
  | .retryReceived _, .forwardReport _, _ => .retried
  | .retryReceived _, .remember _ _ _, _ => .finished true
  | .retryAnswered, .forwardReport _, _ => .retried
  | .retried, .remember _ _ _, _ => .finished true
  | .scheduled, .remember _ _ _, _ => .finished true
  | phase, _, _ => phase

/-- How an intent may end in each phase. -/
def ends : CallPhase → Except String IntentResponse → Prop
  | .fresh, .error _ => True
  | .closed none, .error _ => True
  | .closed none, .ok response => response.body.isQuiet
  | .closed (some replayed), .ok response =>
    response = ⟨replayed.status, .replay replayed.body⟩
  | .received read, .error _ => read = none
  | .finished placed, .ok response => placed = false → response.body.isQuiet
  | _, _ => False

end CallPhase

/-- How far a request for information has come. -/
inductive InfoPhase
  | start
  | granted
  | refused
  | sent

namespace InfoPhase

/-- The calls of an information request in each phase. -/
def may : InfoPhase → Op → Prop
  | .start, .reserve exchangeKey priority => exchangeKey = "hyperliquid" ∧ priority = .new
  | .granted, .sendInfo => True
  | .refused, .now => True
  | .refused, .timeout _ => True
  | .refused, .sendInfo => True
  | .sent, .response => True
  | _, _ => False

/-- The phase of an information request after a call. -/
def next : InfoPhase → (op : Op) → Except String op.Ret → InfoPhase
  | .start, .reserve _ _, .ok .allowed => .granted
  | .start, .reserve _ _, _ => .refused
  | .granted, .sendInfo, _ => .sent
  | .refused, .sendInfo, _ => .sent
  | phase, _, _ => phase

end InfoPhase

/-- The phase of a function: of a call, a request for information, or the slices of the
given orders. -/
inductive Phase
  | absent
  | call (intent : TradeIntent) (phase : CallPhase)
  | info (phase : InfoPhase)
  | twap (orderIds : List String)

namespace Phase

/-- The calls of a function in each phase. -/
def may : Phase → Op → Prop
  | .absent, _ => False
  | .call intent phase, op => phase.may intent op
  | .info phase, op => phase.may op
  | .twap _, .now => True
  | .twap _, .timeout _ => True
  | .twap _, .prepareOrderRequest _ _ => True
  | .twap _, .localJson => True
  | .twap _, .response => True
  | .twap _, .safeJson _ => True
  | .twap orderIds, .sendOrder kind orderId _ => kind = .slice ∧ orderId ∈ orderIds
  | .twap _, _ => False

/-- The phase of a function after a call. -/
def next : Phase → (op : Op) → Except String op.Ret → Phase
  | .call intent phase, op, answer => .call intent (phase.next js op answer)
  | .info phase, op, answer => .info (phase.next op answer)
  | phase, _, _ => phase

/-- How a function may end in each phase. -/
def ends : Phase → Except String (Option IntentResponse) → Prop
  | .call _ phase, .ok (some response) => phase.ends (.ok response)
  | .call _ _, .ok none => False
  | .call _ phase, .error reason => phase.ends (.error reason)
  | _, .ok (some _) => False
  | _, _ => True

end Phase

/-- Only awaited calls throw, and a new intent is given its fingerprint. -/
def Op.Expects : (op : Op) → Except String op.Ret → Prop
  | .evaluate intent, .ok (.new fingerprint) => fingerprint = intentFingerprint intent
  | _, .ok _ => True
  | op, .error _ => op.awaited = true

/-- What the functions of the executioner keep to. -/
def protocol : Discipline Op Op.Ret String Phase where
  may := Phase.may
  expects _ op answer := op.Expects answer
  leads phase op answer phase' := phase' = phase.next js op answer

/-- The phase that a request starts in. -/
def Request.phase : Request → Phase
  | .execute intent => .call intent .fresh
  | .info => .info .start
  | .twap slices => .twap (slices.map fun slice => slice.intent.intentId)

/-- The host answers as the protocol expects. -/
theorem keeps_host : Isolate.Keeps (host js env round) (protocol js) where
  awaited _ op answer hawaited := by
    cases op <;> cases answer <;> first | exact hawaited | trivial
  served _ op memory hserved := by
    cases op with
    | evaluate intent =>
      show Op.Expects (.evaluate intent) (.ok _)
      generalize hdecision : (IntentIdempotencyLedger.evaluate memory.ledger intent memory.now).1 =
        decision
      cases decision with
      | new fingerprint =>
        unfold IntentIdempotencyLedger.evaluate at hdecision
        simp only at hdecision
        split at hdecision
        · injection hdecision with heq
          exact heq.symm
        · split_ifs at hdecision
      | replay response => trivial
      | conflict => trivial
    | configureRuntimeRateLimits =>
      show Op.Expects .configureRuntimeRateLimits
        (serve js env round .configureRuntimeRateLimits memory).1
      simp only [serve]
      split_ifs <;> trivial
    | now => trivial
    | remember => trivial
    | hedgeCooldown => trivial
    | setHedgeCooldown => trivial
    | reserve => trivial
    | sendOrder => trivial
    | sendInfo => trivial
    | forwardReport => trivial
    | runTwapSlices => trivial
    | _ => exact Bool.noConfusion hserved

/-! ## The functions keep to the protocol -/

section Follows

variable {js} {α β : Type} {post : Phase → Except String β → Prop} {k : Phase}

/-- A call that is served at once. -/
theorem follows_serve {op : Op} {f : op.Ret → Task β} (hop : op.awaited = false)
    (hmay : k.may op)
    (hok : ∀ a, op.Expects (.ok a) → (f a).Follows (protocol js) post (k.next js op (.ok a))) :
    (ask op >>= f).Follows (protocol js) post k := by
  refine Program.follows_perform_bind hmay (fun a ha => ⟨_, rfl, hok a ha⟩) ?_
  intro e he
  exfalso
  have hawaited : op.awaited = true := by
    cases op <;> exact he
  rw [hop] at hawaited
  cases hawaited

/-- A call that is awaited. -/
theorem follows_await {op : Op} {f : op.Ret → Task β} (hmay : k.may op)
    (hok : ∀ a, op.Expects (.ok a) → (f a).Follows (protocol js) post (k.next js op (.ok a)))
    (herror : ∀ e, post (k.next js op (.error e)) (.error e)) :
    (ask op >>= f).Follows (protocol js) post k :=
  Program.follows_perform_bind hmay (fun a ha => ⟨_, rfl, hok a ha⟩)
    (fun e _ => ⟨_, rfl, herror e⟩)

end Follows

/-! ## Samples -/

/-- An environment that sends its orders. -/
def sampleEnv : Env where
  exchangeAdapter := some "hyperliquid"
  shadowMode := none
  exchangeOrderTestMode := some "false"
  paperBankrollUsd := none
  exchangeFeeBps := none
  slippageGuardTicks := none
  sliceNotionalPerChunk := none
  sliceIntervalMs := none
  sliceJitterMs := none
  minFillRatio := none
  hlRestRateLimitPerMinute := none
  hlRestRefillPerSecond := none

/-- A resting order of two units. -/
def sampleIntent : TradeIntent where
  schemaVersion := "trade-intent.v1"
  intentId := "order"
  traceId := ""
  instrumentCode := "BTC"
  sourceExchange := some "hyperliquid"
  executionStyle := none
  action := .buy
  orderType := .limit
  postOnly := true
  timeInForce := .gtc
  expectedPrice := .finite 100
  requestedSize := .finite 2
  approvedSize := none
  maxSlippageBps := .finite 10
  rationale := ""
  targetSubaccount := none

/-- A configuration that limits no size. -/
def sampleConfig : GlobalRiskConfig where
  tradingEnabled := true
  strategyMode := .bothLive
  cascadeTakerEnabled := true
  maxPositionSize := .finite 0
  maxPositionPct := .finite 0
  maxInventoryUnits := .finite 0
  maxInventoryDelta := .finite 0
  maxSingleOrderNotionalUsd := .finite 0
  maxSpreadBpsForTaker := .finite 10
  hedgeEnabled := true
  hedgeCooldownMs := .finite 1000

/-- Every awaited call succeeds, there is no book, and orders are answered with a body. -/
def sampleAnswer (body : Body) : (op : Op) → Except String op.Ret
  | .fetchConfig => .ok sampleConfig
  | .requestJson => .ok ()
  | .shouldBlockNewEntries _ => .ok none
  | .prepareOrderRequest _ _ => .ok ⟨"https://exchange", ""⟩
  | .fetchBookSnapshot _ => .ok none
  | .response => .ok ⟨200⟩
  | .safeJson _ => .ok body
  | .localJson => .ok ()
  | .timeout _ => .ok ()
  | _ => .error ""

/-- A memory in which nothing happened yet. -/
def sampleMemory (capacity refillPerMs : ℚ) (limits : ℚ × ℚ) : Memory where
  now := 0
  ledger := Rows.empty
  limiter := Rows.empty.set "hyperliquid" ⟨capacity, capacity, refillPerMs, 0⟩
  rateLimits := limits
  hedgeCooldowns := Rows.empty
  scheduled := []

end Yevow.Execution
