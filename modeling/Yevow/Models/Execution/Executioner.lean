import Yevow.Core.Effect.Asynchrony
import Yevow.Models.Execution.Idempotency
import Yevow.Models.Execution.RateLimiter
import Yevow.Models.Execution.Reports

/-!
# The executioner

`executeIntent` checks an intent, reserves a request, prepares an order and sends it; what it
schedules and retries sends orders of its own. The calls of these functions that are awaited
may be answered in any way: the configuration, the risk limiter, the signed request, the book
and the exchange. The others read and write the memory of the isolate: the ledger, the rate
limiter, the hedge cooldowns and the clock. Log lines, audits and the trades recorded in
shadow mode are left out.
-/

namespace Yevow.Execution

open JavaScript (Runtime Json)

/-- The exchanges that orders are written for. -/
inductive ExchangeAdapter
  | genericJson
  | binanceUs
  | hyperliquid
  deriving DecidableEq

/-- The environment variables that are read. -/
structure Env where
  exchangeAdapter : Option String
  shadowMode : Option String
  exchangeOrderTestMode : Option String
  paperBankrollUsd : Option String
  exchangeFeeBps : Option String
  slippageGuardTicks : Option String
  sliceNotionalPerChunk : Option String
  sliceIntervalMs : Option String
  sliceJitterMs : Option String
  minFillRatio : Option String
  hlRestRateLimitPerMinute : Option String
  hlRestRefillPerSecond : Option String

/-- Which of the functions that send orders sends one. -/
inductive OrderKind
  | single
  | slice
  | stopRetry
  deriving DecidableEq

/-- An order as it is sent. -/
structure PreparedExchangeRequest where
  endpoint : String
  body : String

/-- The body of a response to an intent. -/
inductive ResponseBody
  | conflict
  | rejected (report : ExecutionReport) (error : String)
  | rateLimited (retryAfterMs : ℤ)
  | shadowOpen (report : ExecutionReport)
  | ghostFill (report : ExecutionReport)
  | twapScheduled (slices : List TwapSlice)
  | exchangeRejected (report : ExecutionReport) (body : Body)
  | submitted (report : ExecutionReport) (retryReport : Option ExecutionReport) (body : Body)
  | replay (original : ResponseBody)

/-- A response to an intent. -/
structure IntentResponse where
  status : ℕ
  body : ResponseBody

/-- The calls of the executioner, first those that are awaited. -/
inductive Op
  | fetchConfig
  | requestJson
  | shouldBlockNewEntries (equity : Number)
  | prepareOrderRequest (adapter : ExchangeAdapter) (intent : TradeIntent)
  | fetchBookSnapshot (instrumentCode : String)
  | response
  | safeJson (response : ResponseHead)
  /-- The body of a response that is built in place. -/
  | localJson
  | timeout (due : ℤ)
  | now
  | evaluate (intent : TradeIntent)
  | remember (intent : TradeIntent) (fingerprint : IntentFingerprint) (response : IntentResponse)
  | hedgeCooldown (instrumentCode : String)
  | setHedgeCooldown (instrumentCode : String) (now : ℤ)
  | configureRuntimeRateLimits
  | reserve (exchangeKey : String) (priority : RateLimitPriority)
  | sendOrder (kind : OrderKind) (orderId : String) (request : PreparedExchangeRequest)
  | sendInfo
  | forwardReport (report : ExecutionReport)
  | runTwapSlices (slices : List TwapSlice)

/-- A block names its reason or none. -/
abbrev RiskBlock : Type := Option (Option String)

/-- What a call returns. -/
abbrev Op.Ret : Op → Type
  | .fetchConfig => GlobalRiskConfig
  | .requestJson => Unit
  | .shouldBlockNewEntries _ => RiskBlock
  | .prepareOrderRequest _ _ => PreparedExchangeRequest
  | .fetchBookSnapshot _ => Option BookSnapshot
  | .response => ResponseHead
  | .safeJson _ => Body
  | .localJson => Unit
  | .timeout _ => Unit
  | .now => ℤ
  | .evaluate _ => IdempotencyDecision IntentResponse
  | .remember _ _ _ => Unit
  | .hedgeCooldown _ => ℤ
  | .setHedgeCooldown _ _ => Unit
  | .configureRuntimeRateLimits => Unit
  | .reserve _ _ => Reservation
  | .sendOrder _ _ _ => Unit
  | .sendInfo => Unit
  | .forwardReport _ => Unit
  | .runTwapSlices _ => Unit

/-- A function of the executioner. -/
abbrev Task (α : Type) : Type := Program Op Op.Ret String α

open Program (attempt)

/-- A single call. -/
def ask (op : Op) : Task op.Ret := Program.perform op

variable (js : Runtime) (env : Env)

/-- `Number(text ?? fallback)`. -/
def numberOr (text : Option String) (fallback : ℚ) : Number :=
  text.elim (.finite fallback) js.toNumber

namespace Env

/-- The configured adapter. -/
def resolveAdapter : Except String ExchangeAdapter :=
  match env.exchangeAdapter with
  | none => .ok .genericJson
  | some "generic-json" => .ok .genericJson
  | some "binance-us" => .ok .binanceUs
  | some "hyperliquid" => .ok .hyperliquid
  | some adapter => .error ("UNSUPPORTED_EXCHANGE_ADAPTER_" ++ adapter)

/-- Orders only go to the shadow book. -/
def isShadowMode : Bool :=
  match env.shadowMode with
  | none => false
  | some value => ["1", "true", "yes", "on"].contains (JavaScript.trim value).toLower

/-- Orders are only tried out. -/
def isExchangeOrderTestMode : Bool := env.exchangeOrderTestMode != some "false"

/-- Orders of an adapter are only tried out. -/
def isTestedBy (adapter : ExchangeAdapter) : Bool :=
  match env.resolveAdapter with
  | .ok resolved => resolved == adapter && env.isExchangeOrderTestMode
  | .error _ => false

end Env

/-! ## Shared exits -/

/-- `respond`, where the response is remembered. -/
def respond (intent : TradeIntent) (fingerprint : IntentFingerprint) (status : ℕ)
    (body : ResponseBody) : Task IntentResponse := do
  ask (.remember intent fingerprint ⟨status, body⟩)
  pure ⟨status, body⟩

/-- Forward a rejected report and respond with it. -/
def reject (intent : TradeIntent) (fingerprint : IntentFingerprint) (rejection : Rejection) :
    Task IntentResponse := do
  let report := rejectedReport intent rejection
  ask (.forwardReport report)
  respond intent fingerprint rejection.status (.rejected report rejection.reason)

/-- Waiting for some milliseconds. -/
def delay (ms : ℤ) : Task Unit := do
  let start ← ask .now
  ask (.timeout (start + ms))

/-! ## Orders -/

/-- An order is written for the exchange. -/
def prepareOrderRequest (intent : TradeIntent) : Task PreparedExchangeRequest :=
  match env.resolveAdapter with
  | .error reason => .done (.error reason)
  | .ok adapter => ask (.prepareOrderRequest adapter intent)

/-- Send a prepared order and read the answer. -/
def sendOrder (kind : OrderKind) (orderId : String) (request : PreparedExchangeRequest) :
    Task (ResponseHead × Body) := do
  ask (.sendOrder kind orderId request)
  let response ← ask .response
  let body ← ask (.safeJson response)
  pure (response, body)

/-- A response built in place. -/
def localResponse (fields : Json.Fields) : Task (ResponseHead × Body) := do
  ask .localJson
  pure (⟨200⟩, some fields)

/-- The answer made up for a test order. -/
def testAccepted : Json.Fields := [("status", .string "TEST_ACCEPTED")]

/-- The fields of `hyperliquid` test orders; `oid` is a text. -/
def hyperliquidTestBody (intent : TradeIntent) : Json.Fields :=
  [("status", .string "TEST_ACCEPTED"),
    ("response", .object
      [("type", .string "order"),
        ("data", .object
          [("statuses", .array
            [.object [("resting", .object [("oid", .string ("test-" ++ intent.intentId))])]])])]),
    ("message",
      .string "Hyperliquid signed order validated locally; no live order was placed.")]

/-- `{ ...(body ?? {}), status, message }` of `binance-us` test orders. -/
def binanceTestBody (body : Body) : Body :=
  some ([("status", .string "TEST_ACCEPTED"),
    ("message", .string "Binance.US test order validated; no live order was placed.")] ++
      body.getD [])

/-- The stop close that is sent for what a partial fill left. -/
def stopRetryIntent (intent : TradeIntent) (remainingSize : Number) : TradeIntent :=
  { intent with
    intentId := intent.intentId ++ "-stop-retry"
    requestedSize := remainingSize
    approvedSize := some remainingSize
    maxSlippageBps := intent.maxSlippageBps.mul js.arithmetic.fraction (.finite 3)
    rationale := intent.rationale ++ " retry stop close" }

/-- What a stop left unfilled is sent again. -/
def retryPartialStopClose (intent : TradeIntent) (report : ExecutionReport) :
    Task (Option ExecutionReport) := do
  let remainingSize :=
    (Number.finite 0).max (intent.size.sub js.arithmetic.fraction report.filledSize)
  if remainingSize.le (.finite 0) then pure none
  else
    let retryIntent := stopRetryIntent js intent remainingSize
    let retried ← attempt do
      let retryRequest ← prepareOrderRequest env retryIntent
      let (response, body) ←
        if env.isExchangeOrderTestMode then localResponse testAccepted
        else sendOrder .stopRetry retryIntent.intentId retryRequest
      let retryReport ← .done (toExecutionReport js retryIntent response body)
      ask (.forwardReport retryReport)
      pure retryReport
    pure retried.toOption

/-- The child orders, one after another; a thin partial fill or an error ends them. -/
def runTwapSlices : List TwapSlice → Task Unit
  | [] => pure ()
  | slice :: slices => do
    if 0 < slice.delayMs then
      delay slice.delayMs
    let sent ← attempt do
      let request ← prepareOrderRequest env slice.intent
      if env.isShadowMode then pure none
      else
        let (response, body) ←
          if env.isExchangeOrderTestMode then localResponse testAccepted
          else sendOrder .slice slice.intent.intentId request
        let report ← .done (toExecutionReport js slice.intent response body)
        pure (some report)
    match sent with
    | .error _ => pure ()
    | .ok none => runTwapSlices slices
    | .ok (some report) =>
      if report.status = .partialFill ∧
          (fillRatio js report.filledSize slice.intent.size).lt
            (numberOr js env.minFillRatio (8 / 10)) then pure ()
      else runTwapSlices slices

/-- Slices are scheduled, and the intent is answered at once. -/
def scheduleSlicedTwap (intent : TradeIntent) (fingerprint : IntentFingerprint) :
    Task IntentResponse := do
  let slices := buildTwapSlices js intent
    { sliceNotionalPerChunk := numberOr js env.sliceNotionalPerChunk 0
      sliceIntervalMs := numberOr js env.sliceIntervalMs 0
      sliceJitterMs := numberOr js env.sliceJitterMs 0 }
  if slices.isEmpty then reject intent fingerprint ⟨"TWAP_NO_VALID_SLICES", 400⟩
  else
    ask (.runTwapSlices slices)
    respond intent fingerprint 200 (.twapScheduled slices)

/-- Send the order of a live intent and report what the exchange answers. -/
def submitOrder (intent : TradeIntent) (fingerprint : IntentFingerprint)
    (request : PreparedExchangeRequest) : Task IntentResponse := do
  let answered ← attempt (
    if env.isTestedBy .hyperliquid then localResponse (hyperliquidTestBody intent)
    else sendOrder .single intent.intentId request)
  match answered with
  | .error reason => reject intent fingerprint ⟨reason, 503⟩
  | .ok (response, answer) =>
    let body := if env.isTestedBy .binanceUs && response.ok then binanceTestBody answer else answer
    let report ← .done (toExecutionReport js intent response body)
    ask (.forwardReport report)
    if !response.ok || report.status = .rejected then
      respond intent fingerprint (if response.status = 0 then 502 else response.status)
        (.exchangeRejected report body)
    else
      let retryReport ←
        if intent.resolveExecutionStyle = .takerMarket ∧ report.status = .partialFill then
          retryPartialStopClose js env intent report
        else pure none
      respond intent fingerprint 200 (.submitted report retryReport body)

/-! ## The checks of an intent -/

/-- Shadow mode answers with an open quote or a ghost fill and sends nothing. -/
def shadowOrder (intent : TradeIntent) (fingerprint : IntentFingerprint) :
    Task IntentResponse := do
  if intent.postOnly ∧ intent.orderType = .limit then
    let report := buildShadowRestingQuoteReport intent
    ask (.forwardReport report)
    respond intent fingerprint 200 (.shadowOpen report)
  else
    let estimatedFees := estimateShadowFees js (numberOr js env.exchangeFeeBps 0) intent
    let report := buildGhostExecutionReport intent estimatedFees
    ask (.forwardReport report)
    respond intent fingerprint 200 (.ghostFill report)

/-- The order is checked against the order book. -/
def validatePreTrade (intent : TradeIntent) (config : GlobalRiskConfig) :
    Task (Except Rejection Unit) := do
  let snapshot ← attempt (ask (.fetchBookSnapshot intent.instrumentCode))
  pure (preTradeDecision js (numberOr js env.slippageGuardTicks 0) intent config
    (snapshot.toOption.join))

/-- Prepare the order, then answer in shadow mode or send it. -/
def dispatchOrder (config : GlobalRiskConfig) (intent : TradeIntent)
    (fingerprint : IntentFingerprint) : Task IntentResponse := do
  match ← attempt (prepareOrderRequest env intent) with
  | .error reason => reject intent fingerprint ⟨reason, 503⟩
  | .ok request =>
    if env.isShadowMode then shadowOrder js env intent fingerprint
    else
      match ← validatePreTrade js env intent config with
      | .error rejection => reject intent fingerprint rejection
      | .ok () => submitOrder js env intent fingerprint request

/-- A request is reserved at the rate limiter, or the response says when to come back. -/
def reserveOrder (config : GlobalRiskConfig) (intent : TradeIntent)
    (fingerprint : IntentFingerprint) : Task IntentResponse := do
  ask .configureRuntimeRateLimits
  match ← ask (.reserve (intent.sourceExchange.getD "default") .new) with
  | .refused waitMs => pure ⟨429, .rateLimited waitMs⟩
  | .allowed => dispatchOrder js env config intent fingerprint

/-- Hedges of one instrument keep a distance in time. -/
def coolHedge (config : GlobalRiskConfig) (intent : TradeIntent)
    (fingerprint : IntentFingerprint) : Task IntentResponse := do
  let now ← ask .now
  let last ← ask (.hedgeCooldown intent.instrumentCode)
  let cooldownMs := (Number.finite 1000).max config.hedgeCooldownMs
  if (Number.finite (now - last)).lt cooldownMs then
    reject intent fingerprint ⟨"HEDGE_COOLDOWN_ACTIVE", 429⟩
  else
    ask (.setHedgeCooldown intent.instrumentCode now)
    reserveOrder js env config intent fingerprint

/-- The risk limiter may block new entries. -/
def evaluateCascadeRiskLimiter (config : GlobalRiskConfig) (intent : TradeIntent) :
    Task (Except Rejection Unit) := do
  if intent.isInventoryHedgeIntent || intent.isStopCloseIntent then pure (.ok ())
  else
    let equity := (positiveOrNull (env.paperBankrollUsd.elim .nan js.toNumber) <|>
      positiveOrNull config.maxPositionSize).getD 0
    match ← ask (.shouldBlockNewEntries (.finite equity)) with
    | none => pure (.ok ())
    | some reason => pure (.error ⟨"CASCADE_RISK_" ++ reason.getD "BLOCKED", 409⟩)

/-- The gates of cascade orders. -/
def cascadeGates (config : GlobalRiskConfig) (intent : TradeIntent) :
    Task (Except Rejection Unit) :=
  match evaluateCascadeTakerGate js intent config intent.isInventoryHedgeIntent with
  | .error rejection => pure (.error rejection)
  | .ok () => evaluateCascadeRiskLimiter js env config intent

/-- The checks of the order type. -/
def checkOrderType (config : GlobalRiskConfig) (intent : TradeIntent)
    (fingerprint : IntentFingerprint) : Task IntentResponse :=
  let style := intent.resolveExecutionStyle
  let isPostOnlyLimit := intent.orderType == .limit && intent.postOnly
  if style == .takerMarket && !intent.isStopCloseIntent then
    reject intent fingerprint ⟨"TAKER_MARKET_ONLY_ALLOWED_FOR_STOPS", 403⟩
  else if !isPostOnlyLimit && !intent.isInventoryHedgeIntent && !isTakerExecutionStyle style then
    reject intent fingerprint ⟨"TAKER_EXECUTION_DISABLED", 423⟩
  else if intent.isInventoryHedgeIntent then coolHedge js env config intent fingerprint
  else reserveOrder js env config intent fingerprint

/-- An intent that the ledger does not know. -/
def executeNew (config : GlobalRiskConfig) (intent : TradeIntent)
    (fingerprint : IntentFingerprint) : Task IntentResponse := do
  match evaluateExecutionRisk js intent config (numberOr js env.paperBankrollUsd 0) with
  | .error rejection => reject intent fingerprint rejection
  | .ok () =>
    let style := intent.resolveExecutionStyle
    if style = .slicedTwap then
      match ← cascadeGates js env config intent with
      | .error rejection => reject intent fingerprint rejection
      | .ok () => scheduleSlicedTwap js env intent fingerprint
    else if isTakerExecutionStyle style && !intent.isInventoryHedgeIntent then
      match ← cascadeGates js env config intent with
      | .error rejection => reject intent fingerprint rejection
      | .ok () => checkOrderType js env config intent fingerprint
    else checkOrderType js env config intent fingerprint

/-- An intent is checked, reserved, sent and remembered. -/
def executeIntent (intent : TradeIntent) : Task IntentResponse := do
  let config ← ask .fetchConfig
  ask .requestJson
  match intent.validateIntent with
  | .error reason => .done (.error reason)
  | .ok () =>
    match ← ask (.evaluate intent) with
    | .replay response => pure ⟨response.status, .replay response.body⟩
    | .conflict => pure ⟨409, .conflict⟩
    | .new fingerprint => executeNew js env config intent fingerprint

/-- A request for information, sent at once or after the time a refusal names. -/
def hyperliquidInfo : Task ResponseHead := do
  match ← ask (.reserve "hyperliquid" .new) with
  | .allowed =>
    ask .sendInfo
    ask .response
  | .refused waitMs =>
    delay waitMs
    ask .sendInfo
    ask .response

end Yevow.Execution
