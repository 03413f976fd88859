import Yevow.Core.Control.Except
import Yevow.Core.JavaScript.Json
import Yevow.Models.Engine.ExecutionAccounting
import Yevow.Models.Execution.Intent

/-!
# Execution reports

What the answer of an exchange becomes for the trading engine. A field that is read as text
keeps a number as a number, and a reason keeps the value whose text it is. A field that is read
as a number may throw, and then there is no report. Times and latencies are left out.
-/

namespace Yevow.Execution

open Engine (ManagedOrderStatus)
open JavaScript (Runtime Json)

/-- The status line of a response. -/
structure ResponseHead where
  status : ℕ
  deriving DecidableEq

/-- `response.ok`. -/
def ResponseHead.ok (response : ResponseHead) : Bool :=
  200 ≤ response.status && response.status ≤ 299

/-- What `safeJson` makes of a body: a record, or null. -/
abbrev Body : Type := Option Json.Fields

/-- A text field: a text that is not empty, or a finite number. -/
inductive FieldText
  | text (s : String)
  | numeral (n : ℚ)
  deriving DecidableEq

/-- What is reported of an order. -/
structure ExecutionReport where
  clientId : String
  exchangeOrderId : Option FieldText
  instrumentCode : String
  side : Action
  orderSize : Number
  status : ManagedOrderStatus
  filledSize : Number
  fillIncrementSize : Option Number
  achievedPrice : Number
  expectedPrice : Number
  fees : Number
  reason : Json
  rawStatus : Option FieldText

/-! ## Reading a body -/

variable (js : Runtime)

/-- The fields of an object. -/
def isRecord? : Json → Option Json.Fields
  | .object fields => some fields
  | _ => none

/-- The items of a list. -/
def items? : Json → Option (List Json)
  | .array items => some items
  | _ => none

/-- `value?.[key]`. -/
def Body.field (body : Body) (key : String) : Json :=
  body.elim .undefined fun fields => Json.field fields key

private def asText : Json → Option FieldText
  | .string s => if s = "" then none else some (.text s)
  | .number (.finite a) => some (.numeral a)
  | _ => none

/-- The first field that is a text. -/
def stringField (body : Body) (keys : List String) : Option FieldText :=
  body.bind fun fields => keys.findSome? fun key => asText (Json.field fields key)

/-- The first of some values that is a finite number. -/
def firstFinite : List Json → Except String (Option Number)
  | [] => .ok none
  | value :: values => do
    match (← value.converted).toNumber js with
    | .finite a => pure (some (.finite a))
    | _ => firstFinite values

/-- The first field that is a finite number. -/
def numberField (body : Body) (keys : List String) : Except String (Option Number) :=
  match body with
  | none => .ok none
  | some fields => firstFinite js (keys.map (Json.field fields))

/-- What a Hyperliquid answer says of an order. -/
structure HyperliquidExecution where
  exchangeOrderId : Option FieldText
  filledSize : Option Number
  achievedPrice : Option Number
  rawStatus : Option FieldText
  reason : Option FieldText

/-- The statuses in a Hyperliquid answer. -/
def extractHyperliquidExecution (body : Body) : Except String HyperliquidExecution :=
  let response := isRecord? (body.field "response")
  let data := isRecord? (Body.field response "data")
  let statuses := ((items? (Body.field data "statuses")).getD []).filterMap isRecord?
  match statuses.head? with
  | none => .ok ⟨none, none, none, none, none⟩
  | some first =>
    match isRecord? (Json.field first "resting"), isRecord? (Json.field first "filled") with
    | some resting, _ =>
      .ok ⟨stringField (some resting) ["oid"], none, none, some (.text "NEW"), none⟩
    | none, some filled => do
      let totalSz ← numberField js (some filled) ["totalSz", "sz", "size"]
      let avgPx ← numberField js (some filled) ["avgPx", "px", "price"]
      pure ⟨stringField (some filled) ["oid"], totalSz, avgPx, some (.text "FILLED"), none⟩
    | none, none =>
      match stringField (some first) ["error"] with
      | some error => .ok ⟨none, none, none, some (.text "REJECTED"), some error⟩
      | none => .ok ⟨none, none, none, none, none⟩

/-- The size that a body says was filled. -/
def filledSize (body : Body) : Except String Number := do
  let hyperliquid ← extractHyperliquidExecution js body
  let flat ← numberField js body ["filled_size", "filledSize", "executed_size", "executedQty"]
  pure ((flat <|> hyperliquid.filledSize).getD (.finite 0))

/-- The price from the cumulative quote. -/
def averageExecutionPrice (body : Body) : Except String (Option Number) := do
  let executedQty ←
    numberField js body ["executedQty", "filled_size", "filledSize", "executed_size"]
  let cumulativeQuote ←
    numberField js body ["cummulativeQuoteQty", "cumulativeQuoteQty", "filled_quote"]
  pure <| match executedQty, cumulativeQuote with
    | some executedQty, some cumulativeQuote =>
      if executedQty.isPositive && cumulativeQuote.isPositive then
        some (cumulativeQuote.div js.arithmetic.fraction executedQty)
      else none
    | _, _ => none

/-- The fee of an answer, or the fees of its fills. -/
def extractFees (body : Body) : Except String Number := do
  match ← numberField js body ["fees", "fee", "commission"] with
  | some directFee => pure directFee
  | none =>
    let fills := ((items? (body.field "fills")).getD []).filterMap isRecord?
    let commissions ← fills.mapM fun fill => numberField js (some fill) ["commission"]
    pure (Number.sum js.arithmetic.fraction (commissions.map (·.getD (.finite 0))))

private def FieldText.includes (text : FieldText) (part : String) : Bool :=
  match text with
  | .text s => part.toList <:+: s.toLower.toList
  | .numeral _ => false

/-- The status of an order from its words and sizes. -/
def normalizeOrderStatus (rawStatus : Option FieldText) (responseOk : Bool)
    (filledSize orderSize : Number) : ManagedOrderStatus :=
  let isComplete := (Number.finite 0).lt orderSize && orderSize.le filledSize
  if !responseOk then .rejected
  else
    match rawStatus with
    | none => if isComplete then .filled else .open
    | some normalized =>
      let isText := fun (s : String) => match normalized with
        | .text t => t.toLower == s
        | .numeral _ => false
      if isText "test_accepted" then .cancelled
      else if normalized.includes "reject" then .rejected
      else if normalized.includes "expired" then .rejected
      else if normalized.includes "cancel" then .cancelled
      else if normalized.includes "partial" then .partialFill
      else if isText "new" || isText "pending_cancel" then .open
      else if normalized.includes "fill" || isComplete then .filled
      else .open

/-- A text as the value it was read from. -/
def FieldText.value : FieldText → Json
  | .text s => .string s
  | .numeral n => .number (.finite n)

/-! ## Reports -/

/-- The price of a fill, where the answer gives one. -/
def achievedPrice (hyperliquid : HyperliquidExecution) (body : Body) :
    Except String (Option Number) := do
  match hyperliquid.achievedPrice with
  | some price => pure (some price)
  | none =>
    match ← averageExecutionPrice js body with
    | some price => pure (some price)
    | none => numberField js body ["price", "avg_price", "average_price"]

/-- The reason of a report: a text of the answer, or its status. -/
def reportReason (hyperliquid : HyperliquidExecution) (response : ResponseHead) (body : Body) :
    Except String Json :=
  if response.ok then .ok ((hyperliquid.reason.map FieldText.value).getD .undefined)
  else
    (((body.field "message").orElse (body.field "error")).orElse
      (.number (.finite response.status))).converted

/-- What a report takes from an answer. -/
structure AnswerFields where
  hyperliquid : HyperliquidExecution
  filledSize : Number
  achievedPrice : Option Number
  fees : Number
  reason : Json

/-- What a report takes from an answer. -/
def readAnswer (response : ResponseHead) (body : Body) : Except String AnswerFields := do
  let hyperliquid ← extractHyperliquidExecution js body
  let filledSize ← filledSize js body
  let achievedPrice ← achievedPrice js hyperliquid body
  let fees ← extractFees js body
  let reason ← reportReason hyperliquid response body
  pure ⟨hyperliquid, filledSize, achievedPrice, fees, reason⟩

/-- The report of an answer. -/
def toExecutionReport (intent : TradeIntent) (response : ResponseHead) (body : Body) :
    Except String ExecutionReport := do
  let answer ← readAnswer js response body
  let rawStatus :=
    answer.hyperliquid.rawStatus <|> stringField body ["status", "state", "order_status"]
  pure {
    clientId := intent.intentId
    exchangeOrderId :=
      stringField body ["order_id", "orderId", "id", "exchange_order_id", "clientOrderId"] <|>
        answer.hyperliquid.exchangeOrderId
    instrumentCode := intent.instrumentCode
    side := intent.action
    orderSize := intent.size
    status := normalizeOrderStatus rawStatus response.ok answer.filledSize intent.size
    filledSize := answer.filledSize
    fillIncrementSize := none
    achievedPrice := answer.achievedPrice.getD intent.expectedPrice
    expectedPrice := intent.expectedPrice
    fees := answer.fees
    reason := answer.reason
    rawStatus := rawStatus }

/-- The size an answer says was filled, if a report can be made of it. -/
def reading (response : ResponseHead) (body : Body) : Option Number :=
  (readAnswer js response body).toOption.map (·.filledSize)

/-- The search throws at a value that does not convert where no number was found before it. -/
theorem firstFinite_eq_error {values : List Json} {e : String} :
    firstFinite js values = .error e ↔
      ∃ before value after, values = before ++ value :: after ∧ value.converted = .error e ∧
        ∀ earlier ∈ before, earlier.converts = true ∧ ∀ a, earlier.toNumber js ≠ .finite a := by
  induction values with
  | nil => simp [firstFinite]
  | cons value values ih =>
    -- The first value throws, is the number, or is passed over.
    cases hconverts : value.converts with
    | false =>
      have hthrows : value.converted = .error "Cannot convert object to primitive value" := by
        simp [Json.converted, hconverts]
      rw [firstFinite, hthrows, Except.bind_error]
      constructor
      · intro h
        obtain rfl := Except.error.inj h
        exact ⟨[], value, values, rfl, hthrows, by simp⟩
      · rintro ⟨_ | ⟨first, before⟩, other, after, heq, hother, hbefore⟩
        · obtain ⟨rfl, rfl⟩ := List.cons.inj heq
          exact congrArg Except.error (Except.error.inj (hthrows.symm.trans hother))
        · obtain ⟨rfl, rfl⟩ := List.cons.inj heq
          have hfirst := (hbefore _ List.mem_cons_self).1
          rw [hconverts] at hfirst
          cases hfirst
    | true =>
      have hpasses : value.converted = .ok value := Json.converted_eq_ok.mpr ⟨hconverts, rfl⟩
      rw [firstFinite, hpasses, Except.bind_ok]
      have hlater : (∃ before other after, value :: values = before ++ other :: after ∧
          other.converted = .error e ∧
            ∀ earlier ∈ before, earlier.converts = true ∧ ∀ a, earlier.toNumber js ≠ .finite a) ↔
          (∀ a, value.toNumber js ≠ .finite a) ∧ firstFinite js values = .error e := by
        rw [ih]
        constructor
        · rintro ⟨_ | ⟨first, before⟩, other, after, heq, hother, hbefore⟩
          · obtain ⟨rfl, rfl⟩ := List.cons.inj heq
            rw [hpasses] at hother
            cases hother
          · obtain ⟨rfl, rfl⟩ := List.cons.inj heq
            exact ⟨(hbefore _ List.mem_cons_self).2, before, other, after, rfl, hother,
              fun earlier h => hbefore earlier (List.mem_cons_of_mem _ h)⟩
        · rintro ⟨hnumber, before, other, after, rfl, hother, hbefore⟩
          refine ⟨value :: before, other, after, rfl, hother, ?_⟩
          exact List.forall_mem_cons.mpr ⟨⟨hconverts, hnumber⟩, hbefore⟩
      rw [hlater]
      cases hnumber : value.toNumber js <;> simp

/-- A report is made of an answer exactly where its fields can be read. -/
theorem toExecutionReport_cases (intent : TradeIntent) (response : ResponseHead) (body : Body) :
    (∃ report, toExecutionReport js intent response body = .ok report ∧
        report.clientId = intent.intentId ∧
        reading js response body = some report.filledSize) ∨
      ∃ e, toExecutionReport js intent response body = .error e ∧
        reading js response body = none := by
  unfold toExecutionReport reading
  cases readAnswer js response body with
  | ok answer => exact Or.inl ⟨_, rfl, rfl, rfl⟩
  | error e => exact Or.inr ⟨e, rfl, rfl⟩

/-- The report of an order that was not sent. -/
def rejectedReport (intent : TradeIntent) (rejection : Rejection) : ExecutionReport where
  clientId := intent.intentId
  exchangeOrderId := none
  instrumentCode := intent.instrumentCode
  side := intent.action
  orderSize := intent.size
  status := .rejected
  filledSize := .finite 0
  fillIncrementSize := none
  achievedPrice := intent.expectedPrice
  expectedPrice := intent.expectedPrice
  fees := .finite 0
  reason := .string (rejection.reason ++ ":" ++ toString rejection.status)
  rawStatus := none

/-- The report of a quote that only rests in the shadow book. -/
def buildShadowRestingQuoteReport (intent : TradeIntent) : ExecutionReport where
  clientId := intent.intentId
  exchangeOrderId := some (.text ("shadow-open-" ++ intent.intentId))
  instrumentCode := intent.instrumentCode
  side := intent.action
  orderSize := intent.size
  status := .open
  filledSize := .finite 0
  fillIncrementSize := some (.finite 0)
  achievedPrice := intent.expectedPrice
  expectedPrice := intent.expectedPrice
  fees := .finite 0
  reason := .string "SHADOW_MODE_POST_ONLY_RESTING_QUOTE"
  rawStatus := some (.text "OPEN")

/-- `estimateShadowFees` for the fee in basis points that the environment sets. -/
def estimateShadowFees (feeBps : Number) (intent : TradeIntent) : Number :=
  let round := js.arithmetic.fraction
  match positiveOrNull intent.expectedPrice, positiveOrNull intent.size, positiveOrNull feeBps with
  | some price, some size, some bps =>
    .finite (roundOrderSize js (round (round (round (price * size) * bps) / 10000)))
  | _, _, _ => .finite 0

/-- The report of an order filled in the shadow book. -/
def buildGhostExecutionReport (intent : TradeIntent) (fees : Number) : ExecutionReport where
  clientId := intent.intentId
  exchangeOrderId := some (.text ("ghost-" ++ intent.intentId))
  instrumentCode := intent.instrumentCode
  side := intent.action
  orderSize := intent.size
  status := .ghostFill
  filledSize := intent.size
  fillIncrementSize := some intent.size
  achievedPrice := intent.expectedPrice
  expectedPrice := intent.expectedPrice
  fees := fees
  reason := .string "SHADOW_MODE_NO_EXCHANGE_POST"
  rawStatus := some (.text "GHOST_FILL")

/-- The filled part of an order. -/
def fillRatio (filledSize requestedSize : Number) : Number :=
  if (Number.finite 0).lt requestedSize then filledSize.div js.arithmetic.fraction requestedSize
  else .finite 0

end Yevow.Execution
