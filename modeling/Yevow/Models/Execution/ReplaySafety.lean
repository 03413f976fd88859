import Mathlib.Data.Rat.Floor
import Yevow.Models.Execution.HyperliquidWire
import Yevow.Models.Execution.Idempotency
import Yevow.Models.Execution.Slicing

/-!
# Replays of remembered intents

An intent that repeats a remembered identifier is answered with the remembered response where
the fingerprints agree. The order that `hyperliquid` is sent and the gates in front of it read
more of the intent than its fingerprint tells, so that a replay may stand for another order.
-/

namespace Yevow.Execution

open JavaScript (Runtime)

/-! ## Orders of `hyperliquid` -/

/-- What an order is made of besides its intent: environment variables, the metadata that is
found for a coin, and the numbers its texts are rounded by. -/
structure HyperliquidEnv where
  vaultAddress : Option String
  defaultTif : Option String
  asset : Option String
  assetMeta : String → Except String HyperliquidAssetMeta
  math : WireMath

/-- The time in force on the wire. -/
inductive Tif
  | alo
  | ioc
  | gtc
  deriving DecidableEq

/-- A placed order and the subaccount it is placed for. -/
structure HyperliquidOrder where
  assetIndex : ℕ
  isBuy : Bool
  wire : HyperliquidOrderWire
  reduceOnly : Bool
  tif : Tif
  cloid : String
  vaultAddress : Option String
  deriving DecidableEq

variable (js : Runtime) (env : HyperliquidEnv)

/-- A positive number, or an error that names the field. -/
def positive (value : Number) (field : String) : Except String Number :=
  if value.isPositive then .ok value else .error ("INVALID_" ++ field)

/-- `text.replace(part, "")`; only the first occurrence goes. -/
def removeFirst (part : List Char) : List Char → List Char
  | [] => []
  | c :: cs =>
    if part <+: c :: cs then (c :: cs).drop part.length else c :: removeFirst part cs

/-- The coin of an instrument. -/
def hyperliquidCoin (instrumentCode : String) : Except String String :=
  let base := String.ofList
    ((removeFirst "-perp".toList instrumentCode.toList).takeWhile (· != '-'))
  if JavaScript.trim base ≠ "" then .ok (JavaScript.trim base).toUpper
  else
    match env.asset with
    | none => .error "MISSING_HL_ASSET"
    | some asset => if asset = "" then .error "MISSING_HL_ASSET" else .ok asset.toUpper

/-- The price of a taker market order allows for its slippage. -/
def cappedExecutionPrice (intent : TradeIntent) (referencePrice : Number) : Number :=
  let round := js.arithmetic.fraction
  if intent.resolveExecutionStyle ≠ .takerMarket then referencePrice
  else
    let slippageMultiplier :=
      ((Number.finite 0).max (intent.maxSlippageBps.mul round (.finite 3))).div round
        (.finite 10000)
    match intent.action with
    | .buy => referencePrice.mul round ((Number.finite 1).add round slippageMultiplier)
    | .sell =>
      (referencePrice.mul round ((Number.finite 1).sub round slippageMultiplier)).max .epsilon

/-- The time in force of an order. -/
def hyperliquidTif (intent : TradeIntent) : Tif :=
  if isTakerExecutionStyle intent.resolveExecutionStyle then .ioc
  else if intent.timeInForce = .alo then .alo
  else if intent.postOnly then .alo
  else if intent.timeInForce = .ioc ∨ intent.orderType = .market then .ioc
  else
    match env.defaultTif.map fun tif => (JavaScript.trim tif).toLower with
    | some "alo" => .alo
    | some "gtc" => .gtc
    | some "ioc" => .ioc
    | _ => .alo

/-- A text that `/^0x[0-9a-f]{40}$/` matches. -/
def isHyperliquidAddress (text : String) : Bool :=
  "0x".toList.isPrefixOf text.toList && text.toList.length == 42 &&
    (text.toList.drop 2).all fun c => c.isDigit || ('a' ≤ c && c ≤ 'f')

/-- An address, if there is one. -/
def normalizeOptionalAddress : Option String → Except String (Option String)
  | none => .ok none
  | some value =>
    let trimmed := JavaScript.trim value
    if trimmed = "" then .ok none
    else if isHyperliquidAddress trimmed.toLower then .ok (some trimmed.toLower)
    else .error "INVALID_HYPERLIQUID_VAULT_ADDRESS"

/-- An order that only reduces a position. -/
def isReduceOnlyIntent (intent : TradeIntent) : Bool :=
  intent.rationaleIncludes "closeout" || intent.rationaleIncludes "reduce-only"

/-- The order of `prepareHyperliquidOrderRequest`, or why there is none. -/
def hyperliquidOrder (intent : TradeIntent) : Except String HyperliquidOrder := do
  let coin ← hyperliquidCoin env intent.instrumentCode
  let asset ← env.assetMeta coin
  let expectedPrice :=
    cappedExecutionPrice js intent (← positive intent.expectedPrice "EXPECTED_PRICE")
  let requestedSize ← positive intent.size "ORDER_SIZE"
  let tif := hyperliquidTif env intent
  let vaultAddress ← normalizeOptionalAddress (intent.targetSubaccount <|> env.vaultAddress)
  let wire ← hyperliquidOrderWire js env.math expectedPrice requestedSize intent.action asset
  pure
    { assetIndex := asset.assetIndex
      isBuy := intent.action == .buy
      wire
      reduceOnly := isReduceOnlyIntent intent
      tif
      cloid := hyperliquidCloid intent.intentId
      vaultAddress }

/-! ## What an order depends on -/

/-- The fields of an intent that its order is made of. -/
structure OrderFields where
  intentId : String
  instrumentCode : String
  action : Action
  executionStyle : Option ExecutionStyle
  orderType : OrderType
  postOnly : Bool
  timeInForce : TimeInForce
  expectedPrice : Number
  requestedSize : Number
  approvedSize : Option Number
  maxSlippageBps : Number
  rationale : String
  targetSubaccount : Option String
  deriving DecidableEq

/-- What an order is made of on the wire. -/
def orderFields (intent : TradeIntent) : OrderFields where
  intentId := intent.intentId
  instrumentCode := intent.instrumentCode
  action := intent.action
  executionStyle := intent.executionStyle
  orderType := intent.orderType
  postOnly := intent.postOnly
  timeInForce := intent.timeInForce
  expectedPrice := intent.expectedPrice
  requestedSize := intent.requestedSize
  approvedSize := intent.approvedSize
  maxSlippageBps := intent.maxSlippageBps
  rationale := intent.rationale
  targetSubaccount := intent.targetSubaccount

/-- Two intents meet the same gates and are decided alike there. -/
structure SameGates (first second : TradeIntent) : Prop where
  style : first.resolveExecutionStyle = second.resolveExecutionStyle
  hedge : first.isInventoryHedgeIntent = second.isInventoryHedgeIntent
  stopClose : first.isStopCloseIntent = second.isStopCloseIntent
  risk : ∀ config equity,
    evaluateExecutionRisk js first config equity = evaluateExecutionRisk js second config equity
  taker : ∀ config inventoryHedge, evaluateCascadeTakerGate js first config inventoryHedge =
    evaluateCascadeTakerGate js second config inventoryHedge
  preTrade : ∀ slippageGuardTicks config snapshot,
    preTradeDecision js slippageGuardTicks first config snapshot =
      preTradeDecision js slippageGuardTicks second config snapshot

variable {js env} {first second : TradeIntent}

/-- Intents that agree in these fields differ in nothing that is read elsewhere. -/
private theorem eq_of_orderFields (h : orderFields first = orderFields second) :
    { first with
      schemaVersion := second.schemaVersion
      traceId := second.traceId
      sourceExchange := second.sourceExchange } = second := by
  obtain ⟨⟩ := first
  obtain ⟨⟩ := second
  simp only [orderFields, OrderFields.mk.injEq] at h
  obtain ⟨rfl, rfl, rfl, rfl, rfl, rfl, rfl, rfl, rfl, rfl, rfl, rfl, rfl⟩ := h
  rfl

/-- An order is made of these fields alone. -/
theorem hyperliquidOrder_congr (h : orderFields first = orderFields second) :
    hyperliquidOrder js env first = hyperliquidOrder js env second := by
  rw [← eq_of_orderFields h]
  rfl

/-- The gates read no others either. -/
theorem sameGates_of_orderFields (h : orderFields first = orderFields second) :
    SameGates js first second := by
  rw [← eq_of_orderFields h]
  constructor
  · rfl
  · rfl
  · rfl
  · exact fun _ _ => rfl
  · exact fun _ _ => rfl
  · exact fun _ _ _ => rfl

/-! ## What a fingerprint tells -/

/-- The printed fields agree. -/
structure SamePrinted (first second : TradeIntent) : Prop where
  schemaVersion : first.schemaVersion = second.schemaVersion
  traceId : first.traceId = second.traceId
  instrumentCode : first.instrumentCode = second.instrumentCode
  action : first.action = second.action
  orderType : first.orderType = second.orderType
  postOnly : first.postOnly = second.postOnly
  timeInForce : first.timeInForce = second.timeInForce
  expectedPrice : jsonNumber first.expectedPrice = jsonNumber second.expectedPrice
  requestedSize : jsonNumber first.requestedSize = jsonNumber second.requestedSize
  approvedSize : first.approvedSize.bind jsonNumber = second.approvedSize.bind jsonNumber
  maxSlippageBps : jsonNumber first.maxSlippageBps = jsonNumber second.maxSlippageBps
  targetSubaccount : first.targetSubaccount = second.targetSubaccount

/-- What an order reads and a fingerprint does not tell agrees: the fields that are left out,
and which number it is that is printed as `null`. -/
structure SameUnprinted (first second : TradeIntent) : Prop where
  executionStyle : first.executionStyle = second.executionStyle
  rationale : first.rationale = second.rationale
  expectedPrice : first.expectedPrice = second.expectedPrice
  requestedSize : first.requestedSize = second.requestedSize
  approvedSize : first.approvedSize = second.approvedSize
  maxSlippageBps : first.maxSlippageBps = second.maxSlippageBps

/-- Fingerprints under one identifier agree where the printed fields do. -/
theorem intentFingerprint_eq_iff (hid : first.intentId = second.intentId) :
    intentFingerprint first = intentFingerprint second ↔ SamePrinted first second := by
  simp only [intentFingerprint, IntentFingerprint.mk.injEq]
  constructor
  · rintro ⟨hversion, -, htrace, hcode, haction, htype, hpost, htif, hprice, hrequested,
      happroved, hslippage, htarget⟩
    exact ⟨hversion, htrace, hcode, haction, htype, hpost, htif, hprice, hrequested, happroved,
      hslippage, htarget⟩
  · intro h
    exact ⟨h.schemaVersion, hid, h.traceId, h.instrumentCode, h.action, h.orderType, h.postOnly,
      h.timeInForce, h.expectedPrice, h.requestedSize, h.approvedSize, h.maxSlippageBps,
      h.targetSubaccount⟩

/-- Under printed fields that agree, an order depends on the unprinted ones. -/
theorem orderFields_eq_iff (hid : first.intentId = second.intentId)
    (hprinted : SamePrinted first second) :
    orderFields first = orderFields second ↔ SameUnprinted first second := by
  simp only [orderFields, OrderFields.mk.injEq]
  constructor
  · rintro ⟨-, -, -, hstyle, -, -, -, hprice, hrequested, happroved, hslippage, hrationale, -⟩
    exact ⟨hstyle, hrationale, hprice, hrequested, happroved, hslippage⟩
  · intro h
    exact ⟨hid, hprinted.instrumentCode, hprinted.action, h.executionStyle, hprinted.orderType,
      hprinted.postOnly, hprinted.timeInForce, h.expectedPrice, h.requestedSize, h.approvedSize,
      h.maxSlippageBps, h.rationale, hprinted.targetSubaccount⟩

/-! ## Replays -/

namespace IntentIdempotencyLedger

variable {β : Type} {ledger : IntentIdempotencyLedger β} {intent other : TradeIntent}
  {now t : ℤ} {response : β}

/-- The response that a ledger has for an identifier is the one of this intent. -/
def Remembers (ledger : IntentIdempotencyLedger β) (intent : TradeIntent) (now : ℤ) : Prop :=
  ∃ entry, ledger.get? intent.intentId = some entry ∧
    entry.fingerprint = intentFingerprint intent ∧ now < entry.expiresAt

/-- An intent that is remembered stays so for the time to live. -/
theorem remembers_remember (h : now < t + ttlMs) :
    Remembers (remember ledger intent t (intentFingerprint intent) response) intent now :=
  ⟨_, Rows.get?_set_self _ _ _, rfl, h⟩

/-- A remembered identifier is replayed to equal fingerprints and is a conflict to others. -/
theorem evaluate_of_remembers (h : Remembers ledger intent now)
    (hid : intent.intentId = other.intentId) :
    ∃ response, (evaluate ledger other now).1 =
      if intentFingerprint intent ≠ intentFingerprint other then .conflict
      else .replay response := by
  obtain ⟨entry, hentry, hfingerprint, halive⟩ := h
  have hpruned : (prune ledger now).get? other.intentId = some entry := by
    rw [prune, Rows.get?_filter, ← hid, hentry]
    simpa using halive
  refine ⟨entry.response, ?_⟩
  simp only [evaluate, hpruned, hfingerprint]

end IntentIdempotencyLedger

open IntentIdempotencyLedger

variable {β : Type} {ledger : IntentIdempotencyLedger β} {now : ℤ}

/-- A replay stands for an intent that alone would have placed the same order behind the same
gates, and an intent that differs in what its order is made of is a conflict. -/
structure ReplaysSafely (js : Runtime) (env : HyperliquidEnv) (ledger : IntentIdempotencyLedger β)
    (first second : TradeIntent) (now : ℤ) : Prop where
  order : ∀ response, (evaluate ledger second now).1 = .replay response →
    hyperliquidOrder js env first = hyperliquidOrder js env second
  gates : ∀ response, (evaluate ledger second now).1 = .replay response →
    SameGates js first second
  conflict : orderFields first ≠ orderFields second → (evaluate ledger second now).1 = .conflict

/-- While the first of two intents is remembered, its replays are safe for the second exactly
if printed fields that agree leave no difference in what they do not tell. -/
theorem replays_safely_iff (hid : first.intentId = second.intentId)
    (hremembered : Remembers ledger first now) :
    ReplaysSafely js env ledger first second now ↔
      (SamePrinted first second → SameUnprinted first second) := by
  obtain ⟨response, hanswer⟩ := evaluate_of_remembers hremembered hid
  by_cases hprinted : SamePrinted first second
  · rw [if_neg (not_not_intro ((intentFingerprint_eq_iff hid).mpr hprinted))] at hanswer
    rw [← orderFields_eq_iff hid hprinted]
    constructor
    · intro hsafe _
      by_contra hdiffer
      simpa [hanswer] using hsafe.conflict hdiffer
    · intro hfields
      exact ⟨fun _ _ => hyperliquidOrder_congr (hfields hprinted),
        fun _ _ => sameGates_of_orderFields (hfields hprinted),
        fun hdiffer => absurd (hfields hprinted) hdiffer⟩
  · rw [if_pos (mt (intentFingerprint_eq_iff hid).mp hprinted)] at hanswer
    constructor
    · intro _ hsame
      exact absurd hsame hprinted
    · intro _
      constructor
      · intro response hreplay
        simp [hanswer] at hreplay
      · intro response hreplay
        simp [hanswer] at hreplay
      · exact fun _ => hanswer

/-- An environment with one asset. -/
private def oneAsset : HyperliquidEnv where
  vaultAddress := none
  defaultTif := some "gtc"
  asset := some "BTC"
  assetMeta coin := .ok ⟨coin, 3, 5⟩
  math := ⟨.epsilon, fun a => Int.log 10 a⟩

/-- An IOC sale of two coins at a hundred, for a given reason. -/
private def iocSale (rationale : String) : TradeIntent where
  schemaVersion := "trade-intent.v1"
  intentId := "intent-7"
  traceId := "trace-7"
  instrumentCode := "BTC-PERP"
  sourceExchange := none
  executionStyle := none
  action := .sell
  orderType := .ioc
  postOnly := false
  timeInForce := .ioc
  expectedPrice := .finite 100
  requestedSize := .finite 2
  approvedSize := none
  maxSlippageBps := .finite 10
  rationale := rationale
  targetSubaccount := none

private def afterSale (rationale : String) : IntentIdempotencyLedger Unit :=
  remember Rows.empty (iocSale rationale) 0 (intentFingerprint (iocSale rationale)) ()

/-- The same sale, sent again from elsewhere. -/
private def resentSale : TradeIntent :=
  { iocSale "closeout" with sourceExchange := some "hyperliquid" }

/-- A sale that is sent again is replayed safely. -/
theorem resent_sale_replays_safely :
    ReplaysSafely (JavaScript.reference .exact) oneAsset (afterSale "closeout")
      (iocSale "closeout") resentSale 1000 := by
  have hid : (iocSale "closeout").intentId = resentSale.intentId := rfl
  have hremembered : Remembers (afterSale "closeout") (iocSale "closeout") 1000 :=
    remembers_remember (by decide)
  apply (replays_safely_iff hid hremembered).mpr
  intro _
  exact ⟨rfl, rfl, rfl, rfl, rfl, rfl⟩

/-- A sale that is no hedge and may open a position is answered with the replay of a hedge that
may only reduce one: the reason is not printed. -/
theorem hedge_is_replayed_to_sale :
    ∃ (hedge sale : TradeIntent) (ledger : IntentIdempotencyLedger Unit),
      ledger = remember Rows.empty hedge 0 (intentFingerprint hedge) () ∧
      (evaluate ledger sale 1000).1 = .replay () ∧
      (hyperliquidOrder (JavaScript.reference .exact) oneAsset hedge).toOption.map
        HyperliquidOrder.reduceOnly = some true ∧
      (hyperliquidOrder (JavaScript.reference .exact) oneAsset sale).toOption.map
        HyperliquidOrder.reduceOnly = some false ∧
      hedge.isInventoryHedgeIntent = true ∧ sale.isInventoryHedgeIntent = false ∧
      ¬ReplaysSafely (JavaScript.reference .exact) oneAsset ledger hedge sale 1000 := by
  have hreplay : (evaluate (afterSale "inventory_hedge reduce-only") (iocSale "cascade") 1000).1 =
      .replay () := rfl
  have hhedge : (iocSale "inventory_hedge reduce-only").isInventoryHedgeIntent = true := by
    decide +kernel
  have hsale : (iocSale "cascade").isInventoryHedgeIntent = false := by decide +kernel
  refine ⟨iocSale "inventory_hedge reduce-only", iocSale "cascade", _, rfl, hreplay, ?_, ?_,
    hhedge, hsale, ?_⟩
  · decide +kernel
  · decide +kernel
  · intro hsafe
    have hsame := (hsafe.gates () hreplay).hedge
    rw [hhedge, hsale] at hsame
    cases hsame

end Yevow.Execution
