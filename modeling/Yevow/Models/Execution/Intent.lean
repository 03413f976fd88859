import Yevow.Core.JavaScript.Value
import Yevow.Core.Number.Extended

/-!
# Trade intents and their gates

What an intent asks for, the style it is executed in, and the checks made before anything is
sent. A check that refuses names its reason and the status of the response.
-/

namespace Yevow.Execution

open JavaScript (Runtime)

/-- The side of an order. -/
inductive Action
  | buy
  | sell
  deriving DecidableEq

/-- The type of an order. -/
inductive OrderType
  | market
  | limit
  | ioc
  | fok
  deriving DecidableEq

/-- How long an order stands. -/
inductive TimeInForce
  | alo
  | gtc
  | ioc
  | fok
  deriving DecidableEq

/-- How an order is executed. -/
inductive ExecutionStyle
  | postOnlyQuote
  | takerIoc
  | takerMarket
  | slicedTwap
  deriving DecidableEq

/-- The strategies that are switched on. -/
inductive StrategyMode
  | off
  | marketMaking
  | cascadeRecovery
  | bothLive
  deriving DecidableEq

/-- An order that a strategy asks for. -/
structure TradeIntent where
  schemaVersion : String
  intentId : String
  traceId : String
  instrumentCode : String
  sourceExchange : Option String
  executionStyle : Option ExecutionStyle
  action : Action
  orderType : OrderType
  postOnly : Bool
  timeInForce : TimeInForce
  expectedPrice : Number
  requestedSize : Number
  approvedSize : Option Number
  maxSlippageBps : Number
  rationale : String
  /-- `targetSubaccount ?? target_subaccount`. -/
  targetSubaccount : Option String
  deriving DecidableEq

/-- The risk limits in force. -/
structure GlobalRiskConfig where
  tradingEnabled : Bool
  strategyMode : StrategyMode
  cascadeTakerEnabled : Bool
  maxPositionSize : Number
  maxPositionPct : Number
  maxInventoryUnits : Number
  maxInventoryDelta : Number
  maxSingleOrderNotionalUsd : Number
  maxSpreadBpsForTaker : Number
  hedgeEnabled : Bool
  hedgeCooldownMs : Number

/-- Why a check refuses, and the status of the response. -/
structure Rejection where
  reason : String
  status : ℕ
  deriving DecidableEq

namespace TradeIntent

/-- `approvedSize ?? requestedSize`. -/
def size (intent : TradeIntent) : Number := intent.approvedSize.getD intent.requestedSize

/-- The rationale mentions a word. -/
def rationaleIncludes (intent : TradeIntent) (part : String) : Bool :=
  part.toList <:+: intent.rationale.toLower.toList

/-- An order that hedges the inventory. -/
def isInventoryHedgeIntent (intent : TradeIntent) : Bool :=
  intent.rationaleIncludes "inventory_hedge" && intent.rationaleIncludes "reduce-only" &&
    intent.orderType == .ioc && intent.timeInForce == .ioc && !intent.postOnly

/-- An order that closes at a stop. -/
def isStopCloseIntent (intent : TradeIntent) : Bool :=
  intent.orderType == .market && !intent.postOnly &&
    (intent.rationaleIncludes "stop" || intent.rationaleIncludes "stop_loss")

/-- The style of an order that may not name one. -/
def resolveExecutionStyle (intent : TradeIntent) : ExecutionStyle :=
  match intent.executionStyle with
  | some style => style
  | none =>
    if intent.postOnly ∧ intent.orderType = .limit then .postOnlyQuote
    else if intent.orderType = .market then .takerMarket
    else if ¬intent.postOnly ∧ (intent.orderType = .ioc ∨ intent.timeInForce = .ioc) then
      .takerIoc
    else .postOnlyQuote

/-- An intent of the known version with an id. -/
def validateIntent (intent : TradeIntent) : Except String Unit :=
  if intent.schemaVersion ≠ "trade-intent.v1" ∨ intent.intentId = "" then
    .error "INVALID_TRADE_INTENT"
  else .ok ()

end TradeIntent

/-- The styles that take liquidity. -/
def isTakerExecutionStyle (style : ExecutionStyle) : Bool :=
  style == .takerIoc || style == .takerMarket

/-! ## Gates -/

variable (js : Runtime)

/-- A positive number, or none. -/
def safePositive (value : Number) : Number := if value.isPositive then value else .nan

/-- A limit applies where it is above zero. -/
private def exceeds (value limit : Number) : Bool := (Number.finite 0).lt limit && limit.lt value

/-- The risk limits of a single order. -/
def evaluateExecutionRisk (intent : TradeIntent) (config : GlobalRiskConfig)
    (bankrollEquity : Number) : Except Rejection Unit :=
  let round := js.arithmetic.fraction
  let size := intent.size
  let notional := (safePositive intent.expectedPrice).mul round (safePositive size)
  let inventoryHedge := intent.isInventoryHedgeIntent
  if !config.tradingEnabled && !(inventoryHedge && config.hedgeEnabled) then
    .error ⟨"TRADING_DISABLED", 423⟩
  else if inventoryHedge && !config.hedgeEnabled then .error ⟨"HEDGE_DISABLED", 423⟩
  else if !notional.isPositive then .error ⟨"INVALID_ORDER_NOTIONAL", 400⟩
  else if exceeds size config.maxPositionSize then .error ⟨"MAX_POSITION_SIZE_EXCEEDED", 409⟩
  else if exceeds size config.maxInventoryUnits then
    .error ⟨"MAX_INVENTORY_UNITS_EXCEEDED", 409⟩
  else if exceeds size config.maxInventoryDelta then
    .error ⟨"MAX_INVENTORY_DELTA_EXCEEDED", 409⟩
  else if (Number.finite 0).lt bankrollEquity && (Number.finite 0).lt config.maxPositionPct &&
      (bankrollEquity.mul round config.maxPositionPct).lt notional then
    .error ⟨"MAX_POSITION_PCT_EXCEEDED", 409⟩
  else if intent.executionStyle ≠ some .slicedTwap ∧
      exceeds notional config.maxSingleOrderNotionalUsd then
    .error ⟨"MAX_SINGLE_ORDER_NOTIONAL_EXCEEDED", 409⟩
  else .ok ()

/-- The gate of cascade orders that take liquidity. -/
def evaluateCascadeTakerGate (intent : TradeIntent) (config : GlobalRiskConfig)
    (inventoryHedge : Bool) : Except Rejection Unit :=
  let notional := intent.size.mul js.arithmetic.fraction intent.expectedPrice
  if inventoryHedge then .ok ()
  else if config.strategyMode ≠ .cascadeRecovery ∧ config.strategyMode ≠ .bothLive then
    .error ⟨"CASCADE_STRATEGY_MODE_DISABLED", 423⟩
  else if !config.tradingEnabled then .error ⟨"TRADING_DISABLED", 423⟩
  else if !config.cascadeTakerEnabled then .error ⟨"CASCADE_TAKER_DISABLED", 423⟩
  else if intent.executionStyle ≠ some .slicedTwap ∧
      exceeds notional config.maxSingleOrderNotionalUsd then
    .error ⟨"MAX_SINGLE_ORDER_NOTIONAL_EXCEEDED", 409⟩
  else .ok ()

/-- The spread that a taker accepts. -/
def takerSpreadDecision (bestBid bestAsk : Option Number) (maxSpreadBps : Number) :
    Except Rejection Unit :=
  let round := js.arithmetic.fraction
  match bestBid, bestAsk with
  | some bid, some ask =>
    if bid.le (.finite 0) || ask.le (.finite 0) || ask.le bid then
      .error ⟨"TAKER_BBO_INVALID", 503⟩
    else
      let mid := (bid.add round ask).div round (.finite 2)
      let spreadBps := ((ask.sub round bid).div round mid).mul round (.finite 10000)
      if maxSpreadBps.lt spreadBps then .error ⟨"TAKER_SPREAD_TOO_WIDE", 409⟩ else .ok ()
  | _, _ => .error ⟨"TAKER_BBO_INVALID", 503⟩

/-- How far beyond the touch an order is priced. -/
def takerExpectedSlippageBps (intent : TradeIntent) (touch : Number) : Number :=
  let round := js.arithmetic.fraction
  if touch.le (.finite 0) then .infinite false
  else
    let difference := match intent.action with
      | .buy => intent.expectedPrice.sub round touch
      | .sell => touch.sub round intent.expectedPrice
    (Number.finite 0).max ((difference.div round touch).mul round (.finite 10000))

/-- A level of the order book. -/
structure BookLevel where
  price : Number
  size : Number

/-- A book as the engine answers; numbers that are not finite are absent. -/
structure BookSnapshot where
  bestBid : Option Number
  bestAsk : Option Number
  tickSize : Option Number
  bids : List BookLevel
  asks : List BookLevel

/-- Whether a post-only order would trade at once. -/
private def wouldCross (intent : TradeIntent) (snapshot : BookSnapshot) : Bool :=
  match intent.action with
  | .buy => snapshot.bestAsk.any fun ask => ask.le intent.expectedPrice
  | .sell => snapshot.bestBid.any fun bid => intent.expectedPrice.le bid

/-- The size that rests at the limit price or better. -/
private def fillableSize (intent : TradeIntent) (snapshot : BookSnapshot) : Number :=
  let levels := match intent.action with
    | .buy => snapshot.asks.filter fun (level : BookLevel) => level.price.le intent.expectedPrice
    | .sell => snapshot.bids.filter fun (level : BookLevel) => intent.expectedPrice.le level.price
  Number.sum js.arithmetic.fraction (levels.map BookLevel.size)

/-- `validatePreTrade` once the book is there, or absent. -/
def preTradeDecision (slippageGuardTicks : Number) (intent : TradeIntent)
    (config : GlobalRiskConfig) (snapshot : Option BookSnapshot) : Except Rejection Unit :=
  let round := js.arithmetic.fraction
  let style := intent.resolveExecutionStyle
  match snapshot with
  | none =>
    if isTakerExecutionStyle style then .error ⟨"TAKER_BBO_UNAVAILABLE", 503⟩ else .ok ()
  | some snapshot =>
    let touch := match intent.action with
      | .buy => snapshot.bestAsk
      | .sell => snapshot.bestBid
    let guardTicks := if slippageGuardTicks.isPositive then slippageGuardTicks else .finite 0
    let guard := (snapshot.tickSize.getD (.finite 0)).mul round guardTicks
    if intent.postOnly && wouldCross intent snapshot then .error ⟨"POST_ONLY_WOULD_CROSS", 409⟩
    else if (Number.finite 0).lt guard && style == .postOnlyQuote &&
        touch.any fun touch => guard.lt (touch.sub round intent.expectedPrice).abs then
      .error ⟨"BBO_DRIFT_EXCEEDED", 409⟩
    else do
      if isTakerExecutionStyle style then
        takerSpreadDecision js snapshot.bestBid snapshot.bestAsk config.maxSpreadBpsForTaker
        if style = .takerIoc then
          match touch with
          | none => throw ⟨"TAKER_TOUCH_UNAVAILABLE", 503⟩
          | some touch =>
            if intent.maxSlippageBps.lt (takerExpectedSlippageBps js intent touch) then
              throw ⟨"TAKER_SLIPPAGE_CAP_EXCEEDED", 409⟩
      if intent.timeInForce = .fok ∧
          ((fillableSize js intent snapshot).add round (.finite (round (1 / 10 ^ 8)))).lt
            intent.size then
        throw ⟨"FOK_NOT_FULLY_FILLABLE", 409⟩

/-! ## Slices -/

/-- How an order is cut into slices. -/
structure TwapSliceConfig where
  sliceNotionalPerChunk : Number
  sliceIntervalMs : Number
  sliceJitterMs : Number

/-- A slice and its delay. -/
structure TwapSlice where
  intent : TradeIntent
  delayMs : ℤ
  deriving DecidableEq

/-- A finite value above zero. -/
def positiveOrNull : Number → Option ℚ
  | .finite a => if 0 < a then some a else none
  | .infinite _ => none
  | .nan => none

/-- `Number(value.toFixed(8))`; from `10 ^ 21` on the text is the value's own. -/
def roundOrderSize (value : ℚ) : ℚ :=
  if 10 ^ 21 ≤ |value| then value
  else js.arithmetic.fraction (Arithmetic.mathRound (value * 10 ^ 8) / 10 ^ 8)

/-- A remainder with the sign of the dividend. -/
private def remainder (a b : ℚ) : ℚ :=
  let quotient := a / b
  a - b * (if 0 ≤ quotient then ⌊quotient⌋ else ⌈quotient⌉)

/-- When a slice is due. -/
def twapDelay (intervalMs jitterMs : Number) (index : ℕ) : ℤ :=
  let round := js.arithmetic.fraction
  let base := (positiveOrNull intervalMs).getD 0
  let deterministicJitter := match positiveOrNull jitterMs with
    | none => 0
    | some jitter => round (remainder (index * 9973) (round (round (jitter * 2) + 1)) - jitter)
  max 0 (Arithmetic.mathRound (round (base + deterministicJitter)))

/-- An order cut into slices. -/
def buildTwapSlices (intent : TradeIntent) (config : TwapSliceConfig) : List TwapSlice :=
  let round := js.arithmetic.fraction
  let size := (positiveOrNull intent.size).getD 0
  let price := (positiveOrNull intent.expectedPrice).getD 0
  let notional := round (size * price)
  let perChunkNotional := (positiveOrNull config.sliceNotionalPerChunk).getD (max notional 1)
  let count := max 1 ⌈round (notional / perChunkNotional)⌉.toNat
  let chunkSize := round (size / count)
  (List.range count).filterMap fun index =>
    let sliceSize :=
      if index = count - 1 then round (size - round (chunkSize * index)) else chunkSize
    if sliceSize ≤ 0 then none
    else
      some
        { intent :=
            { intent with
              intentId := intent.intentId ++ "-slice-" ++ toString (index + 1)
              executionStyle := some .takerIoc
              orderType := .ioc
              postOnly := false
              timeInForce := .ioc
              requestedSize := .finite (roundOrderSize js sliceSize)
              approvedSize := some (.finite (roundOrderSize js sliceSize))
              rationale := intent.rationale ++ " sliced_twap_child=" ++ toString (index + 1) ++
                "/" ++ toString count }
          delayMs :=
            if index = 0 then 0
            else twapDelay js config.sliceIntervalMs config.sliceJitterMs index }

end Yevow.Execution
