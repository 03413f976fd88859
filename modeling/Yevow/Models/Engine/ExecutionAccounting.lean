import Mathlib.Data.Sign.Basic
import Yevow.Core.JavaScript.Record
import Yevow.Core.Number.Arithmetic

/-!
# Execution accounting

An execution report updates the order it belongs to, books the newly filled size into the
portfolio and revalues the bankroll. The slippage statistics and the published trade record
are computed from the same values and never read back, so they are left out.
-/

namespace Yevow.Engine

open JavaScript (Record)

/-- How the engine computes with prices and sizes: the stored value of an exact result, and
the rounding to eight decimals. -/
structure EngineArithmetic where
  number : ℚ → ℚ
  roundCrypto : ℚ → ℚ
  number_zero : number 0 = 0

namespace EngineArithmetic

/-- Rational arithmetic in which nothing is rounded. -/
def unrounded : EngineArithmetic := ⟨id, id, rfl⟩

/-- The code's own arithmetic, on binary64 numbers. -/
def binary64 : EngineArithmetic where
  number := Arithmetic.double.fraction
  roundCrypto value :=
    let scaled := Arithmetic.mathRound (Arithmetic.double.fraction (value * 10 ^ 8))
    Arithmetic.double.fraction (scaled / 10 ^ 8)
  number_zero := Arithmetic.double.fraction_zero

variable (ar : EngineArithmetic)

/-- A sum as the engine computes it. -/
def add (a b : ℚ) : ℚ := ar.number (a + b)
def sub (a b : ℚ) : ℚ := ar.number (a - b)
def mul (a b : ℚ) : ℚ := ar.number (a * b)
def div (a b : ℚ) : ℚ := ar.number (a / b)

/-- `0.00000001`, the size below which a position counts as closed. -/
def dust : ℚ := ar.number (1 / 10 ^ 8)

@[simp] theorem unrounded_add (a b : ℚ) : unrounded.add a b = a + b := rfl
@[simp] theorem unrounded_sub (a b : ℚ) : unrounded.sub a b = a - b := rfl
@[simp] theorem unrounded_mul (a b : ℚ) : unrounded.mul a b = a * b := rfl
@[simp] theorem unrounded_div (a b : ℚ) : unrounded.div a b = a / b := rfl
@[simp] theorem unrounded_dust : unrounded.dust = 1 / 10 ^ 8 := rfl
@[simp] theorem unrounded_roundCrypto (a : ℚ) : unrounded.roundCrypto a = a := rfl

end EngineArithmetic

/-- The side of an order. -/
inductive TradeSide
  | buy
  | sell
  deriving DecidableEq, Repr

/-- The side of a position. -/
inductive PositionSide
  | long
  | short
  deriving DecidableEq, Repr

/-- The status of an order. -/
inductive ManagedOrderStatus
  | pending
  | open
  | partialFill
  | filled
  | ghostFill
  | cancelled
  | rejected
  deriving DecidableEq, Repr

/-- What is held of an instrument. -/
structure Position where
  instrumentCode : String
  side : PositionSide
  quantity : ℚ
  averageEntryPrice : ℚ
  markPrice : ℚ
  unrealizedPnl : ℚ
  realizedPnl : ℚ
  updatedAt : String
  deriving DecidableEq

/-- The money of the engine. -/
structure Bankroll where
  currency : String
  cash : ℚ
  equity : ℚ
  realizedPnl : ℚ
  updatedAt : String
  deriving DecidableEq

/-- An order of the engine. -/
structure ManagedOrder where
  clientId : String
  exchangeOrderId : Option String
  intentId : Option String
  instrumentCode : String
  side : TradeSide
  price : Number
  size : Number
  filledSize : ℚ
  status : ManagedOrderStatus
  createdAt : String
  updatedAt : String
  ackDeadlineAt : String
  deriving DecidableEq

/-- The fields of a trade intent that an order without one of its own falls back to. -/
structure TradeIntent where
  instrumentCode : String
  action : TradeSide
  deriving DecidableEq

/-- What is reported of an order. -/
structure ExecutionReport where
  clientId : String
  exchangeOrderId : Option String
  instrumentCode : Option String
  side : Option TradeSide
  orderSize : Option Number
  status : ManagedOrderStatus
  filledSize : Option Number
  fillIncrementSize : Option Number
  achievedPrice : Option Number
  expectedPrice : Option Number
  fees : Option ℚ
  observedAt : String
  deriving DecidableEq

/-- The inventory. -/
structure InventoryState where
  current_inventory_delta : ℚ
  deriving DecidableEq

/-- The part of the engine state that reports read and write. -/
structure EngineState where
  bankroll : Bankroll
  openPositions : Record Position
  orderMap : Record ManagedOrder
  lastTradeIntent : Option TradeIntent
  inventory : InventoryState
  current_inventory_delta : ℚ
  updatedAt : String
  heartbeatAt : String

/-- A report and the state it meets. -/
structure ExecutionAccountingInput where
  state : EngineState
  report : ExecutionReport
  markPrice : String → ℚ → ℚ
  observedAt : Option String

/-- The books after a report. -/
structure ExecutionAccountingResult where
  bankroll : Bankroll
  openPositions : Record Position
  orderMap : Record ManagedOrder
  order : ManagedOrder
  fillIncrementSize : ℚ
  realizedPnlDelta : ℚ
  observedAt : String

/-- The statuses that book a fill. -/
def isPortfolioFillStatus (status : ManagedOrderStatus) : Bool :=
  status = .filled || status = .partialFill || status = .ghostFill

/-- The sign of a side. -/
def PositionSide.sign : PositionSide → ℚ
  | .long => 1
  | .short => -1

/-- A position as a signed size. -/
def signedPosition : Option Position → ℚ
  | none => 0
  | some position =>
    match position.side with
    | .long => position.quantity
    | .short => -position.quantity

variable (ar : EngineArithmetic)

/-- The bankroll at market prices. -/
def markBankrollToMarket (state : EngineState) (cash realizedPnl : ℚ)
    (positions : Record Position) (observedAt : String) (markPrice : String → ℚ → ℚ) : Bankroll :=
  let positionValue := positions.values.foldl (fun sum position =>
    let mark := markPrice position.instrumentCode position.markPrice
    ar.add sum (ar.mul (ar.mul position.side.sign position.quantity) mark)) 0
  { state.bankroll with
    cash := ar.roundCrypto cash
    equity := ar.roundCrypto (ar.add cash positionValue)
    realizedPnl := ar.roundCrypto realizedPnl
    updatedAt := observedAt }

/-! ## Booking a fill -/

/-- A fill as a signed size. -/
def fillSigned (side : TradeSide) (fillSize : ℚ) : ℚ :=
  match side with
  | .buy => fillSize
  | .sell => -fillSize

/-- The part of a fill that reduces the position it meets. -/
def closingSize (existingSigned fillSigned : ℚ) : ℚ :=
  if existingSigned ≠ 0 ∧ SignType.sign existingSigned ≠ SignType.sign fillSigned then
    min |existingSigned| |fillSigned|
  else 0

/-- The profit on what a fill closes. -/
def realizedFromClose (existingSigned fillSigned oldAverage fillPrice : ℚ) : ℚ :=
  if closingSize existingSigned fillSigned > 0 then
    ar.mul (ar.mul (ar.sub fillPrice oldAverage) (closingSize existingSigned fillSigned))
      (if existingSigned > 0 then 1 else -1)
  else 0

/-- The entry price after a fill. -/
def averageEntryPrice (existingSigned fillSigned nextSigned oldAverage fillPrice : ℚ) : ℚ :=
  if existingSigned = 0 ∨ SignType.sign existingSigned = SignType.sign fillSigned then
    ar.roundCrypto (ar.div
      (ar.add (ar.mul |existingSigned| oldAverage) (ar.mul |fillSigned| fillPrice))
      (max ar.dust (ar.add |existingSigned| |fillSigned|)))
  else if SignType.sign nextSigned = SignType.sign existingSigned then oldAverage
  else fillPrice

/-- `applyFillToPortfolio` once size and price have passed its checks. -/
def bookFill (state : EngineState) (order : ManagedOrder) (fillSize fillPrice fees : ℚ)
    (observedAt : String) (markPrice : String → ℚ → ℚ) : Bankroll × Record Position :=
  let existing := state.openPositions.get? order.instrumentCode
  let existingSigned := signedPosition existing
  let signed := fillSigned order.side fillSize
  let nextSigned := ar.roundCrypto (ar.add existingSigned signed)
  let oldAverage := existing.elim fillPrice Position.averageEntryPrice
  let realizedFromClose := realizedFromClose ar existingSigned signed oldAverage fillPrice
  let realizedPnl := ar.roundCrypto
    (ar.sub (ar.add (existing.elim 0 Position.realizedPnl) realizedFromClose) fees)
  let currentMark := markPrice order.instrumentCode fillPrice
  let positions :=
    if |nextSigned| ≤ ar.dust then state.openPositions.delete order.instrumentCode
    else
      let average := averageEntryPrice ar existingSigned signed nextSigned oldAverage fillPrice
      state.openPositions.set order.instrumentCode
        { instrumentCode := order.instrumentCode
          side := if nextSigned > 0 then .long else .short
          quantity := |nextSigned|
          averageEntryPrice := average
          markPrice := currentMark
          unrealizedPnl := ar.roundCrypto
            (ar.mul (ar.mul (ar.sub currentMark average) |nextSigned|)
              (if nextSigned > 0 then 1 else -1))
          realizedPnl
          updatedAt := observedAt }
  let cashDelta :=
    match order.side with
    | .buy => -(ar.add (ar.mul fillPrice fillSize) fees)
    | .sell => ar.sub (ar.mul fillPrice fillSize) fees
  let cash := ar.roundCrypto (ar.add state.bankroll.cash cashDelta)
  let pnl := ar.roundCrypto (ar.sub (ar.add state.bankroll.realizedPnl realizedFromClose) fees)
  (markBankrollToMarket ar state cash pnl positions observedAt markPrice, positions)

/-- A fill changes the position and the bankroll. -/
def applyFillToPortfolio (state : EngineState) (order : ManagedOrder) (fillSize : ℚ)
    (fillPrice : Number) (fees : ℚ) (observedAt : String) (markPrice : String → ℚ → ℚ) :
    Bankroll × Record Position :=
  match fillPrice with
  | .finite price =>
    if fillSize ≤ 0 ∨ price ≤ 0 then (state.bankroll, state.openPositions)
    else bookFill ar state order fillSize price fees observedAt markPrice
  | .infinite _ => (state.bankroll, state.openPositions)
  | .nan => (state.bankroll, state.openPositions)

/-! ## The report's order -/

/-- The order a report belongs to: by client id, else the first with its exchange id. -/
def existingOrder (orderMap : Record ManagedOrder) (report : ExecutionReport) :
    Option ManagedOrder :=
  match orderMap.get? report.clientId with
  | some order => some order
  | none => orderMap.values.find? fun order =>
      report.exchangeOrderId.any (fun id => id ≠ "" ∧ order.exchangeOrderId = some id)

/-- The size that an order had filled before. -/
def previousFilledSize (existing : Option ManagedOrder) : ℚ :=
  existing.elim 0 ManagedOrder.filledSize

/-- The size that an order has filled by now. -/
def cumulativeFilledSize (existing : Option ManagedOrder) (report : ExecutionReport) : ℚ :=
  match report.filledSize with
  | some (.finite size) => max 0 size
  | _ => previousFilledSize existing

/-- The size that a report adds. -/
def fillIncrementSize (existing : Option ManagedOrder) (report : ExecutionReport) : ℚ :=
  match report.fillIncrementSize with
  | some (.finite size) => max 0 size
  | _ => max 0 (ar.sub (cumulativeFilledSize existing report) (previousFilledSize existing))

/-- The order a report without a known order opens. -/
def reportedOrder (state : EngineState) (report : ExecutionReport) (observedAt : String) :
    ManagedOrder where
  clientId := report.clientId
  exchangeOrderId := report.exchangeOrderId
  intentId := some report.clientId
  instrumentCode := (report.instrumentCode <|>
    state.lastTradeIntent.map TradeIntent.instrumentCode).getD "unknown"
  side := (report.side <|> state.lastTradeIntent.map TradeIntent.action).getD .buy
  price := (report.expectedPrice <|> report.achievedPrice).getD (.finite 0)
  size := (report.orderSize <|> report.filledSize).getD (.finite 0)
  filledSize := 0
  status := .pending
  createdAt := observedAt
  updatedAt := observedAt
  ackDeadlineAt := observedAt

/-- The order after the report. -/
def updatedOrder (state : EngineState) (report : ExecutionReport) (observedAt : String) :
    ManagedOrder :=
  let existing := existingOrder state.orderMap report
  { existing.getD (reportedOrder state report observedAt) with
    exchangeOrderId := report.exchangeOrderId <|> existing.bind ManagedOrder.exchangeOrderId
    status := report.status
    filledSize := cumulativeFilledSize existing report
    updatedAt := observedAt }

/-- The price of a fill. -/
def fillPrice (report : ExecutionReport) (order : ManagedOrder) : Number :=
  (report.achievedPrice <|> report.expectedPrice).getD order.price

/-- A report is booked. -/
def applyExecutionAccounting (input : ExecutionAccountingInput) : ExecutionAccountingResult :=
  let state := input.state
  let report := input.report
  let observedAt := input.observedAt.getD report.observedAt
  let existing := existingOrder state.orderMap report
  let fillIncrementSize := fillIncrementSize ar existing report
  let order := updatedOrder state report observedAt
  let portfolio :=
    if isPortfolioFillStatus report.status = true ∧ fillIncrementSize > 0 then
      applyFillToPortfolio ar state order fillIncrementSize (fillPrice report order)
        (report.fees.getD 0) observedAt input.markPrice
    else
      (markBankrollToMarket ar state state.bankroll.cash state.bankroll.realizedPnl
        state.openPositions observedAt input.markPrice, state.openPositions)
  { bankroll := portfolio.1
    openPositions := portfolio.2
    orderMap := (state.orderMap.delete (existing.elim report.clientId ManagedOrder.clientId)).set
      order.clientId order
    order
    fillIncrementSize
    realizedPnlDelta := ar.roundCrypto
      (ar.sub portfolio.1.realizedPnl state.bankroll.realizedPnl)
    observedAt }

/-- The state after a report. -/
def stateAfterExecutionAccounting (state : EngineState) (accounting : ExecutionAccountingResult)
    (inventory : InventoryState) : EngineState :=
  { state with
    bankroll := accounting.bankroll
    openPositions := accounting.openPositions
    inventory
    current_inventory_delta := inventory.current_inventory_delta
    orderMap := accounting.orderMap
    updatedAt := accounting.observedAt
    heartbeatAt := accounting.observedAt }

/-! ## Runs -/

/-- A report as the engine receives it, with the marks and the inventory of that moment. -/
structure ExecutionStep where
  report : ExecutionReport
  observedAt : Option String
  markPrice : String → ℚ → ℚ
  inventory : InventoryState

/-- The result of accounting for one report. -/
def EngineState.accounting (state : EngineState) (step : ExecutionStep) :
    ExecutionAccountingResult :=
  applyExecutionAccounting ar ⟨state, step.report, step.markPrice, step.observedAt⟩

/-- The state after one report. -/
def EngineState.execute (state : EngineState) (step : ExecutionStep) : EngineState :=
  stateAfterExecutionAccounting state (state.accounting ar step) step.inventory

end Yevow.Engine
