import Yevow.Core.JavaScript.Value
import Yevow.Models.Engine.ExecutionAccounting

/-!
# The paper ledger

Paper fills, ordered by time, open lots of their asset and close lots of the other side. A
close shares out the entry fees of its lot and the fees of its fill; what is left of a fill
after all closes opens a new lot.
-/

namespace Yevow.Paper

open Engine (EngineArithmetic TradeSide)
open JavaScript (Runtime)

/-- The side of a lot. -/
inductive PaperLedgerSide
  | long
  | short
  deriving DecidableEq, Repr

/-- What an event does to a position. -/
inductive PaperLedgerEventType
  | entry
  | increase
  | reduce
  | exit
  | flip
  deriving DecidableEq, Repr

/-- A fill as it is recorded. -/
structure PaperLedgerFillInput where
  tradeId : String
  orderId : String
  asset : String
  side : TradeSide
  price : ℚ
  size : ℚ
  notional : ℚ
  fees : ℚ
  status : String
  executedAt : String
  createdAt : String
  deriving DecidableEq

/-- A fill with a valid price and size. -/
structure PaperLedgerFill where
  tradeId : String
  orderId : String
  asset : String
  side : TradeSide
  price : ℚ
  size : ℚ
  notional : ℚ
  fees : ℚ
  executedAt : String
  deriving DecidableEq

/-- A lot was opened or closed. -/
structure PaperLedgerEvent where
  eventId : String
  type : PaperLedgerEventType
  asset : String
  side : PaperLedgerSide
  fillTradeId : String
  entryTradeId : Option String
  quantity : ℚ
  entryPrice : Option ℚ
  exitPrice : Option ℚ
  grossPnl : ℚ
  fees : ℚ
  realizedPnl : ℚ
  positionQuantityAfter : ℚ
  averageEntryPriceAfter : Option ℚ
  openedAt : Option String
  executedAt : String
  deriving DecidableEq

/-- An open lot. -/
structure MutableLot where
  lotId : String
  asset : String
  side : PaperLedgerSide
  remainingSize : ℚ
  entryPrice : ℚ
  entryFeesRemaining : ℚ
  openedAt : String
  sourceTradeId : String
  deriving DecidableEq

/-- The running totals of an asset. -/
structure MutableAssetSummary where
  asset : String
  fillCount : ℕ
  buyCount : ℕ
  sellCount : ℕ
  entryCount : ℕ
  exitCount : ℕ
  buySize : ℚ
  sellSize : ℚ
  realizedGrossPnl : ℚ
  realizedNetPnl : ℚ
  totalFees : ℚ
  updatedAt : Option String
  deriving DecidableEq

/-- What is held of an asset. -/
structure PaperLedgerPosition where
  asset : String
  side : PaperLedgerSide
  quantity : ℚ
  averageEntryPrice : ℚ
  openNotional : ℚ
  entryFeesRemaining : ℚ
  lotCount : ℕ
  openedAt : String
  updatedAt : String
  lots : List MutableLot

/-- The totals of an asset. -/
structure PaperLedgerAssetSummary where
  asset : String
  fillCount : ℕ
  buyCount : ℕ
  sellCount : ℕ
  entryCount : ℕ
  exitCount : ℕ
  buySize : ℚ
  sellSize : ℚ
  realizedGrossPnl : ℚ
  realizedNetPnl : ℚ
  totalFees : ℚ
  openQuantity : ℚ
  openSide : Option PaperLedgerSide
  averageEntryPrice : Option ℚ
  openedAt : Option String
  updatedAt : Option String

/-- The totals of the ledger. -/
structure PaperLedgerSummary where
  fillCount : ℕ
  entryCount : ℕ
  exitCount : ℕ
  openPositionCount : ℕ
  realizedGrossPnl : ℚ
  realizedNetPnl : ℚ
  totalFees : ℚ
  openFees : ℚ
  grossNotional : ℚ

/-- The ledger of all fills. -/
structure PaperLedger where
  fills : List PaperLedgerFill
  events : List PaperLedgerEvent
  positions : List PaperLedgerPosition
  assets : List PaperLedgerAssetSummary
  summary : PaperLedgerSummary

variable (js : Runtime) (ar : EngineArithmetic)

/-- `1e-10`. -/
def epsilon : ℚ := ar.number (1 / 10 ^ 10)

/-! ## Fills -/

/-- The trimmed name in small letters; only ASCII letters are lowered. -/
def normalizeAsset (asset : String) : String := (JavaScript.trim asset).toLower

/-- A value above zero, or zero. -/
def positive (value : ℚ) : ℚ := if 0 < value then value else 0

/-- A value that is not negative, or zero. -/
def nonNegative (value : ℚ) : ℚ := if 0 < value then value else 0

/-- A filled order with a price and a size. -/
def isValidFill (fill : PaperLedgerFillInput) : Bool :=
  fill.status = "GHOST_FILL" ∧ fill.tradeId ≠ "" ∧ 0 < positive fill.price ∧ 0 < positive fill.size

/-- Times that cannot be read compare as equal, which is how sorting takes NaN. -/
def compareFillTime (left right : PaperLedgerFillInput) : ℤ :=
  match js.dateParse left.executedAt, js.dateParse right.executedAt with
  | some l, some r =>
    if l - r ≠ 0 then l - r
    else match js.dateParse left.createdAt, js.dateParse right.createdAt with
      | some l, some r =>
        if l - r ≠ 0 then l - r else js.localeCompare.compare left.tradeId right.tradeId
      | _, _ => 0
  | _, _ => 0

/-- A fill in the form the ledger works with. -/
def normalizeFill (fill : PaperLedgerFillInput) : PaperLedgerFill :=
  { tradeId := fill.tradeId
    orderId := fill.orderId
    asset := normalizeAsset fill.asset
    side := fill.side
    price := ar.roundCrypto fill.price
    size := ar.roundCrypto fill.size
    notional := ar.roundCrypto
      (if fill.notional ≠ 0 then fill.notional else ar.mul fill.price fill.size)
    fees := ar.roundCrypto (nonNegative fill.fees)
    executedAt := fill.executedAt }

/-- The fills of the ledger: the valid ones, by time. -/
def ledgerFills (rawFills : List PaperLedgerFillInput) : List PaperLedgerFill :=
  (Sorting.sortBy (compareFillTime js) (rawFills.filter isValidFill)).map (normalizeFill ar)

/-- The fills of the ledger are the valid ones, none lost and none doubled. -/
theorem perm_ledgerFills (rawFills : List PaperLedgerFillInput) :
    (ledgerFills js ar rawFills).Perm ((rawFills.filter isValidFill).map (normalizeFill ar)) :=
  (Sorting.perm_sortBy _ _).map _

/-- The side of the lots that a fill opens. -/
def openSide : TradeSide → PaperLedgerSide
  | .buy => .long
  | .sell => .short

/-- The side of the lots that a fill closes. -/
def closeSide : TradeSide → PaperLedgerSide
  | .buy => .short
  | .sell => .long

/-! ## Lots -/

/-- `xs.reduce((sum, x) => sum + f(x), 0)`. -/
def sumBy {α : Type} (f : α → ℚ) (xs : List α) : ℚ :=
  xs.foldl (fun sum x => ar.add sum (f x)) 0

theorem sumBy_unrounded {α : Type} (f : α → ℚ) (xs : List α) :
    sumBy .unrounded f xs = (xs.map f).sum := by
  rw [sumBy, List.sum_eq_foldl, List.foldl_map]
  rfl

/-- The size held on one side. -/
def positionQuantity (lots : List MutableLot) (side : PaperLedgerSide) : ℚ :=
  sumBy ar MutableLot.remainingSize (lots.filter (·.side = side))

/-- The entry price, weighted by size. -/
def averageEntryPrice (lots : List MutableLot) (side : PaperLedgerSide) : Option ℚ :=
  let activeLots := lots.filter fun lot => lot.side = side ∧ epsilon ar < lot.remainingSize
  if activeLots = [] then none
  else
    let quantity := sumBy ar MutableLot.remainingSize activeLots
    let notional := sumBy ar (fun lot => ar.mul lot.remainingSize lot.entryPrice) activeLots
    some (ar.roundCrypto (ar.div notional (max (epsilon ar) quantity)))

/-- The position that the lots make up. -/
def positionFromLots (asset : String) (lots : List MutableLot) : List PaperLedgerPosition :=
  match lots.filter fun lot => epsilon ar < lot.remainingSize with
  | [] => []
  | first :: rest =>
    let activeLots := first :: rest
    let quantity := sumBy ar MutableLot.remainingSize activeLots
    let entryValue := sumBy ar (fun lot => ar.mul lot.remainingSize lot.entryPrice) activeLots
    [{ asset := asset
       side := first.side
       quantity := ar.roundCrypto quantity
       averageEntryPrice := ar.roundCrypto (ar.div entryValue (max (epsilon ar) quantity))
       openNotional := ar.roundCrypto entryValue
       entryFeesRemaining := ar.roundCrypto (sumBy ar MutableLot.entryFeesRemaining activeLots)
       lotCount := activeLots.length
       openedAt := activeLots.foldl
         (fun oldest lot => if lot.openedAt < oldest then lot.openedAt else oldest) first.openedAt
       updatedAt := activeLots.foldl
         (fun latest lot => if latest < lot.openedAt then lot.openedAt else latest) first.openedAt
       lots := activeLots.map fun lot =>
         { lot with
           remainingSize := ar.roundCrypto lot.remainingSize
           entryPrice := ar.roundCrypto lot.entryPrice
           entryFeesRemaining := ar.roundCrypto lot.entryFeesRemaining } }]

/-! ## Processing a fill -/

/-- The lots, totals and events so far. -/
structure LedgerState where
  openLots : Rows String (List MutableLot)
  summaries : Rows String MutableAssetSummary
  events : List PaperLedgerEvent
  grossNotional : ℚ
  totalFees : ℚ

/-- The variables of the body that processes one fill. -/
structure FillProgress where
  fill : PaperLedgerFill
  asset : String
  lots : List MutableLot
  hadOppositeLots : Bool
  hadSameSideLots : Bool
  fillFee : ℚ
  originalSize : ℚ
  remainingSize : ℚ
  closeIndex : ℕ

/-- `summaryFor`, where the summary is not there yet. -/
def emptySummary (asset : String) : MutableAssetSummary :=
  { asset := asset
    fillCount := 0
    buyCount := 0
    sellCount := 0
    entryCount := 0
    exitCount := 0
    buySize := 0
    sellSize := 0
    realizedGrossPnl := 0
    realizedNetPnl := 0
    totalFees := 0
    updatedAt := none }

namespace LedgerState

/-- The state before the first fill. -/
def initial : LedgerState := ⟨Rows.empty, Rows.empty, [], 0, 0⟩

/-- The open lots of an asset. -/
def lots (state : LedgerState) (asset : String) : List MutableLot :=
  (state.openLots.get? asset).getD []

/-- The running totals of an asset. -/
def summaryFor (state : LedgerState) (asset : String) : MutableAssetSummary :=
  (state.summaries.get? asset).getD (emptySummary asset)

end LedgerState

/-- A summary once a fill of its asset is counted. -/
def MutableAssetSummary.count (summary : MutableAssetSummary) (fill : PaperLedgerFill) :
    MutableAssetSummary :=
  { summary with
    fillCount := summary.fillCount + 1
    buyCount := summary.buyCount + if fill.side = .buy then 1 else 0
    sellCount := summary.sellCount + if fill.side = .sell then 1 else 0
    buySize := ar.add summary.buySize (if fill.side = .buy then fill.size else 0)
    sellSize := ar.add summary.sellSize (if fill.side = .sell then fill.size else 0)
    totalFees := ar.add summary.totalFees (nonNegative fill.fees)
    updatedAt := some fill.executedAt }

/-- What happens to a fill before its first close. -/
def beginFill (state : LedgerState) (fill : PaperLedgerFill) : LedgerState × FillProgress :=
  let asset := normalizeAsset fill.asset
  let lots := state.lots asset
  let fillFee := nonNegative fill.fees
  let originalSize := positive fill.size
  ({ state with
     summaries := state.summaries.set asset ((state.summaryFor asset).count ar fill)
     grossNotional := ar.add state.grossNotional fill.notional
     totalFees := ar.add state.totalFees fillFee },
    { fill := fill
      asset := asset
      lots := lots
      hadOppositeLots := lots.any (·.side = closeSide fill.side)
      hadSameSideLots := lots.any (·.side = openSide fill.side)
      fillFee := fillFee
      originalSize := originalSize
      remainingSize := originalSize
      closeIndex := 0 })

/-- How much of a lot a fill closes, and what it shares out. -/
structure LotClose where
  closeSize : ℚ
  entryFeeAllocated : ℚ
  exitFeeAllocated : ℚ
  grossPnl : ℚ

/-- What a fill closes of a lot. -/
def FillProgress.close (progress : FillProgress) (lot : MutableLot) : LotClose :=
  let closeSize := min progress.remainingSize lot.remainingSize
  { closeSize := closeSize
    entryFeeAllocated := ar.div (ar.mul lot.entryFeesRemaining closeSize) lot.remainingSize
    exitFeeAllocated := ar.div (ar.mul progress.fillFee closeSize) progress.originalSize
    grossPnl := match lot.side with
      | .long => ar.mul (ar.sub progress.fill.price lot.entryPrice) closeSize
      | .short => ar.mul (ar.sub lot.entryPrice progress.fill.price) closeSize }

/-- The profit after the fees of both ends. -/
def LotClose.realizedPnl (close : LotClose) : ℚ :=
  ar.sub (ar.sub close.grossPnl close.entryFeeAllocated) close.exitFeeAllocated

/-- The lot after a close. -/
def MutableLot.afterClose (lot : MutableLot) (close : LotClose) : MutableLot :=
  { lot with
    remainingSize := ar.roundCrypto (ar.sub lot.remainingSize close.closeSize)
    entryFeesRemaining := ar.roundCrypto (ar.sub lot.entryFeesRemaining close.entryFeeAllocated) }

/-- The event of a close. -/
def closeEvent (progress : FillProgress) (lot : MutableLot) (close : LotClose)
    (lots : List MutableLot) : PaperLedgerEvent :=
  { eventId := progress.fill.tradeId ++ ":close:" ++ toString progress.closeIndex
    type := if (lot.afterClose ar close).remainingSize ≤ epsilon ar then .exit else .reduce
    asset := progress.asset
    side := lot.side
    fillTradeId := progress.fill.tradeId
    entryTradeId := some lot.sourceTradeId
    quantity := ar.roundCrypto close.closeSize
    entryPrice := some (ar.roundCrypto lot.entryPrice)
    exitPrice := some (ar.roundCrypto progress.fill.price)
    grossPnl := ar.roundCrypto close.grossPnl
    fees := ar.roundCrypto (ar.add close.entryFeeAllocated close.exitFeeAllocated)
    realizedPnl := ar.roundCrypto (close.realizedPnl ar)
    positionQuantityAfter := ar.roundCrypto (positionQuantity ar lots lot.side)
    averageEntryPriceAfter := averageEntryPrice ar lots lot.side
    openedAt := some lot.openedAt
    executedAt := progress.fill.executedAt }

/-- The loop's condition and its search: the first lot of the other side, if the fill has
anything left to close it with. -/
def FillProgress.nextLot (progress : FillProgress) : Option (ℕ × MutableLot) :=
  if progress.remainingSize ≤ epsilon ar then none
  else do
    let lotIndex ← progress.lots.findIdx? fun lot =>
      lot.side = closeSide progress.fill.side ∧ epsilon ar < lot.remainingSize
    let lot ← progress.lots[lotIndex]?
    return (lotIndex, lot)

/-- One round of the loop, absent where the loop ends. -/
def closeOnce : LedgerState × FillProgress → Option (LedgerState × FillProgress)
  | (state, progress) =>
    match progress.nextLot ar with
    | none => none
    | some (lotIndex, lot) =>
      let close := progress.close ar lot
      let closed := lot.afterClose ar close
      let lots :=
        if closed.remainingSize ≤ epsilon ar then progress.lots.eraseIdx lotIndex
        else progress.lots.set lotIndex closed
      let summary := state.summaryFor progress.asset
      some
        ({ state with
           summaries := state.summaries.set progress.asset
             { summary with
               exitCount := summary.exitCount + 1
               realizedGrossPnl := ar.add summary.realizedGrossPnl close.grossPnl
               realizedNetPnl := ar.add summary.realizedNetPnl (close.realizedPnl ar) }
           events := state.events ++ [closeEvent ar progress lot close lots] },
          { progress with
            lots := lots
            remainingSize := ar.roundCrypto (ar.sub progress.remainingSize close.closeSize)
            closeIndex := progress.closeIndex + 1 })

/-- The loop; absent where it has not ended within a number of rounds. -/
def closeLots : ℕ → LedgerState × FillProgress → Option (LedgerState × FillProgress)
  | 0, s => if (closeOnce ar s).isNone then some s else none
  | fuel + 1, s =>
    match closeOnce ar s with
    | none => some s
    | some next => closeLots fuel next

/-- The lot that what is left of a fill opens. -/
def FillProgress.openedLot (progress : FillProgress) (eventCount : ℕ) : MutableLot :=
  { lotId := progress.fill.tradeId ++ ":lot:" ++ toString eventCount
    asset := progress.asset
    side := openSide progress.fill.side
    remainingSize := ar.roundCrypto progress.remainingSize
    entryPrice := ar.roundCrypto progress.fill.price
    entryFeesRemaining := ar.roundCrypto
      (ar.div (ar.mul progress.fillFee progress.remainingSize) progress.originalSize)
    openedAt := progress.fill.executedAt
    sourceTradeId := progress.fill.tradeId }

/-- The event of an opened lot. -/
def openEvent (progress : FillProgress) (lot : MutableLot) (lots : List MutableLot) :
    PaperLedgerEvent :=
  { eventId := progress.fill.tradeId ++ ":open"
    type :=
      if progress.hadOppositeLots then .flip
      else if progress.hadSameSideLots then .increase
      else .entry
    asset := progress.asset
    side := openSide progress.fill.side
    fillTradeId := progress.fill.tradeId
    entryTradeId := some progress.fill.tradeId
    quantity := lot.remainingSize
    entryPrice := some lot.entryPrice
    exitPrice := none
    grossPnl := 0
    fees := lot.entryFeesRemaining
    realizedPnl := 0
    positionQuantityAfter := ar.roundCrypto (positionQuantity ar lots (openSide progress.fill.side))
    averageEntryPriceAfter := averageEntryPrice ar lots (openSide progress.fill.side)
    openedAt := some progress.fill.executedAt
    executedAt := progress.fill.executedAt }

/-- What happens to a fill after its last close. -/
def finishFill : LedgerState × FillProgress → LedgerState
  | (state, progress) =>
    if epsilon ar < progress.remainingSize then
      let lot := progress.openedLot ar state.events.length
      let lots := progress.lots ++ [lot]
      let summary := state.summaryFor progress.asset
      { state with
        openLots := state.openLots.set progress.asset lots
        summaries := state.summaries.set progress.asset
          { summary with entryCount := summary.entryCount + 1 }
        events := state.events ++ [openEvent ar progress lot lots] }
    else { state with openLots := state.openLots.set progress.asset progress.lots }

/-- A fill closes opposite lots and opens the rest. -/
def applyFill (fuel : ℕ) (state : LedgerState) (fill : PaperLedgerFill) : Option LedgerState :=
  (closeLots ar fuel (beginFill ar state fill)).map (finishFill ar)

/-- The loop over the fills. -/
def applyFills (fuel : ℕ) (fills : List PaperLedgerFill) : Option LedgerState :=
  fills.foldlM (applyFill ar fuel) .initial

/-! ## The ledger -/

/-- The totals of an asset with its position. -/
def assetSummary (summary : MutableAssetSummary) (position : Option PaperLedgerPosition) :
    PaperLedgerAssetSummary :=
  { asset := summary.asset
    fillCount := summary.fillCount
    buyCount := summary.buyCount
    sellCount := summary.sellCount
    entryCount := summary.entryCount
    exitCount := summary.exitCount
    buySize := ar.roundCrypto summary.buySize
    sellSize := ar.roundCrypto summary.sellSize
    realizedGrossPnl := ar.roundCrypto summary.realizedGrossPnl
    realizedNetPnl := ar.roundCrypto summary.realizedNetPnl
    totalFees := ar.roundCrypto summary.totalFees
    openQuantity := match position with
      | some position =>
        ar.roundCrypto (ar.mul position.quantity (if position.side = .long then 1 else -1))
      | none => 0
    openSide := position.map PaperLedgerPosition.side
    averageEntryPrice := position.map PaperLedgerPosition.averageEntryPrice
    openedAt := position.map PaperLedgerPosition.openedAt
    updatedAt := summary.updatedAt }

/-- The events that count as entries. -/
def isEntryEvent : PaperLedgerEventType → Bool
  | .entry | .increase | .flip => true
  | .reduce | .exit => false

/-- The events that count as exits. -/
def isExitEvent : PaperLedgerEventType → Bool
  | .reduce | .exit => true
  | .entry | .increase | .flip => false

/-- The ledger that the state after the last fill shows. -/
def ledgerOf (fills : List PaperLedgerFill) (state : LedgerState) : PaperLedger :=
  let positions := Sorting.sortBy
    (fun left right => js.localeCompare.compare left.asset right.asset)
    (state.openLots.entries.flatMap fun (asset, lots) => positionFromLots ar asset lots)
  let assets := Sorting.sortBy
    (fun left right => js.localeCompare.compare left.asset right.asset)
    (state.summaries.rows.map fun summary =>
      assetSummary ar summary (positions.find? (·.asset = summary.asset)))
  { fills := fills
    events := state.events
    positions := positions
    assets := assets
    summary :=
      { fillCount := fills.length
        entryCount := (state.events.filter (isEntryEvent ·.type)).length
        exitCount := (state.events.filter (isExitEvent ·.type)).length
        openPositionCount := positions.length
        realizedGrossPnl := ar.roundCrypto
          (sumBy ar PaperLedgerAssetSummary.realizedGrossPnl assets)
        realizedNetPnl := ar.roundCrypto (sumBy ar PaperLedgerAssetSummary.realizedNetPnl assets)
        totalFees := ar.roundCrypto state.totalFees
        openFees := ar.roundCrypto (sumBy ar PaperLedgerPosition.entryFeesRemaining positions)
        grossNotional := ar.roundCrypto state.grossNotional } }

/-- `buildPaperLedger`; absent where a fill's loop has not ended within a number of rounds. -/
def buildPaperLedger (fuel : ℕ) (rawFills : List PaperLedgerFillInput) : Option PaperLedger :=
  (applyFills ar fuel (ledgerFills js ar rawFills)).map
    (ledgerOf js ar (ledgerFills js ar rawFills))

end Yevow.Paper
