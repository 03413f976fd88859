import Yevow.Core.Collection.Slots
import Yevow.Core.Number.Single

/-!
# The shadow queue

A `GhostBook` keeps virtual limit orders in a fixed number of slots. An order that trades have
consumed becomes a ghost fill, which waits for a number of trades of its instrument and is
then decided by the drift of the mid price. The numbers of a slot are kept in binary32 but
for prices and sequence numbers. Times and the texts made for display are left out, and the
counters are natural numbers.
-/

namespace Yevow.Shadow

/-- The rounding of an exact result to binary64. -/
def round : ℚ → ℚ := Rounding.roundRational 53 (-1074)

/-- The state of a slot. -/
inductive SlotState
  | empty
  | active
  | pendingDrift
  deriving DecidableEq

/-- `0`, `SIDE_BUY` or `SIDE_SELL`. -/
inductive SideCode
  | none
  | buy
  | sell
  deriving DecidableEq

/-- The side of a virtual order. -/
inductive Side
  | buy
  | sell
  deriving DecidableEq

/-- The other side. -/
def oppositeSide : Side → Side
  | .buy => .sell
  | .sell => .buy

/-- The parts of `vlo:instrument:sequence:slot`. -/
structure FillId where
  instrumentCode : String
  sequence : Number
  slot : ℕ
  deriving DecidableEq

/-- What the parallel arrays hold for one slot. The text `""` is no fill identifier. -/
structure GhostSlot where
  state : SlotState
  side : SideCode
  instrumentCode : String
  price : Number
  sequence : Number
  size : Number
  queueAhead : Number
  p0Mid : Number
  fillSize : Number
  fillPrice : Number
  tradesSinceFill : Number
  queueOriginal : Number
  fillId : Option FillId
  deriving DecidableEq

/-- A slot of a new book. -/
def emptySlot : GhostSlot :=
  ⟨.empty, .none, "", .finite 0, .finite 0, .finite 0, .finite 0, .finite 0, .finite 0,
    .finite 0, .finite 0, .finite 0, none⟩

/-- The size and delays of a ghost book. -/
structure GhostBookConfig where
  capacity : ℕ
  driftTradeDelay : ℕ
  queueDepthMultiplier : Number
  minSize : Number
  capacity_pos : 1 ≤ capacity
  delay_pos : 1 ≤ driftTradeDelay

/-- Virtual orders, and what became of them. -/
structure GhostBook (config : GhostBookConfig) where
  slots : Fin config.capacity → GhostSlot
  writeCursor : Fin config.capacity
  ghostFills : ℕ
  greenLights : ℕ
  redLights : ℕ
  noEdgeSignals : ℕ
  invertedSignals : ℕ
  confirmedSignals : ℕ

/-- The taker side of a tick. -/
inductive TickSide
  | buy
  | sell
  | unknown
  deriving DecidableEq

/-- A trade. -/
structure MarketTick where
  instrumentCode : String
  price : Number
  size : Number
  side : TickSide
  sequence : Number

/-- The fields of a book that are read. A level is its size. -/
structure InternalOrderBook where
  instrumentCode : String
  bids : List Number
  asks : List Number
  bestBid : Option Number
  bestAsk : Option Number
  midPrice : Option Number
  tickSize : Number
  sequence : Number

/-- A virtual order that was filled. -/
structure ShadowQueueFill where
  fillId : FillId
  instrumentCode : String
  side : Side
  price : Number
  size : Number
  queueAhead : Number
  p0MidPrice : Number
  fillTradeSequence : Number
  deriving DecidableEq

/-- What became of the price after a fill. -/
inductive ShadowQueueLight
  | greenLight
  | redLight
  | noEdge
  deriving DecidableEq

/-- The decision on a filled order. -/
structure ShadowQueueDecision where
  fillId : FillId
  instrumentCode : String
  originalSide : Side
  action : ShadowQueueLight
  dispatchSide : Option Side
  p0MidPrice : Number
  pnMidPrice : Number
  microDrift : Number
  driftTrades : Number
  tickThreshold : Number
  deriving DecidableEq

/-- What a numeric cell holds once a value is set: what is not finite becomes zero. -/
def cell : Number → Number
  | .finite a => (Number.finite a).fround
  | .infinite _ => .finite 0
  | .nan => .finite 0

/-- `topLevelSize(book, side)` of the side's levels. -/
def topLevelSize (levels : List Number) : Number :=
  match levels with
  | [] => .finite 0
  | size :: _ => if size.isPositive then size else .finite 0

/-- The side a slot's code stands for. -/
def SideCode.side (code : SideCode) : Side := if code = .buy then .buy else .sell

namespace GhostSlot

/-- A slot once a virtual order is written. -/
def injected (config : GhostBookConfig) (instrumentCode : String) (side : SideCode)
    (price topDepth sequence : Number) : GhostSlot :=
  let virtualSize := config.minSize.max
    ((config.minSize.max (topDepth.mul round (.finite (round (2 / 100))))).min
      (config.minSize.max topDepth))
  let queueAhead := (Number.finite 0).max (topDepth.mul round config.queueDepthMultiplier)
  { state := .active
    side := side
    instrumentCode := instrumentCode
    price := price
    sequence := sequence
    size := cell virtualSize
    queueAhead := cell queueAhead
    queueOriginal := cell queueAhead
    p0Mid := cell (.finite 0)
    fillSize := cell (.finite 0)
    fillPrice := cell (.finite 0)
    tradesSinceFill := cell (.finite 0)
    fillId := none }

/-- The decision on a pending fill once its drift is due. -/
def decision (slot : GhostSlot) (index : ℕ) (book : InternalOrderBook)
    (pnMidPrice tradesSinceFill : Number) : ShadowQueueDecision :=
  let side := slot.side.side
  let microDrift := pnMidPrice.sub round slot.p0Mid
  let tickThreshold := book.tickSize.max .epsilon
  let up := tickThreshold.le microDrift
  let down := microDrift.le tickThreshold.neg
  let favorable := if side = .buy then up else down
  let adverse := if side = .buy then down else up
  let action : ShadowQueueLight :=
    if favorable then .greenLight else if adverse then .redLight else .noEdge
  { fillId := slot.fillId.getD ⟨slot.instrumentCode, slot.sequence, index⟩
    instrumentCode := slot.instrumentCode
    originalSide := side
    action := action
    dispatchSide :=
      match action with
      | .greenLight => some side
      | .redLight => some (oppositeSide side)
      | .noEdge => none
    p0MidPrice := slot.p0Mid
    pnMidPrice := pnMidPrice
    microDrift := microDrift
    driftTrades := tradesSinceFill
    tickThreshold := tickThreshold }

/-- What `advancePendingDrift` does to its slot, and the decision it returns. -/
def advance (config : GhostBookConfig) (tick : MarketTick) (book : InternalOrderBook)
    (index : ℕ) (slot : GhostSlot) : GhostSlot × Option ShadowQueueDecision :=
  match book.midPrice with
  | none => (slot, none)
  | some midPrice =>
    if slot.state ≠ .pendingDrift ∨ slot.instrumentCode ≠ tick.instrumentCode ∨
        midPrice.le (.finite 0) then (slot, none)
    else
      let tradesSinceFill := slot.tradesSinceFill.add round (.finite 1)
      let counted := { slot with tradesSinceFill := cell tradesSinceFill }
      if tradesSinceFill.lt (.finite config.driftTradeDelay) then (counted, none)
      else
        ({ counted with state := .empty, fillId := none },
          some (slot.decision index book midPrice tradesSinceFill))

/-- Whether a trade consumes what rests at a slot's price. -/
def isConsumed (slot : GhostSlot) (tick : MarketTick) : Bool :=
  let priceEpsilon := Number.finite (round (1 / 10 ^ 9))
  (slot.side == .buy && tick.side == .sell &&
      tick.price.le (slot.price.add round priceEpsilon)) ||
    (slot.side == .sell && tick.side == .buy &&
      (slot.price.sub round priceEpsilon).le tick.price)

/-- What `consumeActiveSlot` does to its slot, and the fill it returns. -/
def consume (tick : MarketTick) (book : InternalOrderBook) (index : ℕ) (slot : GhostSlot) :
    GhostSlot × Option ShadowQueueFill :=
  match book.midPrice with
  | none => (slot, none)
  | some midPrice =>
    if slot.state ≠ .active ∨ slot.instrumentCode ≠ tick.instrumentCode ∨
        midPrice.le (.finite 0) then (slot, none)
    else if !slot.isConsumed tick then (slot, none)
    else
      let remainingAhead := slot.queueAhead.sub round tick.size
      let reduced := { slot with queueAhead := cell remainingAhead }
      if (Number.finite 0).lt remainingAhead then (reduced, none)
      else
        let fillId : FillId := ⟨slot.instrumentCode, tick.sequence, index⟩
        ({ reduced with
            state := .pendingDrift
            p0Mid := cell midPrice
            fillSize := cell slot.size
            fillPrice := cell slot.price
            tradesSinceFill := cell (.finite 0)
            sequence := tick.sequence
            fillId := some fillId },
          some
            { fillId := fillId
              instrumentCode := slot.instrumentCode
              side := slot.side.side
              price := slot.price
              size := slot.size
              queueAhead := slot.queueOriginal
              p0MidPrice := midPrice
              fillTradeSequence := tick.sequence })

end GhostSlot

namespace GhostBook

variable {config : GhostBookConfig}

/-- A newly constructed book. -/
def new (config : GhostBookConfig) : GhostBook config where
  slots _ := emptySlot
  writeCursor := ⟨0, config.capacity_pos⟩
  ghostFills := 0
  greenLights := 0
  redLights := 0
  noEdgeSignals := 0
  invertedSignals := 0
  confirmedSignals := 0

/-- `reset` fills every array and clears every counter. -/
def reset (ghost : GhostBook config) : GhostBook config :=
  { ghost with
    slots := fun _ => emptySlot
    writeCursor := ⟨0, config.capacity_pos⟩
    ghostFills := 0
    greenLights := 0
    redLights := 0
    noEdgeSignals := 0
    invertedSignals := 0
    confirmedSignals := 0 }

/-- The slot some places after another, around the end. -/
def slotAfter (slot : Fin config.capacity) (attempt : ℕ) : Fin config.capacity :=
  ⟨(slot + attempt) % config.capacity, Nat.mod_lt _ config.capacity_pos⟩

/-- The first slot from the cursor on that holds no pending fill. Where all do it is the slot
at the cursor. -/
def nextWritableSlot (ghost : GhostBook config) : Fin config.capacity :=
  let attempts := (List.range config.capacity).map (slotAfter ghost.writeCursor)
  (attempts.find? fun slot => (ghost.slots slot).state ≠ .pendingDrift).getD ghost.writeCursor

/-- A virtual order is put in at the end of a level. -/
def injectOne (ghost : GhostBook config) (instrumentCode : String) (side : SideCode)
    (price topDepth sequence : Number) : GhostBook config :=
  if topDepth.isPositive then
    let slot := ghost.nextWritableSlot
    { ghost with
      slots := Function.update ghost.slots slot
        (GhostSlot.injected config instrumentCode side price topDepth sequence)
      writeCursor := slotAfter slot 1 }
  else ghost

/-- A best price under which an order is written. -/
def bestPrice? (best : Option Number) : Option Number :=
  best.filter fun price => (Number.finite 0).lt price

/-- A virtual order at the best bid. -/
def injectBid (ghost : GhostBook config) (book : InternalOrderBook) : GhostBook config :=
  match bestPrice? book.bestBid with
  | none => ghost
  | some bestBid =>
    ghost.injectOne book.instrumentCode .buy bestBid (topLevelSize book.bids) book.sequence

/-- A virtual order at the best ask. -/
def injectAsk (ghost : GhostBook config) (book : InternalOrderBook) : GhostBook config :=
  match bestPrice? book.bestAsk with
  | none => ghost
  | some bestAsk =>
    ghost.injectOne book.instrumentCode .sell bestAsk (topLevelSize book.asks) book.sequence

/-- Write a virtual order at each side of the best bid and offer. -/
def injectBbo (ghost : GhostBook config) (book : InternalOrderBook) : GhostBook config :=
  (ghost.injectBid book).injectAsk book

/-- Count a decision by its action. -/
def countDecision (ghost : GhostBook config) : Option ShadowQueueDecision → GhostBook config
  | none => ghost
  | some decision =>
    match decision.action with
    | .greenLight =>
      { ghost with
        greenLights := ghost.greenLights + 1
        confirmedSignals := ghost.confirmedSignals + 1 }
    | .redLight =>
      { ghost with
        redLights := ghost.redLights + 1
        invertedSignals := ghost.invertedSignals + 1 }
    | .noEdge => { ghost with noEdgeSignals := ghost.noEdgeSignals + 1 }

/-- A fill is counted. -/
def countFill (ghost : GhostBook config) : Option ShadowQueueFill → GhostBook config
  | none => ghost
  | some _ => { ghost with ghostFills := ghost.ghostFills + 1 }

/-- A trade counts towards the drift of a fill. -/
def advancePendingDrift (tick : MarketTick) (book : InternalOrderBook)
    (ghost : GhostBook config) (slot : Fin config.capacity) :
    GhostBook config × Option ShadowQueueDecision :=
  let advanced := (ghost.slots slot).advance config tick book slot
  ({ ghost with slots := Function.update ghost.slots slot advanced.1 }.countDecision advanced.2,
    advanced.2)

/-- A trade consumes the queue before an order. -/
def consumeActiveSlot (tick : MarketTick) (book : InternalOrderBook) (ghost : GhostBook config)
    (slot : Fin config.capacity) : GhostBook config × Option ShadowQueueFill :=
  let consumed := (ghost.slots slot).consume tick book slot
  ({ ghost with slots := Function.update ghost.slots slot consumed.1 }.countFill consumed.2,
    consumed.2)

end GhostBook

/-- What a trade brings out. -/
structure GhostBookObservation where
  fills : List ShadowQueueFill
  decisions : List ShadowQueueDecision
  deriving DecidableEq

/-- The trades that `observeTrade` does not ignore. -/
def isValidTrade (tick : MarketTick) (book : InternalOrderBook) : Bool :=
  !tick.size.le (.finite 0) && !tick.price.le (.finite 0) &&
    (match book.midPrice with
      | none => false
      | some midPrice => !midPrice.le (.finite 0)) &&
    (tick.side == .buy || tick.side == .sell)

namespace GhostBook

variable {config : GhostBookConfig}

/-- Advance the pending fills, then consume the active orders. -/
def observeTrade (ghost : GhostBook config) (tick : MarketTick) (book : InternalOrderBook) :
    GhostBook config × GhostBookObservation :=
  if isValidTrade tick book then
    let advanced := Slots.sweep (advancePendingDrift tick book) ghost
    let consumed := Slots.sweep (consumeActiveSlot tick book) advanced.1
    (consumed.1, ⟨consumed.2, advanced.2⟩)
  else (ghost, ⟨[], []⟩)

/-- `snapshot().pendingDrifts`. -/
def pendingDrifts (ghost : GhostBook config) : ℕ :=
  (List.finRange config.capacity).countP fun slot => (ghost.slots slot).state = .pendingDrift

/-! ## One call -/

private theorem slots_countDecision (ghost : GhostBook config) (d : Option ShadowQueueDecision) :
    (ghost.countDecision d).slots = ghost.slots := by
  unfold countDecision
  split
  · rfl
  · split <;> rfl

@[simp] theorem slots_countFill (ghost : GhostBook config) (f : Option ShadowQueueFill) :
    (ghost.countFill f).slots = ghost.slots := by
  cases f <;> rfl

/-- Advancing the pending fills touches one slot after another. -/
theorem isLocal_advancePendingDrift (tick : MarketTick) (book : InternalOrderBook) :
    Slots.IsLocal (@slots config) (fun i slot => slot.advance config tick book i)
      (@advancePendingDrift config tick book) where
  slots_eq ghost slot := by
    simp only [advancePendingDrift, slots_countDecision]
  output_eq _ _ := rfl

/-- So does consuming the active orders. -/
theorem isLocal_consumeActiveSlot (tick : MarketTick) (book : InternalOrderBook) :
    Slots.IsLocal (@slots config) (fun i slot => slot.consume tick book i)
      (@consumeActiveSlot config tick book) where
  slots_eq ghost slot := by
    simp only [consumeActiveSlot, slots_countFill]
  output_eq _ _ := rfl

/-- A reset book is a new one. -/
theorem reset_eq_new (ghost : GhostBook config) : ghost.reset = new config := rfl

end GhostBook

end Yevow.Shadow
