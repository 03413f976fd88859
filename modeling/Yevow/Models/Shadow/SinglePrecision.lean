import Mathlib.Tactic.Linarith
import Yevow.Models.Shadow.GhostBook

/-!
# The shadow queue over exact numbers

The same book with its `Float32Array` alone inexact: a store keeps the nearest number of 24
significant bits and all other arithmetic is that of the rationals. What was to be filled and
decided is told by the orders written, the trades that reach them and the fills reported.
-/

namespace Yevow.Shadow.Exact

/-- What a cell of the array keeps of a value. -/
def stored (value : ℚ) : ℚ := Rounding.roundRational 24 (Int.log 2 |value| - 23) value

/-- `Number.EPSILON`. -/
def epsilon : ℚ := 1 / 2 ^ 52

/-- `PRICE_EPSILON`. -/
def priceEpsilon : ℚ := 1 / 10 ^ 9

/-- A slot with values in single precision. -/
structure GhostSlot where
  state : SlotState
  side : SideCode
  instrumentCode : String
  price : ℚ
  sequence : Number
  size : ℚ
  queueAhead : ℚ
  p0Mid : ℚ
  fillSize : ℚ
  fillPrice : ℚ
  tradesSinceFill : ℚ
  queueOriginal : ℚ
  fillId : Option FillId
  deriving DecidableEq

/-- A slot of a new book. -/
def emptySlot : GhostSlot :=
  ⟨.empty, .none, "", 0, .finite 0, 0, 0, 0, 0, 0, 0, 0, none⟩

/-- The size and delays of a ghost book. -/
structure GhostBookConfig where
  capacity : ℕ
  driftTradeDelay : ℕ
  queueDepthMultiplier : ℚ
  minSize : ℚ
  capacity_pos : 1 ≤ capacity

/-- A ghost book in single precision. -/
structure GhostBook (config : GhostBookConfig) where
  slots : Fin config.capacity → GhostSlot
  writeCursor : Fin config.capacity

/-- A trade. -/
structure MarketTick where
  instrumentCode : String
  price : ℚ
  size : ℚ
  side : TickSide
  sequence : Number

/-- The fields of a book that are read. A level is its size. -/
structure InternalOrderBook where
  instrumentCode : String
  bids : List ℚ
  asks : List ℚ
  bestBid : Option ℚ
  bestAsk : Option ℚ
  midPrice : Option ℚ
  tickSize : ℚ
  sequence : Number

/-- A virtual order that was filled. -/
structure ShadowQueueFill where
  fillId : FillId
  instrumentCode : String
  side : Side
  price : ℚ
  size : ℚ
  queueAhead : ℚ
  p0MidPrice : ℚ
  fillTradeSequence : Number
  deriving DecidableEq

/-- The decision on a filled order. -/
structure ShadowQueueDecision where
  fillId : FillId
  instrumentCode : String
  originalSide : Side
  action : ShadowQueueLight
  dispatchSide : Option Side
  p0MidPrice : ℚ
  pnMidPrice : ℚ
  microDrift : ℚ
  driftTrades : ℚ
  tickThreshold : ℚ
  deriving DecidableEq

/-- `topLevelSize(book, side)` of the side's levels. -/
def topLevelSize (levels : List ℚ) : ℚ :=
  match levels with
  | [] => 0
  | size :: _ => if 0 < size then size else 0

/-- The size ahead of an order that is written behind a top level. -/
def queueAheadOf (config : GhostBookConfig) (topDepth : ℚ) : ℚ :=
  max 0 (topDepth * config.queueDepthMultiplier)

/-- Whether a trade consumes what rests at a price. -/
def isConsumed (side : SideCode) (price : ℚ) (tick : MarketTick) : Bool :=
  (side == .buy && tick.side == .sell && decide (tick.price ≤ price + priceEpsilon)) ||
    (side == .sell && tick.side == .buy && decide (price - priceEpsilon ≤ tick.price))

namespace GhostSlot

/-- A slot once a virtual order is written. -/
def injected (config : GhostBookConfig) (instrumentCode : String) (side : SideCode)
    (price topDepth : ℚ) (sequence : Number) : GhostSlot :=
  let virtualSize := max config.minSize
    (min (max config.minSize (topDepth * (2 / 100))) (max config.minSize topDepth))
  let queueAhead := queueAheadOf config topDepth
  { state := .active
    side := side
    instrumentCode := instrumentCode
    price := price
    sequence := sequence
    size := stored virtualSize
    queueAhead := stored queueAhead
    queueOriginal := stored queueAhead
    p0Mid := stored 0
    fillSize := stored 0
    fillPrice := stored 0
    tradesSinceFill := stored 0
    fillId := none }

/-- The decision on a pending fill once its drift is due. -/
def decision (slot : GhostSlot) (index : ℕ) (book : InternalOrderBook)
    (pnMidPrice tradesSinceFill : ℚ) : ShadowQueueDecision :=
  let side := slot.side.side
  let microDrift := pnMidPrice - slot.p0Mid
  let tickThreshold := max book.tickSize epsilon
  let favorable :=
    if side = .buy then tickThreshold ≤ microDrift else microDrift ≤ -tickThreshold
  let adverse :=
    if side = .buy then microDrift ≤ -tickThreshold else tickThreshold ≤ microDrift
  let action : ShadowQueueLight :=
    if favorable then .greenLight else if adverse then .redLight else .noEdge
  { fillId := slot.fillId.getD ⟨slot.instrumentCode, slot.sequence, index⟩
    instrumentCode := slot.instrumentCode
    originalSide := side
    action := action
    dispatchSide :=
      match action with
      | .greenLight => some side
      | .redLight => some (oppositeSide side)
      | .noEdge => none
    p0MidPrice := slot.p0Mid
    pnMidPrice := pnMidPrice
    microDrift := microDrift
    driftTrades := tradesSinceFill
    tickThreshold := tickThreshold }

/-- What `advancePendingDrift` does to its slot, and the decision it returns. -/
def advance (config : GhostBookConfig) (tick : MarketTick) (book : InternalOrderBook)
    (index : ℕ) (slot : GhostSlot) : GhostSlot × Option ShadowQueueDecision :=
  match book.midPrice with
  | none => (slot, none)
  | some midPrice =>
    if slot.state ≠ .pendingDrift ∨ slot.instrumentCode ≠ tick.instrumentCode ∨
        midPrice ≤ 0 then (slot, none)
    else
      let tradesSinceFill := slot.tradesSinceFill + 1
      let counted := { slot with tradesSinceFill := stored tradesSinceFill }
      if tradesSinceFill < config.driftTradeDelay then (counted, none)
      else
        ({ counted with state := .empty, fillId := none },
          some (slot.decision index book midPrice tradesSinceFill))

/-- What `consumeActiveSlot` does to its slot, and the fill it returns. -/
def consume (tick : MarketTick) (book : InternalOrderBook) (index : ℕ) (slot : GhostSlot) :
    GhostSlot × Option ShadowQueueFill :=
  match book.midPrice with
  | none => (slot, none)
  | some midPrice =>
    if slot.state ≠ .active ∨ slot.instrumentCode ≠ tick.instrumentCode ∨ midPrice ≤ 0 then
      (slot, none)
    else if !isConsumed slot.side slot.price tick then (slot, none)
    else
      let remainingAhead := slot.queueAhead - tick.size
      let reduced := { slot with queueAhead := stored remainingAhead }
      if 0 < remainingAhead then (reduced, none)
      else
        let fillId : FillId := ⟨slot.instrumentCode, tick.sequence, index⟩
        ({ reduced with
            state := .pendingDrift
            p0Mid := stored midPrice
            fillSize := stored slot.size
            fillPrice := stored slot.price
            tradesSinceFill := stored 0
            sequence := tick.sequence
            fillId := some fillId },
          some
            { fillId := fillId
              instrumentCode := slot.instrumentCode
              side := slot.side.side
              price := slot.price
              size := slot.size
              queueAhead := slot.queueOriginal
              p0MidPrice := midPrice
              fillTradeSequence := tick.sequence })

end GhostSlot

/-- The trades that `observeTrade` does not ignore. -/
def isValidTrade (tick : MarketTick) (book : InternalOrderBook) : Bool :=
  decide (0 < tick.size) && decide (0 < tick.price) &&
    (match book.midPrice with
      | none => false
      | some midPrice => decide (0 < midPrice)) &&
    (tick.side == .buy || tick.side == .sell)

/-- What a trade brings out. -/
structure GhostBookObservation where
  fills : List ShadowQueueFill
  decisions : List ShadowQueueDecision
  deriving DecidableEq

namespace GhostBook

variable {config : GhostBookConfig}

/-- A newly constructed book. -/
def new (config : GhostBookConfig) : GhostBook config where
  slots _ := emptySlot
  writeCursor := ⟨0, config.capacity_pos⟩

/-- The slot some places after another, around the end. -/
def slotAfter (slot : Fin config.capacity) (attempt : ℕ) : Fin config.capacity :=
  ⟨(slot + attempt) % config.capacity, Nat.mod_lt _ config.capacity_pos⟩

/-- The first slot from the cursor on that holds no pending fill. Where all do it is the slot
at the cursor. -/
def nextWritableSlot (ghost : GhostBook config) : Fin config.capacity :=
  let attempts := (List.range config.capacity).map (slotAfter ghost.writeCursor)
  (attempts.find? fun slot => (ghost.slots slot).state ≠ .pendingDrift).getD ghost.writeCursor

/-- A virtual order is put in at the end of a level. -/
def injectOne (ghost : GhostBook config) (instrumentCode : String) (side : SideCode)
    (price topDepth : ℚ) (sequence : Number) : GhostBook config :=
  if topDepth ≤ 0 then ghost
  else
    let slot := ghost.nextWritableSlot
    { slots := Function.update ghost.slots slot
        (GhostSlot.injected config instrumentCode side price topDepth sequence)
      writeCursor := slotAfter slot 1 }

/-- A virtual order at the best bid. -/
def injectBid (ghost : GhostBook config) (book : InternalOrderBook) : GhostBook config :=
  match book.bestBid with
  | none => ghost
  | some bestBid =>
    if 0 < bestBid then
      ghost.injectOne book.instrumentCode .buy bestBid (topLevelSize book.bids) book.sequence
    else ghost

/-- A virtual order at the best ask. -/
def injectAsk (ghost : GhostBook config) (book : InternalOrderBook) : GhostBook config :=
  match book.bestAsk with
  | none => ghost
  | some bestAsk =>
    if 0 < bestAsk then
      ghost.injectOne book.instrumentCode .sell bestAsk (topLevelSize book.asks) book.sequence
    else ghost

/-- Write a virtual order at each side of the best bid and offer. -/
def injectBbo (ghost : GhostBook config) (book : InternalOrderBook) : GhostBook config :=
  (ghost.injectBid book).injectAsk book

/-- A trade counts towards the drift of a fill. -/
def advancePendingDrift (tick : MarketTick) (book : InternalOrderBook)
    (ghost : GhostBook config) (slot : Fin config.capacity) :
    GhostBook config × Option ShadowQueueDecision :=
  let advanced := (ghost.slots slot).advance config tick book slot
  ({ ghost with slots := Function.update ghost.slots slot advanced.1 }, advanced.2)

/-- A trade consumes the queue before an order. -/
def consumeActiveSlot (tick : MarketTick) (book : InternalOrderBook) (ghost : GhostBook config)
    (slot : Fin config.capacity) : GhostBook config × Option ShadowQueueFill :=
  let consumed := (ghost.slots slot).consume tick book slot
  ({ ghost with slots := Function.update ghost.slots slot consumed.1 }, consumed.2)

/-- Advance the pending fills, then consume the active orders. -/
def observeTrade (ghost : GhostBook config) (tick : MarketTick) (book : InternalOrderBook) :
    GhostBook config × GhostBookObservation :=
  if isValidTrade tick book then
    let advanced := Slots.sweep (advancePendingDrift tick book) ghost
    let consumed := Slots.sweep (consumeActiveSlot tick book) advanced.1
    (consumed.1, ⟨consumed.2, advanced.2⟩)
  else (ghost, ⟨[], []⟩)

/-- Advancing the pending fills touches one slot after another. -/
theorem isLocal_advancePendingDrift (tick : MarketTick) (book : InternalOrderBook) :
    Slots.IsLocal (@slots config) (fun i slot => slot.advance config tick book i)
      (@advancePendingDrift config tick book) where
  slots_eq _ _ := rfl
  output_eq _ _ := rfl

/-- So does consuming the active orders. -/
theorem isLocal_consumeActiveSlot (tick : MarketTick) (book : InternalOrderBook) :
    Slots.IsLocal (@slots config) (fun i slot => slot.consume tick book i)
      (@consumeActiveSlot config tick book) where
  slots_eq _ _ := rfl
  output_eq _ _ := rfl

end GhostBook

/-! ## What was to happen -/

/-- A call of the ghost book. -/
inductive Call
  | injectBbo (book : InternalOrderBook)
  | observeTrade (tick : MarketTick) (book : InternalOrderBook)

/-- A virtual order as it is written. -/
structure VirtualOrder where
  instrumentCode : String
  side : SideCode
  price : ℚ
  topDepth : ℚ
  deriving DecidableEq

/-- The order at one side of a book, from its best price and its levels. -/
def orderAt (book : InternalOrderBook) (side : SideCode) (best : Option ℚ) (levels : List ℚ) :
    Option VirtualOrder :=
  match best with
  | none => none
  | some price =>
    if 0 < price ∧ 0 < topLevelSize levels then
      some ⟨book.instrumentCode, side, price, topLevelSize levels⟩
    else none

/-- The order at the best bid. -/
def InternalOrderBook.bidOrder (book : InternalOrderBook) : Option VirtualOrder :=
  orderAt book .buy book.bestBid book.bids

/-- The order at the best ask. -/
def InternalOrderBook.askOrder (book : InternalOrderBook) : Option VirtualOrder :=
  orderAt book .sell book.bestAsk book.asks

/-- Whether a trade counts against an order's queue. -/
def VirtualOrder.isEligible (order : VirtualOrder) (tick : MarketTick)
    (book : InternalOrderBook) : Bool :=
  isValidTrade tick book && order.instrumentCode == tick.instrumentCode &&
    isConsumed order.side order.price tick

/-- An order and the sizes of its eligible trades after one more trade. -/
def counted (tick : MarketTick) (book : InternalOrderBook) (o : VirtualOrder × List ℚ) :
    VirtualOrder × List ℚ :=
  (o.1, if o.1.isEligible tick book then tick.size :: o.2 else o.2)

/-- The size that eligible trades have to reach. -/
def VirtualOrder.target (config : GhostBookConfig) (order : VirtualOrder) : ℚ :=
  order.topDepth * config.queueDepthMultiplier

namespace GhostBook

variable {config : GhostBookConfig}

/-- The order that `injectBbo` leaves in a slot: the ask is written after the bid. -/
def writtenOrder (ghost : GhostBook config) (book : InternalOrderBook)
    (slot : Fin config.capacity) : Option VirtualOrder :=
  (book.askOrder.filter fun _ => (ghost.injectBid book).nextWritableSlot = slot).or
    (book.bidOrder.filter fun _ => ghost.nextWritableSlot = slot)

/-- One call of the ghost book. -/
def call (ghost : GhostBook config) : Call → GhostBook config
  | .injectBbo book => ghost.injectBbo book
  | .observeTrade tick book => (ghost.observeTrade tick book).1

end GhostBook

section Runs

variable (config : GhostBookConfig)

/-- A book after a run of calls, the newest first. -/
def after : List Call → GhostBook config
  | [] => .new config
  | c :: earlier => (after earlier).call c

/-- The order last written in a slot, with the sizes of the eligible trades since, the newest
first. -/
def lastOrder (slot : Fin config.capacity) : List Call → Option (VirtualOrder × List ℚ)
  | [] => none
  | .injectBbo book :: earlier =>
    match (after config earlier).writtenOrder book slot with
    | some order => some (order, [])
    | none => lastOrder slot earlier
  | .observeTrade tick book :: earlier =>
    (lastOrder slot earlier).map (counted tick book)

/-- The fill last reported of a slot. -/
def lastFill (slot : Fin config.capacity) : List Call → Option ShadowQueueFill
  | [] => none
  | .injectBbo _ :: earlier => lastFill slot earlier
  | .observeTrade tick book :: earlier =>
    (((after config earlier).observeTrade tick book).2.fills.find?
      fun fill => fill.fillId.slot = slot.val).or (lastFill slot earlier)

end Runs

/-- No total over the trades so far has reached the target. -/
def Unreached (target : ℚ) (sizes : List ℚ) : Prop :=
  ∀ earlier, earlier <:+ sizes → earlier ≠ [] → earlier.sum < target

/-- A trade is the first at which the total reaches the target. -/
def FirstReaches (target size : ℚ) (sizes : List ℚ) : Prop :=
  Unreached target sizes ∧ target ≤ (size :: sizes).sum

/-- How far a price has moved in favour of a side. -/
def inFavour (side : Side) (drift : ℚ) : ℚ := if side = .buy then drift else -drift

/-- A decision on a fill that its reported mid price explains. -/
structure DecidesOn (book : InternalOrderBook) (fill : ShadowQueueFill)
    (d : ShadowQueueDecision) (midPrice : ℚ) : Prop where
  fillId_eq : d.fillId = fill.fillId
  p0MidPrice_eq : d.p0MidPrice = fill.p0MidPrice
  greenLight_iff : d.action = .greenLight ↔
    book.tickSize ≤ inFavour fill.side (midPrice - fill.p0MidPrice)
  redLight_iff : d.action = .redLight ↔
    book.tickSize ≤ -inFavour fill.side (midPrice - fill.p0MidPrice)
  noEdge_iff : d.action = .noEdge ↔
    |inFavour fill.side (midPrice - fill.p0MidPrice)| < book.tickSize
  unchanged : midPrice = fill.p0MidPrice → d.action = .noEdge

/-- What a trade brings out after a run is what the run so far calls for. -/
structure Lawful (config : GhostBookConfig) (earlier : List Call) (tick : MarketTick)
    (book : InternalOrderBook) : Prop where
  /-- An order is filled at the first eligible trade that reaches its target. -/
  filled_iff : ∀ slot : Fin config.capacity,
    (∃ fill ∈ ((after config earlier).observeTrade tick book).2.fills,
      fill.fillId.slot = slot.val) ↔
    ∃ order sizes, lastOrder config slot earlier = some (order, sizes) ∧
      order.isEligible tick book ∧ FirstReaches (order.target config) tick.size sizes
  /-- A decision compares the mid price with the one its fill reports. -/
  decided : ∀ d ∈ ((after config earlier).observeTrade tick book).2.decisions,
    ∃ (slot : Fin config.capacity) (fill : ShadowQueueFill) (midPrice : ℚ),
      lastFill config slot earlier = some fill ∧ book.midPrice = some midPrice ∧
        DecidesOn book fill d midPrice

/-! ## What the array keeps -/

/-- Whether 24 significant bits hold a value. -/
def IsSingle (value : ℚ) : Prop := stored value = value

instance (value : ℚ) : Decidable (IsSingle value) := inferInstanceAs (Decidable (_ = _))

namespace GhostSlot

/-- Whether a trade reaches the order that rests in a slot. -/
def isReached (tick : MarketTick) (book : InternalOrderBook) (slot : GhostSlot) : Bool :=
  slot.state == .active && isValidTrade tick book &&
    slot.instrumentCode == tick.instrumentCode && isConsumed slot.side slot.price tick

/-- Whether a trade completes the delay of a slot's pending fill. -/
def isDue (config : GhostBookConfig) (tick : MarketTick) (book : InternalOrderBook)
    (slot : GhostSlot) : Bool :=
  slot.state == .pendingDrift && isValidTrade tick book &&
    slot.instrumentCode == tick.instrumentCode &&
    decide ((config.driftTradeDelay : ℚ) ≤ slot.tradesSinceFill + 1)

/-- What a trade stores in a slot has 24 significant bits: the size that is left ahead of an
order it reaches, or the mid price at which it fills one. A decision is taken under a tick of
at least `Number.EPSILON`. -/
structure Keeps (config : GhostBookConfig) (tick : MarketTick) (book : InternalOrderBook)
    (slot : GhostSlot) : Prop where
  remaining : slot.isReached tick book → 0 < slot.queueAhead - tick.size →
    IsSingle (slot.queueAhead - tick.size)
  midPrice : slot.isReached tick book → slot.queueAhead ≤ tick.size →
    ∀ midPrice ∈ book.midPrice, IsSingle midPrice
  tickSize : slot.isDue config tick book → epsilon ≤ book.tickSize

end GhostSlot

/-- What a call stores has 24 significant bits. -/
def GhostBook.Keeps {config : GhostBookConfig} (ghost : GhostBook config) : Call → Prop
  | .injectBbo book =>
    (∀ order ∈ book.bidOrder, IsSingle (queueAheadOf config order.topDepth)) ∧
      ∀ order ∈ book.askOrder, IsSingle (queueAheadOf config order.topDepth)
  | .observeTrade tick book => ∀ slot, (ghost.slots slot).Keeps config tick book

/-- Every call of a run does so. -/
def KeepsAll (config : GhostBookConfig) : List Call → Prop
  | [] => True
  | c :: earlier => KeepsAll config earlier ∧ (after config earlier).Keeps c

section Deciding

variable (config : GhostBookConfig) (tick : MarketTick) (book : InternalOrderBook)

instance (slot : GhostSlot) : Decidable (slot.Keeps config tick book) :=
  decidable_of_iff
    ((slot.isReached tick book → 0 < slot.queueAhead - tick.size →
        IsSingle (slot.queueAhead - tick.size)) ∧
      (slot.isReached tick book → slot.queueAhead ≤ tick.size →
        ∀ midPrice ∈ book.midPrice, IsSingle midPrice) ∧
      (slot.isDue config tick book → epsilon ≤ book.tickSize))
    ⟨fun h => ⟨h.1, h.2.1, h.2.2⟩, fun h => ⟨h.remaining, h.midPrice, h.tickSize⟩⟩

instance decidableKeeps (ghost : GhostBook config) : (c : Call) → Decidable (ghost.Keeps c)
  | .injectBbo _ => inferInstanceAs (Decidable (_ ∧ _))
  | .observeTrade _ _ => inferInstanceAs (Decidable (∀ _, _))

instance decidableKeepsAll : (calls : List Call) → Decidable (KeepsAll config calls)
  | [] => .isTrue trivial
  | c :: earlier =>
    haveI := decidableKeepsAll earlier
    inferInstanceAs (Decidable (KeepsAll config earlier ∧ (after config earlier).Keeps c))

end Deciding

/-! ## One call -/

private theorem Unreached.cons {target size : ℚ} {sizes : List ℚ} (h : Unreached target sizes)
    (hsize : (size :: sizes).sum < target) : Unreached target (size :: sizes) := by
  intro earlier hsuffix hne
  rcases List.suffix_cons_iff.mp hsuffix with rfl | hrest
  · exact hsize
  · exact h earlier hrest hne

private theorem unreached_nil (target : ℚ) : Unreached target [] := by
  intro earlier hsuffix hne
  exact absurd (List.suffix_nil.mp hsuffix) hne

/-- A total that reached the target has reached it for good. -/
theorem not_unreached_cons {target size : ℚ} {sizes : List ℚ} (h : ¬Unreached target sizes) :
    ¬Unreached target (size :: sizes) :=
  fun hall => h fun earlier hsuffix => hall earlier (hsuffix.trans (List.suffix_cons _ _))

private theorem not_unreached_of_reaches {target size : ℚ} {sizes : List ℚ}
    (h : target ≤ (size :: sizes).sum) : ¬Unreached target (size :: sizes) :=
  fun hall => absurd (hall _ (List.suffix_refl _) (List.cons_ne_nil _ _)) (not_lt.mpr h)

namespace GhostSlot

/-- A slot in which an order rests behind what is left of its target. -/
structure Rests (config : GhostBookConfig) (slot : GhostSlot) (order : VirtualOrder)
    (sizes : List ℚ) : Prop where
  side_eq : slot.side = order.side
  instrument_eq : slot.instrumentCode = order.instrumentCode
  price_eq : slot.price = order.price
  queueAhead_eq : slot.queueAhead = max 0 (order.target config) - sizes.sum
  sum_nonneg : 0 ≤ sizes.sum
  unreached : Unreached (order.target config) sizes

/-- A slot that holds a pending fill under the mid price it reports. -/
structure Holds (slot : GhostSlot) (fill : ShadowQueueFill) : Prop where
  fillId_eq : slot.fillId = some fill.fillId
  p0Mid_eq : slot.p0Mid = fill.p0MidPrice
  side_eq : slot.side.side = fill.side

/-- A slot as the order and the fill last seen in it explain it. -/
structure Told (config : GhostBookConfig) (slot : GhostSlot)
    (order : Option (VirtualOrder × List ℚ)) (fill : Option ShadowQueueFill) : Prop where
  active : slot.state = .active → ∃ o sizes, order = some (o, sizes) ∧ slot.Rests config o sizes
  idle : slot.state ≠ .active → ∀ o sizes, order = some (o, sizes) →
    ¬Unreached (o.target config) sizes
  pending : slot.state = .pendingDrift → ∃ f, fill = some f ∧ slot.Holds f

/-- A slot under a trade: advanced, then consumed. -/
def observe (config : GhostBookConfig) (tick : MarketTick) (book : InternalOrderBook)
    (index : ℕ) (slot : GhostSlot) :
    GhostSlot × Option ShadowQueueFill × Option ShadowQueueDecision :=
  let advanced := slot.advance config tick book index
  let consumed := advanced.1.consume tick book index
  (consumed.1, consumed.2, advanced.2)

variable {config : GhostBookConfig} {tick : MarketTick} {book : InternalOrderBook}
  {index : ℕ} {slot : GhostSlot} {order : Option (VirtualOrder × List ℚ)}
  {fill : Option ShadowQueueFill}

/-- A valid trade shows a mid price above zero. -/
private theorem midPrice_of_isValidTrade (h : isValidTrade tick book) :
    ∃ midPrice, book.midPrice = some midPrice ∧ 0 < midPrice ∧ 0 < tick.size := by
  unfold isValidTrade at h
  cases hmid : book.midPrice with
  | none => simp [hmid] at h
  | some midPrice =>
    simp only [hmid, Bool.and_eq_true, decide_eq_true_eq] at h
    exact ⟨midPrice, rfl, h.1.2, h.1.1.1⟩

private theorem advance_of_not_pending (h : slot.state ≠ .pendingDrift) :
    slot.advance config tick book index = (slot, none) := by
  unfold advance
  split
  · rfl
  · rw [if_pos (Or.inl h)]

private theorem consume_of_not_active (h : slot.state ≠ .active) :
    slot.consume tick book index = (slot, none) := by
  unfold consume
  split
  · rfl
  · rw [if_pos (Or.inl h)]

/-- A trade counts for a pending fill, or brings its decision and frees the slot. -/
theorem advance_of_pending (hvalid : isValidTrade tick book)
    (hpending : slot.state = .pendingDrift) :
    (∃ trades, slot.advance config tick book index =
      ({ slot with tradesSinceFill := trades }, none)) ∨
    (slot.isDue config tick book ∧ ∃ midPrice slot' trades, book.midPrice = some midPrice ∧
      slot.advance config tick book index =
        (slot', some (slot.decision index book midPrice trades)) ∧ slot'.state = .empty) := by
  obtain ⟨midPrice, hmid, hpositive, -⟩ := midPrice_of_isValidTrade hvalid
  by_cases hinstrument : slot.instrumentCode = tick.instrumentCode
  · have hguard : ¬(slot.state ≠ .pendingDrift ∨ slot.instrumentCode ≠ tick.instrumentCode ∨
        midPrice ≤ 0) := by
      simp [hpending, hinstrument, hpositive]
    by_cases hearly : slot.tradesSinceFill + 1 < config.driftTradeDelay
    · left
      refine ⟨stored (slot.tradesSinceFill + 1), ?_⟩
      simp only [advance, hmid, if_neg hguard, if_pos hearly]
    · right
      refine ⟨?_, midPrice, { slot with
        tradesSinceFill := stored (slot.tradesSinceFill + 1)
        state := .empty
        fillId := none }, slot.tradesSinceFill + 1, hmid, ?_, rfl⟩
      · simpa [isDue, hpending, hvalid, hinstrument] using hearly
      · simp only [advance, hmid, if_neg hguard, if_neg hearly]
  · left
    refine ⟨slot.tradesSinceFill, ?_⟩
    simp only [advance, hmid, if_pos (Or.inr (Or.inl hinstrument))]

/-- A trade passes an active order, reduces what is ahead of it, or fills it. -/
theorem consume_of_active (hvalid : isValidTrade tick book) (hactive : slot.state = .active) :
    (slot.isReached tick book = false ∧ slot.consume tick book index = (slot, none)) ∨
    (slot.isReached tick book ∧ 0 < slot.queueAhead - tick.size ∧
      slot.consume tick book index =
        ({ slot with queueAhead := stored (slot.queueAhead - tick.size) }, none)) ∨
    (slot.isReached tick book ∧ slot.queueAhead ≤ tick.size ∧ ∃ midPrice slot' f,
      book.midPrice = some midPrice ∧ slot.consume tick book index = (slot', some f) ∧
        slot'.state = .pendingDrift ∧ slot'.fillId = some f.fillId ∧
        slot'.p0Mid = stored midPrice ∧ slot'.side.side = f.side ∧ f.fillId.slot = index ∧
        f.p0MidPrice = midPrice) := by
  obtain ⟨midPrice, hmid, hpositive, -⟩ := midPrice_of_isValidTrade hvalid
  by_cases hinstrument : slot.instrumentCode = tick.instrumentCode
  · have hguard : ¬(slot.state ≠ .active ∨ slot.instrumentCode ≠ tick.instrumentCode ∨
        midPrice ≤ 0) := by
      simp [hactive, hinstrument, hpositive]
    cases hconsumed : isConsumed slot.side slot.price tick with
    | false =>
      left
      constructor
      · simp [isReached, hconsumed]
      · simp only [consume, hmid, if_neg hguard, hconsumed, Bool.not_false, if_true]
    | true =>
      right
      have hreached : slot.isReached tick book := by
        simp [isReached, hactive, hvalid, hinstrument, hconsumed]
      by_cases hleft : 0 < slot.queueAhead - tick.size
      · left
        refine ⟨hreached, hleft, ?_⟩
        simp only [consume, hmid, if_neg hguard, hconsumed, Bool.not_true, Bool.false_eq_true,
          if_false, if_pos hleft]
      · right
        refine ⟨hreached, by linarith, ?_⟩
        simp only [consume, hmid, if_neg hguard, hconsumed, Bool.not_true, Bool.false_eq_true,
          if_false, if_neg hleft]
        exact ⟨midPrice, _, _, rfl, rfl, rfl, rfl, rfl, rfl, rfl, rfl⟩
  · left
    constructor
    · simp [isReached, hinstrument]
    · simp only [consume, hmid, if_pos (Or.inr (Or.inl hinstrument))]

/-- What a valid trade does to a slot and what it has told of it. -/
structure Follows (config : GhostBookConfig) (tick : MarketTick) (book : InternalOrderBook)
    (index : ℕ) (order : Option (VirtualOrder × List ℚ)) (fill : Option ShadowQueueFill)
    (out : GhostSlot × Option ShadowQueueFill × Option ShadowQueueDecision) : Prop where
  told : out.1.Told config (order.map (counted tick book)) (out.2.1.or fill)
  filled_iff : out.2.1.isSome ↔ ∃ o sizes, order = some (o, sizes) ∧
    o.isEligible tick book ∧ FirstReaches (o.target config) tick.size sizes
  slot_eq : ∀ f ∈ out.2.1, f.fillId.slot = index
  decided : ∀ d ∈ out.2.2, ∃ f midPrice, fill = some f ∧ book.midPrice = some midPrice ∧
    DecidesOn book f d midPrice

/-- An order that was reached stays so. -/
private theorem not_unreached_counted
    (h : ∀ o sizes, order = some (o, sizes) → ¬Unreached (o.target config) sizes)
    (o : VirtualOrder) (sizes : List ℚ) (heq : order.map (counted tick book) = some (o, sizes)) :
    ¬Unreached (o.target config) sizes := by
  obtain ⟨⟨o', sizes'⟩, hbefore, hafter⟩ := Option.map_eq_some_iff.mp heq
  have hreached := h o' sizes' hbefore
  simp only [counted, Prod.mk.injEq] at hafter
  obtain ⟨rfl, rfl⟩ := hafter
  split
  · exact not_unreached_cons hreached
  · exact hreached

/-- Where no order rests nothing is filled. -/
private theorem not_filled (h : ∀ o sizes, order = some (o, sizes) →
    ¬Unreached (o.target config) sizes) :
    ¬∃ o sizes, order = some (o, sizes) ∧ o.isEligible tick book ∧
      FirstReaches (o.target config) tick.size sizes := by
  rintro ⟨o, sizes, heq, -, hfirst⟩
  exact h o sizes heq hfirst.1

/-- The decision on a fill whose reported mid price the slot has kept. -/
private theorem decidesOn_decision {f : ShadowQueueFill} (hholds : slot.Holds f)
    (htick : epsilon ≤ book.tickSize) (midPrice trades : ℚ) :
    DecidesOn book f (slot.decision index book midPrice trades) midPrice := by
  have hpositive : 0 < book.tickSize := lt_of_lt_of_le (by norm_num [epsilon]) htick
  have hmax : max book.tickSize epsilon = book.tickSize := max_eq_left htick
  have hfavorable : (if f.side = .buy then book.tickSize ≤ midPrice - f.p0MidPrice
      else midPrice - f.p0MidPrice ≤ -book.tickSize) ↔
      book.tickSize ≤ inFavour f.side (midPrice - f.p0MidPrice) := by
    unfold inFavour
    split
    · exact Iff.rfl
    · exact le_neg
  have hadverse : (if f.side = .buy then midPrice - f.p0MidPrice ≤ -book.tickSize
      else book.tickSize ≤ midPrice - f.p0MidPrice) ↔
      book.tickSize ≤ -inFavour f.side (midPrice - f.p0MidPrice) := by
    unfold inFavour
    split
    · exact le_neg
    · rw [neg_neg]
  have haction : (slot.decision index book midPrice trades).action =
      if book.tickSize ≤ inFavour f.side (midPrice - f.p0MidPrice) then .greenLight
      else if book.tickSize ≤ -inFavour f.side (midPrice - f.p0MidPrice) then .redLight
      else .noEdge := by
    simp only [decision, hholds.side_eq, hholds.p0Mid_eq, hmax, hfavorable, hadverse]
  have hnoEdge : (slot.decision index book midPrice trades).action = .noEdge ↔
      |inFavour f.side (midPrice - f.p0MidPrice)| < book.tickSize := by
    rw [haction, abs_lt]
    split_ifs with hgreen hred
    · simpa using fun _ => hgreen
    · simpa using fun h => absurd hred (by linarith)
    · simpa using ⟨by linarith, by linarith⟩
  constructor
  · simp only [decision, hholds.fillId_eq, Option.getD_some]
  · simp only [decision, hholds.p0Mid_eq]
  · rw [haction]
    split_ifs with hgreen hred <;> simp [hgreen]
  · rw [haction]
    split_ifs with hgreen hred
    · simpa using by linarith
    · simp [hred]
    · simp [hred]
  · exact hnoEdge
  · intro hsame
    rw [hnoEdge, hsame]
    simpa [inFavour] using hpositive

/-- A trade on a pending fill. -/
private theorem follows_of_pending (hvalid : isValidTrade tick book)
    (hkeeps : slot.Keeps config tick book) (htold : slot.Told config order fill)
    (hpending : slot.state = .pendingDrift) :
    Follows config tick book index order fill (slot.observe config tick book index) := by
  have hreached := htold.idle (by simp [hpending])
  obtain ⟨f, rfl, hholds⟩ := htold.pending hpending
  rcases @advance_of_pending config tick book index slot hvalid hpending with
    ⟨trades, hadvance⟩ | ⟨hdue, midPrice, slot', trades, hmid, hadvance, hempty⟩
  · have hidle : ({ slot with tradesSinceFill := trades } : GhostSlot).state ≠ .active := by
      simp [hpending]
    rw [observe, hadvance]
    simp only [consume_of_not_active hidle]
    constructor
    · exact ⟨fun h => absurd h hidle, fun _ => not_unreached_counted hreached,
        fun _ => ⟨f, rfl, hholds.fillId_eq, hholds.p0Mid_eq, hholds.side_eq⟩⟩
    · simpa using not_filled hreached
    · simp
    · simp
  · have hidle : slot'.state ≠ .active := by
      simp [hempty]
    rw [observe, hadvance]
    simp only [consume_of_not_active hidle]
    constructor
    · exact ⟨fun h => absurd h hidle, fun _ => not_unreached_counted hreached,
        fun h => absurd (hempty.symm.trans h) (by simp)⟩
    · simpa using not_filled hreached
    · simp
    · rintro d hd
      obtain rfl := Option.some.inj hd
      exact ⟨f, midPrice, rfl, hmid, decidesOn_decision hholds (hkeeps.tickSize hdue) _ _⟩

/-- The order that rests in a slot is the one a trade reaches there. -/
private theorem isReached_eq_isEligible {o : VirtualOrder} {sizes : List ℚ}
    (hactive : slot.state = .active) (hrests : slot.Rests config o sizes) :
    slot.isReached tick book = o.isEligible tick book := by
  simp [isReached, VirtualOrder.isEligible, hactive, hrests.side_eq, hrests.instrument_eq,
    hrests.price_eq]

/-- A trade on an order that rests. -/
private theorem follows_of_active (hvalid : isValidTrade tick book)
    (hkeeps : slot.Keeps config tick book) (htold : slot.Told config order fill)
    (hactive : slot.state = .active) :
    Follows config tick book index order fill (slot.observe config tick book index) := by
  obtain ⟨o, sizes, rfl, hrests⟩ := htold.active hactive
  obtain ⟨-, -, -, hsize⟩ := midPrice_of_isValidTrade hvalid
  have heligible := @isReached_eq_isEligible config tick book slot o sizes hactive hrests
  have hsum : 0 ≤ (tick.size :: sizes).sum := by
    rw [List.sum_cons]
    linarith [hrests.sum_nonneg]
  have hleft : slot.queueAhead - tick.size =
      max 0 (o.target config) - (tick.size :: sizes).sum := by
    rw [hrests.queueAhead_eq, List.sum_cons]
    ring
  rw [observe, advance_of_not_pending (by simp [hactive])]
  rcases @consume_of_active tick book index slot hvalid hactive with
    ⟨hpassed, hconsume⟩ | ⟨hreached, hpositive, hconsume⟩ |
      ⟨hreached, hfilled, midPrice, slot', f, hmid, hconsume, hstate, hid, hp0, hside, hslot,
        hreport⟩
  · have hnot : o.isEligible tick book = false := heligible ▸ hpassed
    simp only [hconsume]
    constructor
    · refine ⟨fun _ => ⟨o, sizes, by simp [counted, hnot], hrests⟩,
        fun h => absurd hactive h, fun h => absurd (hactive.symm.trans h) (by simp)⟩
    · simp [hnot]
    · simp
    · simp
  · have hyes : o.isEligible tick book := heligible ▸ hreached
    have hbelow : (tick.size :: sizes).sum < o.target config := by
      rw [hleft, sub_pos, lt_max_iff] at hpositive
      exact hpositive.resolve_left (not_lt.mpr hsum)
    simp only [hconsume]
    constructor
    · refine ⟨fun _ => ⟨o, tick.size :: sizes, by simp [counted, hyes], hrests.side_eq,
        hrests.instrument_eq, hrests.price_eq, ?_, hsum, hrests.unreached.cons hbelow⟩,
        fun h => absurd hactive h, fun h => absurd (hactive.symm.trans h) (by simp)⟩
      rw [← hleft]
      exact hkeeps.remaining hreached hpositive
    · simp only [Option.isSome_none, Bool.false_eq_true, false_iff]
      rintro ⟨o', sizes', heq, -, hfirst⟩
      obtain ⟨rfl, rfl⟩ := Prod.mk.inj (Option.some.inj heq)
      exact absurd hfirst.2 (not_le.mpr hbelow)
    · simp
    · simp
  · have hyes : o.isEligible tick book := heligible ▸ hreached
    have hreaches : o.target config ≤ (tick.size :: sizes).sum := by
      have hall : max 0 (o.target config) ≤ (tick.size :: sizes).sum := by linarith
      exact (le_max_right _ _).trans hall
    have hexact : stored midPrice = midPrice := hkeeps.midPrice hreached hfilled midPrice hmid
    simp only [hconsume]
    constructor
    · refine ⟨fun h => absurd (hstate.symm.trans h) (by simp), ?_,
        fun _ => ⟨f, rfl, hid, by rw [hp0, hexact, hreport], hside⟩⟩
      rintro - o' sizes' heq
      obtain ⟨rfl, rfl⟩ := Prod.mk.inj (Option.some.inj heq)
      rw [if_pos hyes]
      exact not_unreached_of_reaches hreaches
    · simp only [Option.isSome_some, true_iff]
      exact ⟨o, sizes, rfl, hyes, hrests.unreached, hreaches⟩
    · rintro f' hf'
      obtain rfl := Option.some.inj hf'
      exact hslot
    · simp

/-- A valid trade follows what has been told of a slot. -/
theorem follows_observe (hvalid : isValidTrade tick book) (hkeeps : slot.Keeps config tick book)
    (htold : slot.Told config order fill) :
    Follows config tick book index order fill (slot.observe config tick book index) := by
  by_cases hactive : slot.state = .active
  · exact follows_of_active hvalid hkeeps htold hactive
  · by_cases hpending : slot.state = .pendingDrift
    · exact follows_of_pending hvalid hkeeps htold hpending
    · have hreached := htold.idle hactive
      rw [observe, advance_of_not_pending hpending]
      simp only [consume_of_not_active hactive]
      constructor
      · exact ⟨fun h => absurd h hactive, fun _ => not_unreached_counted hreached,
          fun h => absurd h hpending⟩
      · simpa using not_filled hreached
      · simp
      · simp

end GhostSlot

namespace GhostBook

variable {config : GhostBookConfig}

/-- The slot of an order once written. -/
def written (config : GhostBookConfig) (sequence : Number) (order : VirtualOrder) : GhostSlot :=
  .injected config order.instrumentCode order.side order.price order.topDepth sequence

private theorem slots_injectOne (ghost : GhostBook config) (instrumentCode : String)
    (side : SideCode) (price topDepth : ℚ) (sequence : Number) (slot : Fin config.capacity) :
    (ghost.injectOne instrumentCode side price topDepth sequence).slots slot =
      if 0 < topDepth ∧ ghost.nextWritableSlot = slot then
        .injected config instrumentCode side price topDepth sequence
      else ghost.slots slot := by
  unfold injectOne
  by_cases hdepth : topDepth ≤ 0
  · rw [if_pos hdepth, if_neg fun h => absurd h.1 (not_lt.mpr hdepth)]
  · rw [if_neg hdepth]
    by_cases hslot : ghost.nextWritableSlot = slot
    · subst hslot
      rw [if_pos ⟨not_le.mp hdepth, rfl⟩]
      exact Function.update_self ..
    · rw [if_neg fun h => hslot h.2]
      exact Function.update_of_ne (Ne.symm hslot) ..

/-- What is written at one side of a book. -/
private theorem slots_injectSide (ghost : GhostBook config) (book : InternalOrderBook)
    (side : SideCode) (best : Option ℚ) (levels : List ℚ) (slot : Fin config.capacity) :
    (match best with
      | none => ghost
      | some price =>
        if 0 < price then
          ghost.injectOne book.instrumentCode side price (topLevelSize levels) book.sequence
        else ghost).slots slot =
      (((orderAt book side best levels).filter fun _ => ghost.nextWritableSlot = slot).map
        (written config book.sequence)).getD (ghost.slots slot) := by
  unfold orderAt
  cases best with
  | none => rfl
  | some price =>
    dsimp only
    by_cases hprice : 0 < price
    · rw [if_pos hprice, slots_injectOne]
      by_cases hdepth : 0 < topLevelSize levels
      · have hboth : 0 < price ∧ 0 < topLevelSize levels := ⟨hprice, hdepth⟩
        rw [if_pos hboth]
        by_cases hslot : ghost.nextWritableSlot = slot
        · rw [if_pos ⟨hdepth, hslot⟩, Option.filter_some_pos (by simpa using hslot)]
          rfl
        · have hother : ¬(0 < topLevelSize levels ∧ ghost.nextWritableSlot = slot) :=
            fun h => hslot h.2
          rw [if_neg hother, Option.filter_some_neg (by simpa using hslot)]
          rfl
      · have hother : ¬(0 < topLevelSize levels ∧ ghost.nextWritableSlot = slot) :=
          fun h => hdepth h.1
        rw [if_neg hother, if_neg fun h => hdepth h.2]
        rfl
    · rw [if_neg hprice, if_neg fun h => hprice h.1]
      rfl

private theorem slots_injectBid (ghost : GhostBook config) (book : InternalOrderBook)
    (slot : Fin config.capacity) :
    (ghost.injectBid book).slots slot =
      ((book.bidOrder.filter fun _ => ghost.nextWritableSlot = slot).map
        (written config book.sequence)).getD (ghost.slots slot) :=
  slots_injectSide ghost book .buy book.bestBid book.bids slot

private theorem slots_injectAsk (ghost : GhostBook config) (book : InternalOrderBook)
    (slot : Fin config.capacity) :
    (ghost.injectAsk book).slots slot =
      ((book.askOrder.filter fun _ => ghost.nextWritableSlot = slot).map
        (written config book.sequence)).getD (ghost.slots slot) :=
  slots_injectSide ghost book .sell book.bestAsk book.asks slot

/-- A slot after `injectBbo` holds the order written there, if any. -/
theorem slots_injectBbo (ghost : GhostBook config) (book : InternalOrderBook)
    (slot : Fin config.capacity) :
    (ghost.injectBbo book).slots slot =
      ((ghost.writtenOrder book slot).map (written config book.sequence)).getD
        (ghost.slots slot) := by
  rw [injectBbo, slots_injectAsk, slots_injectBid, writtenOrder]
  cases book.askOrder.filter fun _ => (ghost.injectBid book).nextWritableSlot = slot <;> rfl

/-- What is written is one of the book's orders. -/
private theorem mem_of_writtenOrder {ghost : GhostBook config} {book : InternalOrderBook}
    {slot : Fin config.capacity} {order : VirtualOrder}
    (h : ghost.writtenOrder book slot = some order) :
    order ∈ book.askOrder ∨ order ∈ book.bidOrder := by
  rcases Option.or_eq_some_iff.mp h with hask | ⟨-, hbid⟩
  · exact Or.inl (Option.filter_eq_some_iff.mp hask).1
  · exact Or.inr (Option.filter_eq_some_iff.mp hbid).1

section Trade

variable (ghost : GhostBook config) {tick : MarketTick} {book : InternalOrderBook}

private theorem slots_observeTrade (hvalid : isValidTrade tick book) (slot : Fin config.capacity) :
    (ghost.observeTrade tick book).1.slots slot =
      ((ghost.slots slot).observe config tick book slot).1 := by
  rw [observeTrade, if_pos hvalid]
  simp only [Slots.slots_sweep (isLocal_consumeActiveSlot tick book),
    Slots.slots_sweep (isLocal_advancePendingDrift tick book), GhostSlot.observe]

private theorem fills_observeTrade (hvalid : isValidTrade tick book) :
    (ghost.observeTrade tick book).2.fills = (List.finRange config.capacity).filterMap
      fun slot => ((ghost.slots slot).observe config tick book slot).2.1 := by
  rw [observeTrade, if_pos hvalid]
  simp only [Slots.outputs_sweep (isLocal_consumeActiveSlot tick book),
    Slots.slots_sweep (isLocal_advancePendingDrift tick book), GhostSlot.observe]

private theorem decisions_observeTrade (hvalid : isValidTrade tick book) :
    (ghost.observeTrade tick book).2.decisions = (List.finRange config.capacity).filterMap
      fun slot => ((ghost.slots slot).observe config tick book slot).2.2 := by
  rw [observeTrade, if_pos hvalid]
  simp only [Slots.outputs_sweep (isLocal_advancePendingDrift tick book), GhostSlot.observe]

end Trade

end GhostBook

/-! ## Every run -/

section Law

variable {config : GhostBookConfig}

/-- Every slot is as the run tells. -/
def Tells (config : GhostBookConfig) (calls : List Call) : Prop :=
  ∀ slot, ((after config calls).slots slot).Told config (lastOrder config slot calls)
    (lastFill config slot calls)

/-- An order that is written with its queue kept rests there. -/
private theorem told_written {sequence : Number} {order : VirtualOrder}
    (hkept : IsSingle (queueAheadOf config order.topDepth)) (fill : Option ShadowQueueFill) :
    (GhostBook.written config sequence order).Told config (some (order, [])) fill where
  active _ := by
    refine ⟨order, [], rfl, rfl, rfl, rfl, ?_, le_rfl, unreached_nil _⟩
    rw [List.sum_nil, sub_zero]
    exact hkept
  idle h := absurd rfl h
  pending h := absurd h (by simp [GhostBook.written, GhostSlot.injected])

private theorem tells_injectBbo {earlier : List Call} {book : InternalOrderBook}
    (htells : Tells config earlier) (hkeeps : (after config earlier).Keeps (.injectBbo book)) :
    Tells config (.injectBbo book :: earlier) := by
  intro slot
  rw [after, GhostBook.call, GhostBook.slots_injectBbo, lastOrder, lastFill]
  cases hwritten : (after config earlier).writtenOrder book slot with
  | none => exact htells slot
  | some order =>
    rcases GhostBook.mem_of_writtenOrder hwritten with hask | hbid
    · exact told_written (hkeeps.2 order hask) _
    · exact told_written (hkeeps.1 order hbid) _

/-- A slot's own fill is the one found under its number. -/
private theorem find_fills {ghost : GhostBook config} {tick : MarketTick}
    {book : InternalOrderBook} (hvalid : isValidTrade tick book)
    (hslot : ∀ slot, ∀ f ∈ ((ghost.slots slot).observe config tick book slot).2.1,
      f.fillId.slot = slot) (slot : Fin config.capacity) :
    (ghost.observeTrade tick book).2.fills.find? (fun fill => fill.fillId.slot = slot.val) =
      ((ghost.slots slot).observe config tick book slot).2.1 := by
  have howner : ∀ f, f ∈ (ghost.observeTrade tick book).2.fills → f.fillId.slot = slot.val →
      ((ghost.slots slot).observe config tick book slot).2.1 = some f := by
    intro f hf heq
    rw [ghost.fills_observeTrade hvalid] at hf
    obtain ⟨i, -, hi⟩ := List.mem_filterMap.mp hf
    have hsame : i = slot := Fin.ext ((hslot i f hi).symm.trans heq)
    rw [← hsame]
    exact hi
  cases hfind : (ghost.observeTrade tick book).2.fills.find?
      (fun fill => fill.fillId.slot = slot.val) with
  | some f =>
    exact (howner f (List.mem_of_find?_eq_some hfind)
      (by simpa using List.find?_some hfind)).symm
  | none =>
    cases hown : ((ghost.slots slot).observe config tick book slot).2.1 with
    | none => rfl
    | some f =>
      have hmem : f ∈ (ghost.observeTrade tick book).2.fills := by
        rw [ghost.fills_observeTrade hvalid]
        exact List.mem_filterMap.mpr ⟨slot, List.mem_finRange slot, hown⟩
      have hnot := List.find?_eq_none.mp hfind f hmem
      exact absurd (hslot slot f hown) (by simpa using hnot)

variable {earlier : List Call} {tick : MarketTick} {book : InternalOrderBook}

private theorem follows_slot (htells : Tells config earlier)
    (hkeeps : (after config earlier).Keeps (.observeTrade tick book))
    (hvalid : isValidTrade tick book) (slot : Fin config.capacity) :
    GhostSlot.Follows config tick book slot (lastOrder config slot earlier)
      (lastFill config slot earlier)
      (((after config earlier).slots slot).observe config tick book slot) :=
  GhostSlot.follows_observe hvalid (hkeeps slot) (htells slot)

/-- An ignored trade is eligible for no order. -/
private theorem counted_of_ignored (hvalid : ¬isValidTrade tick book)
    (o : VirtualOrder × List ℚ) : counted tick book o = o := by
  simp [counted, VirtualOrder.isEligible, hvalid]

private theorem tells_observeTrade (htells : Tells config earlier)
    (hkeeps : (after config earlier).Keeps (.observeTrade tick book)) :
    Tells config (.observeTrade tick book :: earlier) := by
  intro slot
  rw [after, GhostBook.call, lastOrder, lastFill]
  by_cases hvalid : isValidTrade tick book
  · have hfollows := follows_slot htells hkeeps hvalid
    rw [GhostBook.slots_observeTrade _ hvalid, find_fills hvalid fun i => (hfollows i).slot_eq]
    exact (hfollows slot).told
  · rw [GhostBook.observeTrade, if_neg hvalid, List.find?_nil, Option.none_or,
      Option.map_congr fun o _ => counted_of_ignored hvalid o, Option.map_id']
    exact htells slot

/-- A run that keeps what it stores tells of every slot. -/
theorem tells_of_keepsAll {calls : List Call} (h : KeepsAll config calls) :
    Tells config calls := by
  induction calls with
  | nil =>
    intro slot
    have hempty : ((after config []).slots slot).state = .empty := rfl
    exact ⟨fun h => absurd (hempty.symm.trans h) (by simp),
      fun _ _ _ h => absurd h (by simp [lastOrder]),
      fun h => absurd (hempty.symm.trans h) (by simp)⟩
  | cons c earlier ih =>
    cases c with
    | injectBbo book => exact tells_injectBbo (ih h.1) h.2
    | observeTrade tick book => exact tells_observeTrade (ih h.1) h.2

/-- In every run whose stores keep their values, an order is filled at exactly the first
eligible trade that reaches its target, and a fill is decided by the drift from the mid price
it reports. -/
theorem kept_run_is_lawful (config : GhostBookConfig) (earlier : List Call) (tick : MarketTick)
    (book : InternalOrderBook) (h : KeepsAll config (.observeTrade tick book :: earlier)) :
    Lawful config earlier tick book := by
  have htells := tells_of_keepsAll h.1
  by_cases hvalid : isValidTrade tick book
  · have hfollows := follows_slot htells h.2 hvalid
    constructor
    · intro slot
      rw [← (hfollows slot).filled_iff,
        ← find_fills hvalid fun i => (hfollows i).slot_eq, List.find?_isSome]
      simp
    · intro d hd
      rw [GhostBook.decisions_observeTrade _ hvalid] at hd
      obtain ⟨slot, -, hslot⟩ := List.mem_filterMap.mp hd
      obtain ⟨f, midPrice, hfill, hmid, hdecides⟩ := (hfollows slot).decided d hslot
      exact ⟨slot, f, midPrice, hfill, hmid, hdecides⟩
  · constructor
    · intro slot
      simp [GhostBook.observeTrade, hvalid, VirtualOrder.isEligible]
    · simp [GhostBook.observeTrade, hvalid]

end Law

/-! ## What single precision changes -/

/-- Prices, sizes and the tick of a book above zero. -/
structure InternalOrderBook.IsPositive (book : InternalOrderBook) : Prop where
  bids : ∀ size ∈ book.bids, 0 < size
  asks : ∀ size ∈ book.asks, 0 < size
  midPrice : ∃ midPrice, book.midPrice = some midPrice ∧ 0 < midPrice
  tickSize : 0 < book.tickSize

/-- Prices and sizes of a call are positive. -/
def Call.IsPositive : Call → Prop
  | .injectBbo book => book.IsPositive
  | .observeTrade tick book => 0 < tick.size ∧ 0 < tick.price ∧ book.IsPositive

/-- A table of one slot and a delay of one trade. -/
private def singleSlot : GhostBookConfig := ⟨1, 1, 1, 1 / 10 ^ 8, Nat.one_pos⟩

/-- A book with a bid alone, under a tick of a tenth. -/
private def bidBook (bid topDepth midPrice : ℚ) : InternalOrderBook :=
  ⟨"btc-usd", [topDepth], [], some bid, none, some midPrice, 1 / 10, .finite 1⟩

private def sale (price size : ℚ) (sequence : Number) : MarketTick :=
  ⟨"btc-usd", price, size, .sell, sequence⟩

/-- Two trades fill an order, the next decides on the fill. -/
theorem two_trades_fill_lawfully :
    Lawful singleSlot
      [.observeTrade (sale 100 6 (.finite 3)) (bidBook 100 10 (201 / 2)),
        .observeTrade (sale 100 4 (.finite 2)) (bidBook 100 10 (201 / 2)),
        .injectBbo (bidBook 100 10 (201 / 2))]
      (sale 101 1 (.finite 4)) (bidBook 101 10 (203 / 2)) :=
  kept_run_is_lawful _ _ _ _ (by decide +kernel)

private theorem isPositive_bidBook {bid topDepth midPrice : ℚ} (hdepth : 0 < topDepth)
    (hmid : 0 < midPrice) : (bidBook bid topDepth midPrice).IsPositive where
  bids := by simpa [bidBook] using hdepth
  asks := by simp [bidBook]
  midPrice := ⟨midPrice, rfl, hmid⟩
  tickSize := by norm_num [bidBook]

/-- An order behind a top size of a tenth. -/
private def tenthAhead : List Call := [.injectBbo (bidBook 100 (1 / 10) (201 / 2))]

/-- A fill at a mid price of 60000.05. -/
private def filledAtHalfTick : List Call :=
  [.observeTrade (sale 60000 10 (.finite 2)) (bidBook 60000 10 (6000005 / 100)),
    .injectBbo (bidBook 60000 10 (6000005 / 100))]

/-- A trade of exactly the size ahead does not fill an order, and a drift of exactly one tick
is found no edge. -/
theorem rounded_runs_not_lawful :
    ((∀ c ∈ Call.observeTrade (sale 100 (1 / 10) (.finite 2))
        (bidBook 100 (1 / 10) (201 / 2)) :: tenthAhead, c.IsPositive) ∧
      ¬Lawful singleSlot tenthAhead (sale 100 (1 / 10) (.finite 2))
        (bidBook 100 (1 / 10) (201 / 2))) ∧
    (∀ c ∈ Call.observeTrade (sale 60000 1 (.finite 3))
        (bidBook 60000 10 (6000015 / 100)) :: filledAtHalfTick, c.IsPositive) ∧
      ¬Lawful singleSlot filledAtHalfTick (sale 60000 1 (.finite 3))
        (bidBook 60000 10 (6000015 / 100)) := by
  refine ⟨⟨?_, ?_⟩, ?_, ?_⟩
  · simp only [tenthAhead, List.forall_mem_cons, List.not_mem_nil, Call.IsPositive]
    have hbook := @isPositive_bidBook 100 (1 / 10) (201 / 2) (by norm_num) (by norm_num)
    exact ⟨⟨by norm_num [sale], by norm_num [sale], hbook⟩, hbook, by simp⟩
  · intro hlaw
    obtain ⟨f, hf, -⟩ := (hlaw.filled_iff ⟨0, by decide⟩).mpr
      ⟨⟨"btc-usd", .buy, 100, 1 / 10⟩, [], by decide +kernel, by decide +kernel,
        unreached_nil _, by decide +kernel⟩
    have hnone : ((after singleSlot tenthAhead).observeTrade (sale 100 (1 / 10) (.finite 2))
        (bidBook 100 (1 / 10) (201 / 2))).2.fills = [] := by decide +kernel
    rw [hnone] at hf
    exact absurd hf List.not_mem_nil
  · simp only [filledAtHalfTick, List.forall_mem_cons, List.not_mem_nil, Call.IsPositive]
    have hbook := fun midPrice h => @isPositive_bidBook 60000 10 midPrice (by norm_num) h
    exact ⟨⟨by norm_num [sale], by norm_num [sale], hbook _ (by norm_num)⟩,
      ⟨by norm_num [sale], by norm_num [sale], hbook _ (by norm_num)⟩,
      hbook _ (by norm_num), by simp⟩
  · intro hlaw
    have hfill : ∀ slot, lastFill singleSlot slot filledAtHalfTick =
        some ⟨⟨"btc-usd", .finite 2, 0⟩, "btc-usd", .buy, 60000, stored (1 / 5), 10,
          6000005 / 100, .finite 2⟩ := by decide +kernel
    have hdecided : ∃ d ∈ ((after singleSlot filledAtHalfTick).observeTrade
        (sale 60000 1 (.finite 3)) (bidBook 60000 10 (6000015 / 100))).2.decisions,
        d.action = .noEdge := by decide +kernel
    obtain ⟨d, hd, hnoEdge⟩ := hdecided
    obtain ⟨slot, f, midPrice, hf, hmid, hdecides⟩ := hlaw.decided d hd
    rw [hfill slot] at hf
    obtain rfl := Option.some.inj hf
    obtain rfl := Option.some.inj hmid
    have hdrift := hdecides.noEdge_iff.mp hnoEdge
    norm_num [inFavour, bidBook] at hdrift

end Yevow.Shadow.Exact
