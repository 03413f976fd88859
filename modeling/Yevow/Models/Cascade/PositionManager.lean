import Yevow.Core.Collection.Rows
import Yevow.Models.Cascade.PositionSizer

/-!
# Cascade positions

A position is entered on a signal. Each tick of its instrument may stop it out, take one or both
of its targets, move its stop and close it when its time is up; an operator may close it at any
time. What is to be traded for that is handed out as intents.
-/

namespace Yevow.Cascade

/-- The direction of a recovery trade. -/
inductive CascadeRecoveryDirection
  | long
  | short
  deriving DecidableEq

/-- How far a position has come. -/
inductive CascadePositionStatus
  | pendingEntry
  | entered
  | firstTargetHit
  | secondTargetHit
  | closed
  | stoppedOut
  | timeStopped
  deriving DecidableEq

/-- What an intent asks for. -/
inductive CascadePositionIntentKind
  | close
  | moveStop
  deriving DecidableEq

/-- Why a position is closed. -/
inductive CascadeCloseReason
  | stopLoss
  | firstTarget
  | secondTarget
  | timeStop
  | manual
  deriving DecidableEq

def CascadeCloseReason.text : CascadeCloseReason → String
  | .stopLoss => "STOP_LOSS"
  | .firstTarget => "FIRST_TARGET"
  | .secondTarget => "SECOND_TARGET"
  | .timeStop => "TIME_STOP"
  | .manual => "MANUAL"

/-- How an order is executed. -/
inductive ExecutionStyle
  | takerIoc
  | takerMarket
  deriving DecidableEq

/-- The side of an order. -/
inductive IntentAction
  | buy
  | sell
  deriving DecidableEq

/-- A target that closes part of a position. -/
structure PartialTarget (S P : Type) where
  price : P
  rMultiple : S
  sizePct : S
  deriving DecidableEq

/-- What a trailing stop follows. -/
inductive TrailingType
  | atr
  | ema
  deriving DecidableEq

/-- The rest of a position, which trails. -/
structure RunnerTarget (S P : Type) where
  trailingType : TrailingType
  trailingParam : P
  sizePct : S
  deriving DecidableEq

/-- The targets of a signal. -/
structure CascadeRecoverySignalTargets (S P : Type) where
  partial1 : PartialTarget S P
  partial2 : PartialTarget S P
  runner : RunnerTarget S P
  deriving DecidableEq

/-- What is read of a signal. -/
structure CascadeRecoverySignal (S P : Type) where
  signalId : String
  cascadeId : String
  instrumentCode : String
  direction : CascadeRecoveryDirection
  entryPrice : P
  stopPrice : P
  rDistance : P
  targets : CascadeRecoverySignalTargets S P
  timeStopAt : String

/-- A position of the strategy. -/
structure CascadeOpenPosition (S P : Type) where
  positionId : String
  signalId : String
  cascadeId : String
  instrumentCode : String
  direction : CascadeRecoveryDirection
  status : CascadePositionStatus
  entryPrice : P
  currentStopPrice : P
  initialStopPrice : P
  totalSize : S
  remainingSize : S
  initialRiskPct : S
  rDistance : P
  targets : CascadeRecoverySignalTargets S P
  timeStopAt : String
  firstTargetTaken : Bool
  secondTargetTaken : Bool
  enteredAt : Option String
  updatedAt : String
  deriving DecidableEq

/-- What is read of a candle. -/
structure Candle (P : Type) where
  close : P

/-- A price, and the candles before it. -/
structure PositionManagerTick (P : Type) where
  instrumentCode : String
  price : P
  observedAt : String
  candles : List (Candle P)
  atr : Option P

/-- An order to close some of a position or to move its stop. -/
structure CascadePositionIntent (S P : Type) where
  intentId : String
  positionId : String
  signalId : String
  instrumentCode : String
  kind : CascadePositionIntentKind
  closeReason : Option CascadeCloseReason
  action : IntentAction
  executionStyle : ExecutionStyle
  size : S
  referencePrice : P
  newStopPrice : Option P
  createdAt : String
  deriving DecidableEq

/-- A position after a tick, and its intents. -/
structure PositionManagerUpdate (S P : Type) where
  position : CascadeOpenPosition S P
  intents : List (CascadePositionIntent S P)

/-- A further step of an update, on the position as it is by then. -/
def PositionManagerUpdate.andThen {S P : Type} (update : PositionManagerUpdate S P)
    (step : CascadeOpenPosition S P → PositionManagerUpdate S P) : PositionManagerUpdate S P :=
  let next := step update.position
  ⟨next.position, update.intents ++ next.intents⟩

variable {S P : Type} [Field S] [LinearOrder S] (ar : CascadeArithmetic S P)
  (dateParse : String → Option ℤ)

/-! ## What is read of a position -/

/-- `1e-9`. -/
def epsilon : S := ar.number (1 / 10 ^ 9)

/-- A price as it is written. -/
def roundPrice (value : P) : P := ar.priceToFixed value

/-- A size as it is written, at least zero. -/
def roundSize (value : S) : S := ar.toFixed (max 0 value)

/-- The statuses of a closed position. -/
def CascadePositionStatus.isClosed : CascadePositionStatus → Bool
  | .closed | .stoppedOut | .timeStopped => true
  | .pendingEntry | .entered | .firstTargetHit | .secondTargetHit => false

/-- A position with more than dust left. -/
def isOpen (position : CascadeOpenPosition S P) : Bool :=
  epsilon ar < position.remainingSize && !position.status.isClosed

/-- The price has reached the stop. -/
def stopHit (position : CascadeOpenPosition S P) (price : P) : Bool :=
  match position.direction with
  | .long => ar.le price position.currentStopPrice
  | .short => ar.le position.currentStopPrice price

/-- The price has reached a target. -/
def targetHit (direction : CascadeRecoveryDirection) (price targetPrice : P) : Bool :=
  match direction with
  | .long => ar.le targetPrice price
  | .short => ar.le price targetPrice

/-- The price has moved by the risk taken. -/
def hasReachedOneR (position : CascadeOpenPosition S P) (price : P) : Bool :=
  let oneR := match position.direction with
    | .long => ar.add position.entryPrice position.rDistance
    | .short => ar.sub position.entryPrice position.rDistance
  targetHit ar position.direction price oneR

/-- A percentage of the whole size, at most what is left. -/
def closeSizeFor (position : CascadeOpenPosition S P) (sizePct : S) : S :=
  roundSize ar (min position.remainingSize
    (ar.number (position.totalSize * ar.number (sizePct / 100))))

/-- A stop that gives away less. -/
def isBetterStop (direction : CascadeRecoveryDirection) (currentStop candidateStop : P) : Bool :=
  match direction with
  | .long => ar.lt currentStop candidateStop
  | .short => ar.lt candidateStop currentStop

/-- The order that closes a position. -/
def closeAction : CascadeRecoveryDirection → IntentAction
  | .long => .sell
  | .short => .buy

/-- The moving average that a stop trails. -/
def emaTrail (position : CascadeOpenPosition S P) : List (Candle P) → Option P
  | [] => none
  | first :: candles =>
    let period := ar.max (ar.literal 2) (ar.mathRound position.targets.runner.trailingParam)
    let smoothing := ar.div (ar.literal 2) (ar.add period (ar.literal 1))
    some (candles.foldl (fun ema candle =>
      ar.add (ar.mul candle.close smoothing) (ar.mul ema (ar.sub (ar.literal 1) smoothing)))
      first.close)

/-- The trailing stop, once the first target is taken. -/
def calculateTrailingStop (position : CascadeOpenPosition S P) (tick : PositionManagerTick P) :
    Option P :=
  if !position.firstTargetTaken then none
  else match position.targets.runner.trailingType with
    | .atr =>
      match tick.atr with
      | none => none
      | some atr =>
        if ar.le atr (ar.literal 0) then none
        else
          let distance := ar.mul position.targets.runner.trailingParam atr
          match position.direction with
          | .long => some (ar.sub tick.price distance)
          | .short => some (ar.add tick.price distance)
    | .ema => emaTrail ar position tick.candles

/-- `Date.parse(observedAt) >= Date.parse(position.timeStopAt)`. -/
def timeIsUp (position : CascadeOpenPosition S P) (observedAt : String) : Bool :=
  match dateParse observedAt, dateParse position.timeStopAt with
  | some now, some stopAt => stopAt ≤ now
  | _, _ => false

/-! ## Intents -/

/-- The identifier of an intent. -/
def newIntentId (positionId suffix observedAt : String) : String :=
  positionId ++ "-" ++ suffix ++ "-" ++ (dateParse observedAt).elim "NaN" toString

/-- The stop moves where that is better. -/
def moveStop (position : CascadeOpenPosition S P) (newStopPrice : P)
    (tick : PositionManagerTick P) : PositionManagerUpdate S P :=
  if !isBetterStop ar position.direction position.currentStopPrice newStopPrice then ⟨position, []⟩
  else
    let currentStopPrice := roundPrice ar newStopPrice
    { position := { position with currentStopPrice }
      intents :=
        [{ intentId := newIntentId dateParse position.positionId "move-stop" tick.observedAt
           positionId := position.positionId
           signalId := position.signalId
           instrumentCode := position.instrumentCode
           kind := .moveStop
           closeReason := none
           action := closeAction position.direction
           executionStyle := .takerIoc
           size := 0
           referencePrice := tick.price
           newStopPrice := some currentStopPrice
           createdAt := tick.observedAt }] }

/-- The intent to close `size` of a position at a price that was seen at a time. -/
def closeIntent (position : CascadeOpenPosition S P) (price : P) (observedAt : String) (size : S)
    (closeReason : CascadeCloseReason) (executionStyle : ExecutionStyle) :
    CascadePositionIntent S P where
  intentId := newIntentId dateParse position.positionId closeReason.text.toLower observedAt
  positionId := position.positionId
  signalId := position.signalId
  instrumentCode := position.instrumentCode
  kind := .close
  closeReason := some closeReason
  action := closeAction position.direction
  executionStyle
  size := roundSize ar (min size position.remainingSize)
  referencePrice := price
  newStopPrice := none
  createdAt := observedAt

/-- A position with nothing left. -/
def closePosition (position : CascadeOpenPosition S P) (status : CascadePositionStatus)
    (observedAt : String) : CascadeOpenPosition S P :=
  { position with
    status
    remainingSize := 0
    updatedAt := observedAt }

/-! ## Ticks -/

/-- What taking a target closes. -/
def closePartial (position : CascadeOpenPosition S P) (sizePct : S)
    (closeReason : CascadeCloseReason) (tick : PositionManagerTick P) :
    PositionManagerUpdate S P :=
  let closeSize := closeSizeFor ar position sizePct
  if 0 < closeSize then
    { position :=
        { position with
          remainingSize := roundSize ar (ar.number (position.remainingSize - closeSize)) }
      intents :=
        [closeIntent ar dateParse position tick.price tick.observedAt closeSize closeReason
          .takerIoc] }
  else ⟨position, []⟩

/-- The first target closes part and moves the stop. -/
def takeFirstTarget (tick : PositionManagerTick P) (position : CascadeOpenPosition S P) :
    PositionManagerUpdate S P :=
  if !position.firstTargetTaken &&
      targetHit ar position.direction tick.price position.targets.partial1.price then
    (closePartial ar dateParse position position.targets.partial1.sizePct .firstTarget
      tick).andThen fun position =>
        moveStop ar dateParse
          { position with
            firstTargetTaken := true
            status := .firstTargetHit } position.entryPrice tick
  else ⟨position, []⟩

/-- The second target closes another part. -/
def takeSecondTarget (tick : PositionManagerTick P) (position : CascadeOpenPosition S P) :
    PositionManagerUpdate S P :=
  if !position.secondTargetTaken &&
      targetHit ar position.direction tick.price position.targets.partial2.price then
    (closePartial ar dateParse position position.targets.partial2.sizePct .secondTarget
      tick).andThen fun position =>
        moveStop ar dateParse
          { position with
            secondTargetTaken := true
            status := .secondTargetHit } position.targets.partial1.price tick
  else ⟨position, []⟩

/-- The stop follows the candles. -/
def trailStop (tick : PositionManagerTick P) (position : CascadeOpenPosition S P) :
    PositionManagerUpdate S P :=
  match calculateTrailingStop ar position tick with
  | none => ⟨position, []⟩
  | some trailingStop => moveStop ar dateParse position trailingStop tick

/-- The end of a tick: the time stop, or what is left of the position. -/
def settleTick (tick : PositionManagerTick P) (position : CascadeOpenPosition S P) :
    PositionManagerUpdate S P :=
  if timeIsUp dateParse position tick.observedAt && !hasReachedOneR ar position tick.price then
    { position := closePosition position .timeStopped tick.observedAt
      intents :=
        [closeIntent ar dateParse position tick.price tick.observedAt position.remainingSize
          .timeStop .takerMarket] }
  else if position.remainingSize ≤ epsilon ar then
    ⟨closePosition position .closed tick.observedAt, []⟩
  else ⟨{ position with updatedAt := tick.observedAt }, []⟩

/-- One tick for a position: the stop, or else the targets and the trail. -/
def updatePosition (position : CascadeOpenPosition S P) (tick : PositionManagerTick P) :
    PositionManagerUpdate S P :=
  if !isOpen ar position then ⟨position, []⟩
  else if stopHit ar position tick.price then
    { position := closePosition position .stoppedOut tick.observedAt
      intents :=
        [closeIntent ar dateParse position tick.price tick.observedAt position.remainingSize
          .stopLoss .takerMarket] }
  else
    (((takeFirstTarget ar dateParse tick position).andThen
      (takeSecondTarget ar dateParse tick)).andThen
        (trailStop ar dateParse tick)).andThen (settleTick ar dateParse tick)

/-! ## The manager -/

/-- The positions, under their ids. -/
structure PositionManager (S P : Type) where
  positions : Rows String (CascadeOpenPosition S P)

/-- A manager without positions. -/
def PositionManager.new : PositionManager S P := ⟨Rows.empty⟩

/-- The position that an approved signal opens. -/
def CascadeRecoverySignal.position (signal : CascadeRecoverySignal S P)
    (sizeDecision : PositionSizeDecision S) (enteredAt : String) : CascadeOpenPosition S P where
  positionId := "cascade-position-" ++ signal.signalId
  signalId := signal.signalId
  cascadeId := signal.cascadeId
  instrumentCode := signal.instrumentCode
  direction := signal.direction
  status := .entered
  entryPrice := signal.entryPrice
  currentStopPrice := signal.stopPrice
  initialStopPrice := signal.stopPrice
  totalSize := sizeDecision.units
  remainingSize := sizeDecision.units
  initialRiskPct := sizeDecision.riskPct
  rDistance := signal.rDistance
  targets := signal.targets
  timeStopAt := signal.timeStopAt
  firstTargetTaken := false
  secondTargetTaken := false
  enteredAt := some enteredAt
  updatedAt := enteredAt

/-- An approved signal becomes a position. -/
def registerFromSignal (signal : CascadeRecoverySignal S P)
    (sizeDecision : PositionSizeDecision S) (enteredAt : String) (manager : PositionManager S P) :
    Except String (PositionManager S P) :=
  if !sizeDecision.approved || sizeDecision.units ≤ 0 then
    .error ("Cannot register cascade position from rejected size decision: " ++ signal.signalId)
  else
    let position := signal.position sizeDecision enteredAt
    .ok ⟨manager.positions.set position.positionId position⟩

/-- A position is closed on request. -/
def closeManually (position : CascadeOpenPosition S P) (observedAt : String) (referencePrice : P) :
    PositionManagerUpdate S P where
  position := closePosition position .closed observedAt
  intents :=
    [closeIntent ar dateParse position referencePrice observedAt position.remainingSize .manual
      .takerIoc]

/-- A request to close a stored position. -/
def requestManualClose (positionId observedAt : String) (referencePrice : P)
    (manager : PositionManager S P) : PositionManager S P × Option (PositionManagerUpdate S P) :=
  match manager.positions.get? positionId with
  | none => (manager, none)
  | some position =>
    if !isOpen ar position then (manager, none)
    else
      let update := closeManually ar dateParse position observedAt referencePrice
      (⟨manager.positions.set positionId update.position⟩, some update)

/-- What a tick does to a position of any instrument. -/
def tickPosition (tick : PositionManagerTick P) (position : CascadeOpenPosition S P) :
    PositionManagerUpdate S P :=
  if position.instrumentCode ≠ tick.instrumentCode || !isOpen ar position then ⟨position, []⟩
  else updatePosition ar dateParse position tick

/-- One tick for every position. -/
def onTick (tick : PositionManagerTick P) (manager : PositionManager S P) :
    PositionManager S P × List (PositionManagerUpdate S P) :=
  (⟨manager.positions.map fun _ position => (tickPosition ar dateParse tick position).position⟩,
    (manager.positions.entries.map fun entry =>
      tickPosition ar dateParse tick entry.2).filter fun update => !update.intents.isEmpty)

end Yevow.Cascade
