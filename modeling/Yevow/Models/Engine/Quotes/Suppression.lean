import Yevow.Models.Engine.Quotes.State

/-!
# Quote suppression

A tick evaluates an instrument's quote state: signals suspend it, a suspension that has not
ended stays, and otherwise it is quoted. Some signals also withhold the tick's execution
plans.
-/

namespace Yevow.Engine

open JavaScript (Record Runtime Timestamp)

variable {Q P : Type} (js : Runtime)

/-- Why the strategy makes no quotes. -/
def strategyQuoteDisabledReason (config : QuoteConfig) : Option String :=
  if config.CROUPIER_ENABLED = false then some "CROUPIER_DISABLED"
  else if config.MARKET_MAKING_MODE = .off then some "MARKET_MAKING_OFF"
  else if config.PIT_BOSS_ENABLED = false then some "PIT_BOSS_DISABLED"
  else none

/-- `Number(value)` within bounds, where it is a safe integer; an absent value is NaN. -/
def readPositiveInteger (value : Option String) (fallback minimum maximum : ℤ) : ℤ :=
  match value.bind fun text => JavaScript.safeInteger? js.arithmetic (js.toNumber text) with
  | some parsed => min maximum (max minimum parsed)
  | none => fallback

/-- `value > 0`. -/
def isPositive : Number → Bool
  | .finite q => 0 < q
  | .infinite negative => negative = false
  | .nan => false

/-- How long quotes rest. -/
def resolveQuoteHibernateMs (config : QuoteConfig) (envQuoteHibernateMs : Option String) :
    Number :=
  if isPositive config.QUOTE_HIBERNATE_MS then config.QUOTE_HIBERNATE_MS
  else .finite (readPositiveInteger js envQuoteHibernateMs 3000 100 60000)

/-- The shield against a cascade. -/
def isCascadeShieldSignal (signalType : Option String) : Bool := signalType = some "CASCADE_SHIELD"

/-- The profiler halts quotes. -/
def isProfilerQuoteHaltSignal (signalType : Option String) : Bool :=
  signalType = some "SUSPEND_QUOTES" ∨ signalType = some "AM_VPIN_CRITICAL"

/-- What decides on the next quotes. -/
structure NextQuoteStateInput (Q : Type) where
  previous : QuoteState Q
  quote : Option Q
  tradingEnabled : Bool
  strategyDisabledReason : Option String
  instrumentSelected : Bool
  pullAllQuotes : Bool
  quoteHibernateMs : Number
  observedAt : Timestamp

/-- The branch without a signal: a suspension that has not ended stays. -/
def keptQuoteState (previous : QuoteState Q) (quote : Option Q) (observedAt : Timestamp) :
    QuoteState Q :=
  if (previous.end?.any fun t => t.after js observedAt) = true then previous
  else
    { status := .active
      reason := none
      suspendedUntil := none
      lastQuote := quote <|> previous.lastQuote
      updatedAt := some observedAt }

/-- The quotes of an instrument after a tick. -/
def nextQuoteStateForInstrument (input : NextQuoteStateInput Q) :
    Except String (QuoteState Q) :=
  if input.tradingEnabled = false then
    .ok (suspendedQuoteState input.previous "TRADING_DISABLED" none input.observedAt)
  else match input.strategyDisabledReason.filter (· ≠ "") with
  | some reason => .ok (suspendedQuoteState input.previous reason none input.observedAt)
  | none =>
    if input.instrumentSelected = false then
      .ok (suspendedQuoteState input.previous "MOLTWORKER_NOT_SELECTED" none input.observedAt)
    else if input.pullAllQuotes then do
      let suspendedUntil ← input.observedAt.plus js input.quoteHibernateMs
      return suspendedQuoteState input.previous "ADVERSE_SELECTION_CRITICAL" (some suspendedUntil)
        input.observedAt
    else .ok (keptQuoteState js input.previous input.quote input.observedAt)

/-- The part of a quote state that is reported. -/
structure QuoteStateTelemetry where
  status : QuoteStatus
  reason : Option String
  suspendedUntil : Option Timestamp
  updatedAt : Option Timestamp
  deriving DecidableEq

/-- What is reported of a quote state. -/
def quoteStateTelemetry (state : QuoteState Q) : QuoteStateTelemetry :=
  ⟨state.status, state.reason, state.suspendedUntil, state.updatedAt⟩

/-- What decides on a suppression. -/
structure QuoteSuppressionDecisionInput (Q : Type) where
  previous : QuoteState Q
  profilerSignalType : Option String
  profilerSuspendedUntil : Option Timestamp
  profilerQuoteHaltUntil : Option Timestamp
  amVpinQuoteHaltMs : Number
  quoteHibernateMs : Number
  ensembleAnomalyCircuitBreaker : Bool
  observedAt : Timestamp

/-- The quotes, and whether plans may be sent. -/
structure QuoteSuppressionDecisionResult (Q : Type) where
  quoteState : QuoteState Q
  executionPlansAllowed : Bool
  isCascadeShield : Bool
  isProfilerQuoteHalt : Bool
  cancelReason : Option String
  suspendTelemetry : Option QuoteStateTelemetry

/-- The end of a profiler halt: the signal's, the profiler's, or a configured wait from now. -/
def profilerHaltEnd (input : QuoteSuppressionDecisionInput Q) : Except String Timestamp :=
  match input.profilerSuspendedUntil <|> input.profilerQuoteHaltUntil with
  | some suspendedUntil => .ok suspendedUntil
  | none =>
    input.observedAt.plus js
      (if input.profilerSignalType = some "AM_VPIN_CRITICAL" then input.amVpinQuoteHaltMs
        else input.quoteHibernateMs)

/-- A decision that suspends the quotes and withholds the plans. -/
def suspendDecision (input : QuoteSuppressionDecisionInput Q) (reason : String)
    (suspendedUntil : Timestamp) (cancelReason : Option String) :
    QuoteSuppressionDecisionResult Q :=
  let quoteState := suspendedQuoteState input.previous reason (some suspendedUntil) input.observedAt
  { quoteState := quoteState
    executionPlansAllowed := false
    isCascadeShield := isCascadeShieldSignal input.profilerSignalType
    isProfilerQuoteHalt := isProfilerQuoteHaltSignal input.profilerSignalType
    cancelReason := cancelReason
    suspendTelemetry := some (quoteStateTelemetry quoteState) }

/-- The first reason that suppresses decides. -/
def quoteSuppressionDecision (input : QuoteSuppressionDecisionInput Q) :
    Except String (QuoteSuppressionDecisionResult Q) :=
  if input.ensembleAnomalyCircuitBreaker then do
    let suspendedUntil ← input.observedAt.plus js (.finite 60000)
    return suspendDecision input "ENSEMBLE_ANOMALY_CIRCUIT_BREAKER" suspendedUntil
      (some "ENSEMBLE_CIRCUIT_BREAKER")
  else if isProfilerQuoteHaltSignal input.profilerSignalType then do
    let suspendedUntil ← profilerHaltEnd js input
    return suspendDecision input
      (if input.profilerSignalType = some "AM_VPIN_CRITICAL" then "AM_VPIN_CRITICAL"
        else "WHALE_PRINT") suspendedUntil none
  else
    return {
      quoteState := input.previous
      executionPlansAllowed := true
      isCascadeShield := isCascadeShieldSignal input.profilerSignalType
      isProfilerQuoteHalt := isProfilerQuoteHaltSignal input.profilerSignalType
      cancelReason := none
      suspendTelemetry := none }

/-- What follows from a suppression. -/
inductive QuoteSuppressionSideEffect
  | cancelQuotes (reason : String)
  | publishSuspend (instrumentCode : String) (telemetry : QuoteStateTelemetry)
  deriving DecidableEq

/-- What a tick brings. -/
structure QuoteSuppressionRuntimeInput (Q P : Type) where
  instrumentCode : String
  quote : Option Q
  pullAllQuotes : Bool
  instrumentSelected : Bool
  config : QuoteConfig
  envQuoteHibernateMs : Option String
  tradingEnabled : Bool
  shadowReplay : Bool
  executionPlans : List P
  profilerSignalType : Option String
  profilerSuspendedUntil : Option Timestamp
  profilerQuoteHaltUntil : Option Timestamp
  ensembleAnomalyCircuitBreaker : Bool
  observedAt : Timestamp

/-- What a tick leaves. -/
structure QuoteSuppressionRuntimeResult (Q P : Type) where
  executionPlans : List P
  assetQuoteState : QuoteState Q
  strategyQuoteDisableReason : Option String
  strategyCancelReason : Option String
  suppressionCancelReason : Option String
  suspendTelemetry : Option QuoteStateTelemetry
  isCascadeShield : Bool
  isProfilerQuoteHalt : Bool
  sideEffects : List QuoteSuppressionSideEffect

/-- The cancels and notices of a suppression. -/
def quoteSuppressionSideEffects (instrumentCode : String)
    (strategyCancelReason suppressionCancelReason : Option String)
    (suspendTelemetry : Option QuoteStateTelemetry) : List QuoteSuppressionSideEffect :=
  (strategyCancelReason.filter (· ≠ "")).toList.map .cancelQuotes ++
    suspendTelemetry.toList.map (.publishSuspend instrumentCode) ++
      (suppressionCancelReason.filter (· ≠ "")).toList.map .cancelQuotes

/-- What a policy makes of a decision. -/
def applyQuoteSuppressionPolicy (input : QuoteSuppressionRuntimeInput Q P)
    (previousQuoteState assetQuoteState : QuoteState Q)
    (suppression : QuoteSuppressionDecisionResult Q) : QuoteSuppressionRuntimeResult Q P :=
  let strategyQuoteDisableReason := strategyQuoteDisabledReason input.config
  let strategyCancelReason := strategyQuoteDisableReason.filter fun reason =>
    previousQuoteState.reason ≠ some reason ∧ input.shadowReplay = false ∧
      input.tradingEnabled = true
  let suppressionCancelReason := suppression.cancelReason.filter fun _ =>
    input.shadowReplay = false ∧ input.tradingEnabled = true
  { executionPlans := if suppression.executionPlansAllowed then input.executionPlans else []
    assetQuoteState :=
      if suppression.executionPlansAllowed then assetQuoteState else suppression.quoteState
    strategyQuoteDisableReason := strategyQuoteDisableReason
    strategyCancelReason := strategyCancelReason
    suppressionCancelReason := suppressionCancelReason
    suspendTelemetry := suppression.suspendTelemetry
    isCascadeShield := suppression.isCascadeShield
    isProfilerQuoteHalt := suppression.isProfilerQuoteHalt
    sideEffects := quoteSuppressionSideEffects input.instrumentCode strategyCancelReason
      suppressionCancelReason suppression.suspendTelemetry }

/-- What the decision is made from. -/
def QuoteSuppressionRuntimeInput.decision (input : QuoteSuppressionRuntimeInput Q P)
    (assetQuoteState : QuoteState Q) : QuoteSuppressionDecisionInput Q where
  previous := assetQuoteState
  profilerSignalType := input.profilerSignalType
  profilerSuspendedUntil := input.profilerSuspendedUntil
  profilerQuoteHaltUntil := input.profilerQuoteHaltUntil
  amVpinQuoteHaltMs := input.config.AM_VPIN_QUOTE_HALT_MS
  quoteHibernateMs := resolveQuoteHibernateMs js input.config input.envQuoteHibernateMs
  ensembleAnomalyCircuitBreaker := input.ensembleAnomalyCircuitBreaker
  observedAt := input.observedAt

/-- One tick of an instrument. -/
def applyQuoteSuppressionRuntime (assetQuoteStates : Record (QuoteState Q))
    (quoteState : QuoteState Q) (input : QuoteSuppressionRuntimeInput Q P) :
    Except String (QuoteSuppressionRuntimeResult Q P) := do
  let previousQuoteState :=
    quoteStateForInstrumentState assetQuoteStates input.instrumentCode quoteState
  let assetQuoteState ← nextQuoteStateForInstrument js
    { previous := previousQuoteState
      quote := input.quote
      tradingEnabled := input.config.TRADING_ENABLED
      strategyDisabledReason := strategyQuoteDisabledReason input.config
      instrumentSelected := input.instrumentSelected
      pullAllQuotes := input.pullAllQuotes
      quoteHibernateMs := resolveQuoteHibernateMs js input.config input.envQuoteHibernateMs
      observedAt := input.observedAt }
  let suppression ← quoteSuppressionDecision js (input.decision js assetQuoteState)
  return applyQuoteSuppressionPolicy input previousQuoteState assetQuoteState suppression

/-- The states an accepted tick leaves. -/
def statesAfterTick (assetQuoteStates : Record (QuoteState Q))
    (input : QuoteSuppressionRuntimeInput Q P) (result : QuoteSuppressionRuntimeResult Q P) :
    Record (QuoteState Q) :=
  assetQuoteStates.set input.instrumentCode result.assetQuoteState

end Yevow.Engine
