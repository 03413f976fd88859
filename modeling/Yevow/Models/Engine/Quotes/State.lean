import Yevow.Core.JavaScript.Record
import Yevow.Core.JavaScript.Timestamp

/-!
# Quote states

Each target asset has a quote state: it is quoted, or suspended until some time or without
an end. Operations on the states keep an entry for each target asset and drop all others.
-/

namespace Yevow.Engine

open JavaScript (Record Runtime Timestamp)

/-- How quotes are made. -/
inductive MarketMakingMode
  | off
  | passive
  | balanced
  | aggressive
  | inventorySkewOnly
  deriving DecidableEq, Repr

/-- The part of the configuration that quoting reads. -/
structure QuoteConfig where
  TRADING_ENABLED : Bool
  CROUPIER_ENABLED : Bool
  PIT_BOSS_ENABLED : Bool
  MARKET_MAKING_MODE : MarketMakingMode
  QUOTE_HIBERNATE_MS : Number
  AM_VPIN_QUOTE_HALT_MS : Number
  deriving DecidableEq

/-- Whether quotes are made. -/
inductive QuoteStatus
  | active
  | suspended
  deriving DecidableEq, Repr

/-- A quote state; `Q` is the type of quotes. -/
structure QuoteState (Q : Type) where
  status : QuoteStatus
  reason : Option String
  suspendedUntil : Option Timestamp
  lastQuote : Option Q
  updatedAt : Option Timestamp
  deriving DecidableEq

variable {Q : Type} (js : Runtime)

/-- Quotes are made. -/
def defaultQuoteState : QuoteState Q := ⟨.active, none, none, none, none⟩

/-- Quotes are suspended, for a reason. -/
def suspendedQuoteState (previous : QuoteState Q) (reason : String)
    (suspendedUntil : Option Timestamp) (observedAt : Timestamp) : QuoteState Q where
  status := .suspended
  reason := some reason
  suspendedUntil := suspendedUntil
  lastQuote := previous.lastQuote
  updatedAt := some observedAt

/-- `value && …`: the end of a suspension that has one. -/
def QuoteState.end? (state : QuoteState Q) : Option Timestamp :=
  state.suspendedUntil.filter fun t => t.isEmpty = false

/-- The target assets' instrument codes, in the order of the asset matrix. -/
def targetInstruments : List String := ["btc-usd", "hype-usd"]

private def dashed (c : Char) : Char := if c = '_' ∨ c = '/' then '-' else c

/-- Letters outside ASCII, which no instrument code has, are left as they are. -/
def normalizeNativeInstrumentCode (value : String) : String :=
  let cs := (JavaScript.trim value).toList.map dashed
  let base := cs.take (cs.length - 5)
  let tail := cs.drop (cs.length - 5)
  (String.ofList (if tail.map Char.toLower = "-perp".toList then base else cs)).toLower

/-- An instrument that is quoted. -/
def isTargetInstrument (instrumentCode : String) : Bool :=
  normalizeNativeInstrumentCode instrumentCode ∈ targetInstruments

/-- An object that holds a quote state for each target asset. -/
def forTargets (f : String → QuoteState Q) : Record (QuoteState Q) :=
  Record.fromEntries (targetInstruments.map fun code => (code, f code))

/-- The quotes of one instrument. -/
def quoteStateForInstrumentState (states : Record (QuoteState Q)) (instrumentCode : String)
    (fallback : QuoteState Q) : QuoteState Q :=
  (states.get? (normalizeNativeInstrumentCode instrumentCode)).getD fallback

/-- Quotes are suspended at some moment. -/
def isQuoteSuspendedAt (state : QuoteState Q) (observedAt : Timestamp) : Bool :=
  match state.status, state.end? with
  | .active, _ => false
  | .suspended, none => true
  | .suspended, some suspendedUntil => suspendedUntil.after js observedAt

/-- What a suspension names. -/
structure SuspendOptions (Q : Type) where
  instrumentCode : Option String
  suspendedUntil : Option Timestamp
  lastQuote : Option Q
  deriving DecidableEq

/-- The instruments that a suspension is for. -/
def SuspendOptions.targets (options : SuspendOptions Q) : List String :=
  match options.instrumentCode.filter (· ≠ "") with
  | some code => [normalizeNativeInstrumentCode code]
  | none => targetInstruments

/-- Some or all quotes are suspended. -/
def suspendAssetQuoteStates (states : Record (QuoteState Q)) (reason : String)
    (observedAt : Timestamp) (options : SuspendOptions Q) : Record (QuoteState Q) :=
  forTargets fun code =>
    let current := (states.get? code).getD defaultQuoteState
    if code ∈ options.targets then
      { status := .suspended
        reason := some reason
        suspendedUntil := options.suspendedUntil
        lastQuote := options.lastQuote <|> current.lastQuote
        updatedAt := some observedAt }
    else current

/-- The state of an asset whose suspension may have ended. -/
def resumedQuoteState (current : QuoteState Q) (observedAt : Timestamp) : QuoteState Q :=
  if isQuoteSuspendedAt js current observedAt then current
  else if current.status = .suspended then
    { current with
      status := .active
      reason := none
      suspendedUntil := none
      updatedAt := some observedAt }
  else current

/-- Suspensions that are over end. -/
def resumeExpiredAssetQuoteStates (states : Record (QuoteState Q)) (observedAt : Timestamp) :
    Record (QuoteState Q) :=
  forTargets fun code =>
    resumedQuoteState js ((states.get? code).getD defaultQuoteState) observedAt

/-- The quotes of a target. -/
theorem get?_forTargets (f : String → QuoteState Q) {code : String}
    (hcode : code ∈ targetInstruments) : (forTargets f).get? code = some (f code) := by
  unfold forTargets
  rw [Record.get?_fromEntries, if_pos hcode]

end Yevow.Engine
