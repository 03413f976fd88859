import Yevow.Models.Engine.Quotes.State

/-!
# Quote states under a configuration

A configuration stops quoting, in all assets or in those that the macro bias does not select,
and starts it again where it had stopped it. The engine's own quote state sums up those of the
assets.
-/

namespace Yevow.Engine

open JavaScript (Record Runtime Timestamp)

/-- The macro bias; `R` holds what quoting does not read. -/
structure MacroBias (R : Type) where
  instruments : List String
  rest : R

/-- What is read of a quote. -/
class QuoteFields (Q : Type) where
  instrumentCode : Q → String
  createdAt : Q → Timestamp

/-- An asset that is quoted. -/
structure TargetAsset where
  coin : String
  instrumentCode : String
  deriving DecidableEq

/-- The assets that are quoted. -/
def targetAssetMatrix : List TargetAsset := [⟨"BTC", "btc-usd"⟩, ⟨"HYPE", "hype-usd"⟩]

variable {Q R : Type} (js : Runtime)

/-- The instruments that are selected. -/
def selectedMoltworkerInstruments (macroBias : MacroBias R) : List String :=
  (macroBias.instruments.filter fun instrument => JavaScript.trim instrument ≠ "").map
    normalizeNativeInstrumentCode

/-- The asset is selected. -/
def targetAssetSelectedByMoltworker (asset : TargetAsset) (selected : List String) : Bool :=
  selected = [] ∨ asset.instrumentCode ∈ selected ∨ asset.coin.toLower ∈ selected ∨
    asset.coin.toLower ++ "-perp" ∈ selected

/-- An object that holds a quote state for each target asset. -/
def forAssets (f : TargetAsset → QuoteState Q) : Record (QuoteState Q) :=
  Record.fromEntries (targetAssetMatrix.map fun asset => (asset.instrumentCode, f asset))

/-- The quote state of an asset that has none yet. -/
def defaultAssetQuoteState (tradingEnabled : Bool) (macroBias : MacroBias R)
    (observedAt : Timestamp) (asset : TargetAsset) : QuoteState Q :=
  let selectedByMoltworker :=
    targetAssetSelectedByMoltworker asset (selectedMoltworkerInstruments macroBias)
  let active := tradingEnabled && selectedByMoltworker
  { (defaultQuoteState : QuoteState Q) with
    status := if active then .active else .suspended
    reason :=
      if active then none
      else if selectedByMoltworker then some "TRADING_DISABLED"
      else some "MOLTWORKER_NOT_SELECTED"
    updatedAt := some observedAt }

/-- Quotes are suspended where an asset may not trade. -/
def reconcileAssetQuoteStatesForConfig (current : Record (QuoteState Q)) (tradingEnabled : Bool)
    (macroBias : MacroBias R) (observedAt : Timestamp) : Record (QuoteState Q) :=
  forAssets fun asset =>
    let default := defaultAssetQuoteState tradingEnabled macroBias observedAt asset
    let existing := (current.get? asset.instrumentCode).getD default
    if ¬(tradingEnabled && targetAssetSelectedByMoltworker asset
        (selectedMoltworkerInstruments macroBias)) then default
    else if existing.reason = some "TRADING_DISABLED" ∨
        existing.reason = some "MOLTWORKER_NOT_SELECTED" then
      { existing with
        status := .active
        reason := none
        suspendedUntil := none
        updatedAt := some observedAt }
    else existing

/-- `Date.parse(right) - Date.parse(left)`; a time that cannot be read compares as equal. -/
def compareLatest (left right : Timestamp) : ℤ :=
  match left.parse js, right.parse js with
  | some l, some r => r - l
  | _, _ => 0

/-- `"9999-12-31T23:59:59.999Z"`. -/
def endOfTime : Timestamp := .iso 253402300799999

variable [QuoteFields Q]

/-- The latest quote of the assets, else the previous one if it is for a target asset. -/
def aggregatedQuote (values : List (QuoteState Q)) (previous : QuoteState Q) : Option Q :=
  let quotes := (values.filterMap QuoteState.lastQuote).filter fun quote =>
    isTargetInstrument (QuoteFields.instrumentCode quote)
  (Sorting.sortBy (fun left right =>
      compareLatest js (QuoteFields.createdAt left) (QuoteFields.createdAt right)) quotes).head? <|>
    previous.lastQuote.filter fun quote => isTargetInstrument (QuoteFields.instrumentCode quote)

/-- The quotes of all assets as one. -/
def aggregateQuoteState (states : Record (QuoteState Q)) (previous : QuoteState Q)
    (observedAt : Timestamp) : QuoteState Q :=
  let values := states.values
  let suspended := values.filter fun state => isQuoteSuspendedAt js state observedAt
  let active := values.filter fun state => ¬isQuoteSuspendedAt js state observedAt
  let lastQuote := aggregatedQuote js values previous
  if values ≠ [] ∧ active = [] ∧ suspended ≠ [] then
    let indefinite := suspended.find? fun state => state.end?.isNone
    let longest := (Sorting.sortBy (fun left right =>
      compareLatest js (left.suspendedUntil.getD endOfTime)
        (right.suspendedUntil.getD endOfTime)) suspended).head?
    { status := .suspended
      reason := some ((indefinite.bind QuoteState.reason <|> longest.bind QuoteState.reason).getD
        "ALL_ASSET_QUOTES_SUSPENDED")
      suspendedUntil := if indefinite.isSome then none else longest.bind QuoteState.suspendedUntil
      lastQuote
      updatedAt := some observedAt }
  else
    { status := .active
      reason := if suspended ≠ [] then some "PARTIAL_ASSET_SUSPENSION" else none
      suspendedUntil := none
      lastQuote
      updatedAt := some observedAt }

end Yevow.Engine
