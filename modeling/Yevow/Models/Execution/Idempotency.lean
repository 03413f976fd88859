import Yevow.Core.Collection.Rows
import Yevow.Models.Execution.Intent

/-!
# The ledger of remembered intents

A response is remembered under its intent's identifier for a time to live. The same intent is
then answered with it, and another intent under the identifier is a conflict. A fingerprint
is the text of some fields of the intent, and stands here for what this text tells of them.
-/

namespace Yevow.Execution

/-- What `JSON.stringify` tells of a number; one that is not finite is `null`. -/
def jsonNumber : Number → Option ℚ
  | .finite a => some a
  | .infinite _ => none
  | .nan => none

/-- The fields whose text is an intent's fingerprint. -/
structure IntentFingerprint where
  schemaVersion : String
  intentId : String
  traceId : String
  instrumentCode : String
  action : Action
  orderType : OrderType
  postOnly : Bool
  timeInForce : TimeInForce
  expectedPrice : Option ℚ
  requestedSize : Option ℚ
  approvedSize : Option ℚ
  maxSlippageBps : Option ℚ
  targetSubaccount : Option String
  deriving DecidableEq

/-- The fields that tell two intents apart. -/
def intentFingerprint (intent : TradeIntent) : IntentFingerprint where
  schemaVersion := intent.schemaVersion
  intentId := intent.intentId
  traceId := intent.traceId
  instrumentCode := intent.instrumentCode
  action := intent.action
  orderType := intent.orderType
  postOnly := intent.postOnly
  timeInForce := intent.timeInForce
  expectedPrice := jsonNumber intent.expectedPrice
  requestedSize := jsonNumber intent.requestedSize
  approvedSize := intent.approvedSize.bind jsonNumber
  maxSlippageBps := jsonNumber intent.maxSlippageBps
  targetSubaccount := intent.targetSubaccount

/-- A remembered intent and its response. -/
structure IntentLedgerEntry (β : Type) where
  fingerprint : IntentFingerprint
  response : β
  expiresAt : ℤ

/-- What the ledger says of an intent. -/
inductive IdempotencyDecision (β : Type)
  | new (fingerprint : IntentFingerprint)
  | replay (response : β)
  | conflict

/-- The entries by the identifier of their intent. -/
abbrev IntentIdempotencyLedger (β : Type) : Type := Rows String (IntentLedgerEntry β)

/-- `DEFAULT_TTL_MS`, the time to live of the ledger. -/
def ttlMs : ℤ := 5 * 60000

namespace IntentIdempotencyLedger

variable {β : Type} (ledger : IntentIdempotencyLedger β) (intent : TradeIntent) (now : ℤ)

/-- The entries that have not expired. -/
def prune : IntentIdempotencyLedger β := ledger.filter fun _ entry => now < entry.expiresAt

/-- An intent is new, known, or in conflict with a known one. -/
def evaluate : IdempotencyDecision β × IntentIdempotencyLedger β :=
  let pruned := prune ledger now
  let fingerprint := intentFingerprint intent
  (match pruned.get? intent.intentId with
    | none => .new fingerprint
    | some existing =>
      if existing.fingerprint ≠ fingerprint then .conflict else .replay existing.response,
    pruned)

/-- An intent is remembered with its response. -/
def remember (fingerprint : IntentFingerprint) (response : β) : IntentIdempotencyLedger β :=
  ledger.set intent.intentId ⟨fingerprint, response, now + ttlMs⟩

variable {ledger intent now}

/-- Evaluating leaves the entries that are still alive. -/
theorem get?_evaluate {entry : IntentLedgerEntry β} {key : String}
    (hentry : ledger.get? key = some entry) (halive : now < entry.expiresAt) :
    (evaluate ledger intent now).2.get? key = some entry := by
  show (prune ledger now).get? key = some entry
  rw [prune, Rows.get?_filter, hentry]
  simpa using halive

end IntentIdempotencyLedger

end Yevow.Execution
