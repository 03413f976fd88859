import Yevow.Core.JavaScript.Value
import Yevow.Models.DotCast.Pool.Settlement

/-!
# Requests to a pool object

The payloads of the routes that change a pool, the checks made on them, and the part of
each handler that computes the next snapshot. Nothing is stored here.
-/

namespace Yevow.DotCast

open Except (throwIf)
open JavaScript (Runtime Value Returned)

/-- The funding that an entry names. -/
structure SettlementFundingPayload where
  rail : Value
  lockId : Value
  reservedAmount : Value
  deriving DecidableEq

/-- A request for an entry. -/
structure PlaceEntryPayload where
  userId : Value
  side : Value
  amount : Value
  now : Option String
  entryId : Option String
  settlementFunding : Option SettlementFundingPayload
  deriving DecidableEq

structure LockPoolPayload where
  now : Option String
  deriving DecidableEq

structure SettlePoolPayload where
  outcome : Value
  now : Option String
  deriving DecidableEq

structure VoidPoolPayload where
  reason : Value
  now : Option String
  deriving DecidableEq

structure RouterResolutionPayload where
  marketId : Value
  outcome : Value
  resolvedAt : Value
  fetchedAt : Value
  stale : Value
  source : Value
  now : Option String
  maxGraceMs : Value
  deriving DecidableEq

/-- `CreatePoolInput` with an optional `now`. -/
structure CreatePoolPayload where
  id : Option String
  market : MarketSnapshot
  unit : StakeUnit
  entryOpensAt : Option String
  entryClosesAt : String
  rake : Number
  minLiquidity : ℤ
  originatingCreatorId : Option String
  creatorBrand : Option CreatorPoolBranding
  resolutionRoute : Option ResolutionRoute
  now : Option String
  deriving DecidableEq

/-- The funding of an entry, checked. -/
structure SettlementFunding where
  rail : String
  lockId : String
  reservedAmount : ℤ
  deriving DecidableEq

/-! ## Checks -/

/-- A text that must be there. -/
def parseRequiredString (value : Value) (label : String) : Except String String :=
  match value with
  | .string s =>
    if JavaScript.trim s ≠ "" then .ok (JavaScript.trim s) else .error (label ++ " is required")
  | _ => .error (label ++ " is required")

def parseUserId (value : Value) : Except String String := parseRequiredString value "userId"

/-- A text that may be there. -/
def parseOptionalString (value : Value) (label : String) : Except String (Option String) :=
  match value with
  | .undefined | .null => .ok none
  | .string s =>
    if JavaScript.trim s ≠ "" then .ok (some (JavaScript.trim s))
    else .error (label ++ " must be a non-empty string")
  | _ => .error (label ++ " must be a non-empty string")

/-- The side of an entry. -/
def parseSide : Value → Except String Side
  | .string "yes" => .ok .yes
  | .string "no" => .ok .no
  | _ => .error "side must be yes or no"

/-- The outcome of a settlement. -/
def parseOutcome : Value → Except String PoolOutcome
  | .string "yes" => .ok (.side .yes)
  | .string "no" => .ok (.side .no)
  | .string "invalid" => .ok .invalid
  | _ => .error "outcome must be yes, no, or invalid"

def parseResolutionOutcome : Value → Except String ResolutionOutcome
  | .string "yes" => .ok (.side .yes)
  | .string "no" => .ok (.side .no)
  | .string "invalid" => .ok .invalid
  | .string "pending" => .ok .pending
  | _ => .error "resolution outcome must be yes, no, invalid, or pending"

def parseOptionalVenue : Value → Except String (Option Venue)
  | .string "kalshi" => .ok (some .kalshi)
  | .string "polymarket" => .ok (some .polymarket)
  | .string "dotcast" => .ok (some .dotcast)
  | .string "unknown" => .ok (some .unknown)
  | .undefined | .null => .ok none
  | _ => .error "resolution.source must be a supported venue"

/-- The reason of a void. -/
def parseVoidReason : Value → Except String VoidReason
  | .string "UNDER_LIQUIDITY" => .ok .underLiquidity
  | .string "ONE_SIDED_POOL" => .ok .oneSidedPool
  | .string "NO_WINNING_ENTRIES" => .ok .noWinningEntries
  | .string "INVALID_RESOLUTION" => .ok .invalidResolution
  | .string "GRACE_TIMEOUT" => .ok .graceTimeout
  | .string "SOURCE_CANCELLED" => .ok .sourceCancelled
  | .string "ADMIN_VOID" => .ok .adminVoid
  | _ => .error "void reason is required"

/-- `typeof value === "boolean" ? value : false`. -/
def parseStale : Value → Bool
  | .boolean b => b
  | _ => false

variable (js : Runtime)

/-- A positive amount. -/
def parseAmount (value : Value) : Except String ℤ :=
  match value with
  | .number n =>
    match JavaScript.safeInteger? js.arithmetic n with
    | some amount =>
      if amount ≤ 0 then .error "amount must be a positive integer minor-unit amount"
      else .ok amount
    | none => .error "amount must be a positive integer minor-unit amount"
  | _ => .error "amount must be a positive integer minor-unit amount"

def parseOptionalNonNegativeInteger (value : Value) (label : String) :
    Except String (Option ℤ) :=
  match value with
  | .undefined | .null => .ok none
  | .number n =>
    match JavaScript.safeInteger? js.arithmetic n with
    | some v =>
      if v < 0 then .error (label ++ " must be a non-negative integer") else .ok (some v)
    | none => .error (label ++ " must be a non-negative integer")
  | _ => .error (label ++ " must be a non-negative integer")

/-- An environment variable holding a number of milliseconds. -/
def parseEnvNonNegativeInteger (value : Option String) (label : String) :
    Except String (Option ℤ) :=
  match value with
  | none => .ok none
  | some text =>
    if JavaScript.trim text = "" then .ok none
    else match JavaScript.safeInteger? js.arithmetic (js.toNumber text) with
      | some v =>
        if v < 0 then .error (label ++ " must be a non-negative integer") else .ok (some v)
      | none => .error (label ++ " must be a non-negative integer")

/-- The `amount` parameter of the odds route. -/
def parseOptionalAmount (value : Option String) : Except String (Option ℤ) :=
  match value with
  | none => .ok none
  | some text =>
    match JavaScript.safeInteger? js.arithmetic (js.toNumber text) with
    | some amount =>
      if amount ≤ 0 then .error "amount must be a positive integer minor-unit amount"
      else .ok (some amount)
    | none => .error "amount must be a positive integer minor-unit amount"

/-- A resolution is read. -/
def parseRouterResolution (payload : RouterResolutionPayload) (fallbackFetchedAt : String) :
    Except String RouterResolution := do
  let marketId ← parseRequiredString payload.marketId "resolution.marketId"
  let outcome ← parseResolutionOutcome payload.outcome
  let resolvedAt ← parseOptionalString payload.resolvedAt "resolution.resolvedAt"
  let fetchedAt ← parseOptionalString payload.fetchedAt "resolution.fetchedAt"
  let source ← parseOptionalVenue payload.source
  return ⟨marketId, outcome, resolvedAt, fetchedAt.getD fallbackFetchedAt,
    parseStale payload.stale, source⟩

/-- The funding of an entry is read. -/
def parseSettlementFunding (value : Option SettlementFundingPayload) (unit : StakeUnit)
    (amount : ℤ) : Except String (Option SettlementFunding) :=
  if unit ≠ .usdc then .ok none
  else match value with
    | none => .error "usdc entries require an E6 settlement funding reservation"
    | some funding => do
      let rail ← parseRequiredString funding.rail "settlementFunding.rail"
      let lockId ← parseRequiredString funding.lockId "settlementFunding.lockId"
      let reservedAmount ← parseAmount js funding.reservedAmount
      throwIf (rail ≠ "solana-usdc-devnet")
        "usdc entries require a solana-usdc-devnet funding rail"
      throwIf (reservedAmount ≠ amount) "settlement funding reservation must equal entry amount"
      return some ⟨rail, lockId, reservedAmount⟩

/-! ## Placing an entry -/

def defaultPointsBalance : ℤ := 10000

/-- The first balance of a user. -/
def seedBalance (userId : String) (unit : StakeUnit) : StakeBalance :=
  ⟨userId, unit, if unit = .points then defaultPointsBalance else 0, 0⟩

/-- `snapshot.balances[userId] ?? seedBalance(userId, unit)`. Under the name of an inherited
member the lookup finds an object that is no balance and has no user. -/
def currentBalance (balances : Balances) (userId : String) (unit : StakeUnit) : StakeBalance :=
  match balances.lookup userId with
  | some balance => balance
  | none =>
    if userId ∈ JavaScript.inheritedMembers then ⟨"", unit, 0, 0⟩ else seedBalance userId unit

/-- The balance an entry is placed against: in a funded pool the reservation is added. -/
def fundedBalance (balance : StakeBalance) (funding : Option SettlementFunding) : StakeBalance :=
  match funding with
  | some funding => { balance with
      available := js.arithmetic.integer (balance.available + funding.reservedAmount) }
  | none => balance

/-- What a placement comes to before anything is stored. -/
inductive Placement
  | duplicate (entry : Entry) (balance : Option StakeBalance)
  | placed (result : PlaceEntryResult) (funding : Option SettlementFunding)
      (snapshot : PoolSnapshot)
  deriving DecidableEq

/-- The entry an id refers to; the empty id refers to none. -/
def existingEntry (snapshot : PoolSnapshot) (entryId : Option String) : Option Entry :=
  match entryId with
  | some id => if id = "" then none else snapshot.entries.find? fun entry => entry.id = id
  | none => none

/-- The pool with a further entry. -/
def placedSnapshot (snapshot : PoolSnapshot) (result : PlaceEntryResult) (userId now : String) :
    PoolSnapshot :=
  { snapshot with
    pool := result.pool
    entries := snapshot.entries ++ [result.entry]
    balances := snapshot.balances.insert userId result.balance
    updatedAt := now }

/-- The placement handler between reading the snapshot and storing the next one. -/
def planPlacement (payload : PlaceEntryPayload) (now freshId : String) (snapshot : PoolSnapshot) :
    Except String Placement := do
  let userId ← parseUserId payload.userId
  let side ← parseSide payload.side
  let amount ← parseAmount js payload.amount
  let settlementFunding ←
    parseSettlementFunding js payload.settlementFunding snapshot.pool.unit amount
  match existingEntry snapshot payload.entryId with
  | some entry => return .duplicate entry (snapshot.balances.lookup userId)
  | none =>
    let balance := fundedBalance js
      (currentBalance snapshot.balances userId snapshot.pool.unit) settlementFunding
    let result ← placeEntry js {
      pool := snapshot.pool
      balance := balance
      userId := userId
      side := side
      amount := amount
      now := now
      entryId := some (payload.entryId.getD freshId) }
    let placed := placedSnapshot snapshot result userId now
    let next ← lockSnapshotIfNeeded js placed now
    return .placed result settlementFunding (next.value placed)

/-! ## Creating a pool -/

/-- The pool that a request asks for. -/
def CreatePoolPayload.input (payload : CreatePoolPayload) (now : String) : CreatePoolInput where
  id := payload.id
  market := payload.market
  unit := payload.unit
  entryOpensAt := payload.entryOpensAt
  entryClosesAt := payload.entryClosesAt
  rake := payload.rake
  minLiquidity := payload.minLiquidity
  originatingCreatorId := payload.originatingCreatorId
  creatorBrand := payload.creatorBrand
  resolutionRoute := payload.resolutionRoute
  now := now

/-- A pool without entries. -/
def createdSnapshot (pool : Pool) (now : String) : PoolSnapshot where
  pool := pool
  entries := []
  balances := ∅
  houseLedger := []
  settlement := none
  voidReason := none
  lastResolution := none
  updatedAt := now

/-- The snapshot a creation stores. -/
def planCreation (payload : CreatePoolPayload) (now : String) : Except String PoolSnapshot := do
  let pool ← createPoolFromMarket js (payload.input now)
  return createdSnapshot pool now

/-- The resolution handler between reading the snapshot and storing the next one. -/
def planResolution (payload : RouterResolutionPayload) (now : String) (snapshot : PoolSnapshot) :
    Except String ResolutionIntakeResult := do
  let resolution ← parseRouterResolution payload now
  let maxGraceMs ← parseOptionalNonNegativeInteger js payload.maxGraceMs "maxGraceMs"
  applyRouterResolution js ⟨snapshot, resolution, now, maxGraceMs⟩

/-- The settlement handler between reading the snapshot and storing the next one. -/
def planSettlement (payload : SettlePoolPayload) (now : String) (snapshot : PoolSnapshot) :
    Except String PoolSnapshot := do
  let outcome ← parseOutcome payload.outcome
  settlePoolSnapshot js snapshot outcome now

/-- The void handler between reading the snapshot and storing the next one. -/
def planVoid (payload : VoidPoolPayload) (now : String) (snapshot : PoolSnapshot) :
    Except String PoolSnapshot := do
  let reason ← parseVoidReason payload.reason
  voidPoolSnapshot js snapshot reason now snapshot.pool.outcome

end Yevow.DotCast
