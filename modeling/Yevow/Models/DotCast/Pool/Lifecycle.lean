import Yevow.Core.Text.Separator
import Yevow.Core.Control.Except
import Yevow.Models.DotCast.Types

/-!
# The lifecycle of one pool

A pool is created from an open market, takes entries while its window is open, and then
moves along the legal transitions. Nothing here touches stored state: each function returns
the next value or throws.
-/

namespace Yevow.DotCast

open Except (throwIf)
open JavaScript (Runtime Returned)

/-- A pool that is to be created. -/
structure CreatePoolInput where
  id : Option String
  market : MarketSnapshot
  unit : StakeUnit
  entryOpensAt : Option String
  entryClosesAt : String
  rake : Number
  minLiquidity : ℤ
  originatingCreatorId : Option String
  creatorBrand : Option CreatorPoolBranding
  resolutionRoute : Option ResolutionRoute
  now : String
  deriving DecidableEq

/-- An entry that is to be placed. -/
structure PlaceEntryInput where
  pool : Pool
  balance : StakeBalance
  userId : String
  side : Side
  amount : ℤ
  now : String
  entryId : Option String
  deriving DecidableEq

/-- A placed entry. -/
structure PlaceEntryResult where
  pool : Pool
  entry : Entry
  balance : StakeBalance
  deriving DecidableEq

/-- The statuses a pool may move to next. -/
def legalTransitions : PoolStatus → List PoolStatus
  | .open => [.locked, .voided]
  | .locked => [.resolving, .voided]
  | .resolving => [.settled, .voided]
  | .settled => []
  | .voided => []

def PoolStatus.text : PoolStatus → String
  | .open => "open"
  | .locked => "locked"
  | .resolving => "resolving"
  | .settled => "settled"
  | .voided => "voided"

variable (js : Runtime)

/-- A date. -/
def assertIso (value label : String) : Except String ℤ :=
  match js.dateParse value with
  | some parsed => .ok parsed
  | none => .error (label ++ " must be an ISO timestamp")

/-- `Date.parse(value)` as it prints in a template. -/
def dateText (value : String) : String :=
  match js.dateParse value with
  | some parsed => toString parsed
  | none => "NaN"

/-- A printed date contains no separator. -/
theorem free_dateText (value : String) : Text.Free ':' (dateText js value) := by
  unfold dateText
  split
  · exact Text.free_toString (by decide) (by decide) _
  · decide

def assertNonNegativeInteger (value : ℤ) (label : String) : Except String Unit :=
  throwIf (js.arithmetic.isSafeInteger value = false ∨ value < 0)
    (label ++ " must be a non-negative safe integer")

def assertPositiveInteger (value : ℤ) (label : String) : Except String Unit := do
  assertNonNegativeInteger js value label
  throwIf (value ≤ 0) (label ++ " must be greater than zero")

/-- A rake between nothing and all. -/
def assertRake : Number → Except String Unit
  | .finite rake => throwIf (rake < 0 ∨ 1 < rake) "rake must be a finite fraction between 0 and 1"
  | _ => throw "rake must be a finite fraction between 0 and 1"

def assertLockedRealMoneyResolutionRoute (unit : StakeUnit) (route : Option ResolutionRoute) :
    Except String Unit :=
  throwIf (unit = .usdc ∧ route.map ResolutionRoute.status ≠ some .locked)
    "real-money dotCast pools require a locked E13 resolution route before creation"

/-- The identifier of a pool. -/
def derivePoolId (marketId createdAt : String) : String :=
  "dotcast:" ++ marketId ++ ":" ++ dateText js createdAt

/-- The identifier of an entry. -/
def deriveEntryId (poolId userId placedAt : String) : String :=
  poolId ++ ":entry:" ++ userId ++ ":" ++ dateText js placedAt

/-- The creator a pool is credited to; an empty id counts as none. -/
def CreatePoolInput.creator (input : CreatePoolInput) : Option String :=
  input.originatingCreatorId.filter (· ≠ "")

/-- A pool is created. -/
def createPoolFromMarket (input : CreatePoolInput) : Except String Pool := do
  throwIf (input.market.status ≠ .open) "pool creation requires an open market"
  let nowMs ← assertIso js input.now "now"
  let marketCloseMs ← assertIso js input.market.closeTime "market closeTime"
  throwIf (marketCloseMs ≤ nowMs) "pool creation refused for stale market"
  let entryOpensAt := input.entryOpensAt.getD input.now
  let entryOpenMs ← assertIso js entryOpensAt "entryOpensAt"
  let entryCloseMs ← assertIso js input.entryClosesAt "entryClosesAt"
  throwIf (entryOpenMs > entryCloseMs) "entryOpensAt must be at or before entryClosesAt"
  throwIf (entryCloseMs > marketCloseMs) "entryClosesAt cannot be after market closeTime"
  assertLockedRealMoneyResolutionRoute input.unit input.resolutionRoute
  assertRake input.rake
  assertNonNegativeInteger js input.minLiquidity "minLiquidity"
  return {
    id := input.id.getD (derivePoolId js input.market.id input.now)
    marketId := input.market.id
    venue := input.market.venue
    unit := input.unit
    question := input.market.question
    status := .open
    entryOpensAt := entryOpensAt
    entryClosesAt := input.entryClosesAt
    expectedResolveAt := input.market.expectedResolveAt
    rake := input.rake
    pools := ⟨0, 0⟩
    minLiquidity := input.minLiquidity
    createdAt := input.now
    settledAt := none
    outcome := none
    originatingCreatorId := input.creator
    creatorBrand := input.creator.map fun creator =>
      input.creatorBrand.getD ⟨creator, creator, "Creator-originated"⟩
    resolutionRoute := input.resolutionRoute }

/-- An entry is placed. -/
def placeEntry (input : PlaceEntryInput) : Except String PlaceEntryResult := do
  let nowMs ← assertIso js input.now "now"
  let opensMs ← assertIso js input.pool.entryOpensAt "entryOpensAt"
  let closesMs ← assertIso js input.pool.entryClosesAt "entryClosesAt"
  throwIf (input.pool.status ≠ .open) "entries can only be placed while pool is open"
  throwIf (nowMs < opensMs) "entry window is not open"
  throwIf (nowMs > closesMs) "entry window is closed"
  throwIf (input.balance.userId ≠ input.userId) "balance user does not match entry user"
  throwIf (input.balance.unit ≠ input.pool.unit) "balance unit does not match pool unit"
  assertPositiveInteger js input.amount "amount"
  throwIf (input.balance.available < input.amount) "insufficient available balance"
  return {
    pool := { input.pool with
      pools := input.pool.pools.set input.side
        (js.arithmetic.integer (input.pool.pools.get input.side + input.amount)) }
    entry := {
      id := input.entryId.getD (deriveEntryId js input.pool.id input.userId input.now)
      poolId := input.pool.id
      userId := input.userId
      side := input.side
      amount := input.amount
      funding := .user
      placedAt := input.now
      payout := none
      refunded := false }
    balance := { input.balance with
      available := js.arithmetic.integer (input.balance.available - input.amount)
      locked := js.arithmetic.integer (input.balance.locked + input.amount) } }

/-- The check on a transition from open to locked. -/
def assertLockable (pool : Pool) (nextStatus : PoolStatus) (nowMs : ℤ) : Except String Unit :=
  if pool.status = .open ∧ nextStatus = .locked then do
    let closesMs ← assertIso js pool.entryClosesAt "entryClosesAt"
    throwIf (nowMs < closesMs) "pool cannot lock before entryClosesAt"
  else .ok ()

/-- The status of a pool moves on. -/
def transitionPool (pool : Pool) (nextStatus : PoolStatus) (now : String)
    (outcome : Option PoolOutcome) : Except String Pool := do
  let nowMs ← assertIso js now "now"
  throwIf (nextStatus ∉ legalTransitions pool.status)
    ("illegal pool transition " ++ pool.status.text ++ " -> " ++ nextStatus.text)
  assertLockable js pool nextStatus nowMs
  return { pool with
    status := nextStatus
    outcome := if nextStatus.Terminal then outcome else pool.outcome
    settledAt := if nextStatus.Terminal then some now else pool.settledAt }

/-- A pool locks at its time. -/
def lockPoolIfNeeded (pool : Pool) (now : String) : Except String (Returned Pool) := do
  let nowMs ← assertIso js now "now"
  let closesMs ← assertIso js pool.entryClosesAt "entryClosesAt"
  if pool.status ≠ .open ∨ nowMs < closesMs then
    return .same
  else
    return .fresh (← transitionPool js pool .locked now pool.outcome)

end Yevow.DotCast
