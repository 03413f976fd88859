import Yevow.Core.Collection.Table
import Yevow.Core.JavaScript.Runtime

/-!
# Pools, entries and balances

The stored data of a dotCast prediction pool. Amounts are integers of minor units, keyed
objects are tables, and a field the source types as `T | null` is an `Option`.
-/

namespace Yevow.DotCast

/-- The sides of a pool. -/
inductive Side
  | yes
  | no
  deriving DecidableEq, Repr

/-- What stakes are counted in. -/
inductive StakeUnit
  | points
  | usdc
  deriving DecidableEq, Repr

/-- How far a pool has come. -/
inductive PoolStatus
  | open
  | locked
  | resolving
  | settled
  | voided
  deriving DecidableEq, Repr

/-- No later operation of the lifecycle leaves these states. -/
def PoolStatus.Terminal (s : PoolStatus) : Prop := s = .settled ∨ s = .voided

instance (s : PoolStatus) : Decidable s.Terminal := inferInstanceAs (Decidable (_ ∨ _))

/-- A recorded outcome, `Side | "invalid"`. -/
inductive PoolOutcome
  | side (s : Side)
  | invalid
  deriving DecidableEq, Repr

/-- A router's answer, `Side | "invalid" | "pending"`. -/
inductive ResolutionOutcome
  | side (s : Side)
  | invalid
  | pending
  deriving DecidableEq, Repr

/-- Why a pool is voided. -/
inductive VoidReason
  | underLiquidity
  | oneSidedPool
  | noWinningEntries
  | invalidResolution
  | graceTimeout
  | sourceCancelled
  | adminVoid
  deriving DecidableEq, Repr

/-- Where a market is listed. -/
inductive Venue
  | kalshi
  | polymarket
  | dotcast
  | unknown
  deriving DecidableEq, Repr

/-- How far a market has come. -/
inductive MarketStatus
  | open
  | closed
  | settled
  | cancelled
  | voided
  deriving DecidableEq, Repr

/-- How far a route has come. -/
inductive ResolutionRouteStatus
  | locked
  | reviewRequired
  | pointsOnly
  | blocked
  deriving DecidableEq, Repr

/-- The part of a resolution route that pool creation reads. -/
structure ResolutionRoute where
  routeId : String
  marketId : String
  poolId : Option String
  status : ResolutionRouteStatus
  deriving DecidableEq

/-- The stakes of both sides. -/
structure SideTotals where
  yes : ℤ
  no : ℤ
  deriving DecidableEq

namespace SideTotals

/-- `totals[side]`. -/
def get (t : SideTotals) : Side → ℤ
  | .yes => t.yes
  | .no => t.no

/-- `totals[side] = value`. -/
def set (t : SideTotals) (side : Side) (value : ℤ) : SideTotals :=
  match side with
  | .yes => { t with yes := value }
  | .no => { t with no := value }

@[simp] theorem get_set_self (t : SideTotals) (s : Side) (v : ℤ) : (t.set s v).get s = v := by
  cases s <;> rfl

theorem get_set_of_ne (t : SideTotals) {s s' : Side} (h : s' ≠ s) (v : ℤ) :
    (t.set s v).get s' = t.get s' := by
  cases s <;> cases s' <;> first | rfl | exact absurd rfl h

end SideTotals

structure CreatorPoolBranding where
  creatorId : String
  displayName : String
  disclosureLabel : String
  deriving DecidableEq

/-- A market. -/
structure MarketSnapshot where
  id : String
  venue : Venue
  question : String
  status : MarketStatus
  closeTime : String
  expectedResolveAt : Option String
  deriving DecidableEq

/-- A pool. -/
structure Pool where
  id : String
  marketId : String
  venue : Venue
  unit : StakeUnit
  question : String
  status : PoolStatus
  entryOpensAt : String
  entryClosesAt : String
  expectedResolveAt : Option String
  rake : Number
  pools : SideTotals
  minLiquidity : ℤ
  createdAt : String
  settledAt : Option String
  outcome : Option PoolOutcome
  originatingCreatorId : Option String
  creatorBrand : Option CreatorPoolBranding
  resolutionRoute : Option ResolutionRoute
  deriving DecidableEq

/-- Who funds an entry. -/
inductive EntryFunding
  | user
  | house
  deriving DecidableEq, Repr

/-- An entry of a pool. -/
structure Entry where
  id : String
  poolId : String
  userId : String
  side : Side
  amount : ℤ
  funding : EntryFunding
  placedAt : String
  payout : Option ℤ
  refunded : Bool
  deriving DecidableEq

/-- The balance of a user. -/
structure StakeBalance where
  userId : String
  unit : StakeUnit
  available : ℤ
  locked : ℤ
  deriving DecidableEq

/-- An entry in the ledger of the house. -/
structure HouseLedgerEntry where
  id : String
  poolId : String
  unit : StakeUnit
  amount : ℤ
  reason : String
  createdAt : String
  deriving DecidableEq

/-- A resolution of a market. -/
structure RouterResolution where
  marketId : String
  outcome : ResolutionOutcome
  resolvedAt : Option String
  fetchedAt : String
  stale : Bool
  source : Option Venue
  deriving DecidableEq

/-- How a pool was settled. -/
structure SettlementRecord where
  id : String
  poolId : String
  outcome : Side
  totalStaked : ℤ
  payoutTotal : ℤ
  rakeAmount : ℤ
  createdAt : String
  deriving DecidableEq

/-- Stake balances under the user's id. -/
abbrev Balances : Type := Table String StakeBalance

/-- A pool with its entries and balances. -/
structure PoolSnapshot where
  pool : Pool
  entries : List Entry
  balances : Balances
  houseLedger : List HouseLedgerEntry
  settlement : Option SettlementRecord
  voidReason : Option VoidReason
  lastResolution : Option RouterResolution
  updatedAt : String
  deriving DecidableEq

end Yevow.DotCast
