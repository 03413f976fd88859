import Yevow.Models.DotCast.Parimutuel.Settle
import Yevow.Models.DotCast.Pool.Lifecycle

/-!
# Locking, settling and voiding a stored pool

The operations on a whole snapshot. Settling and voiding walk over the entries and release
every stake from its user's locked balance; a settlement pays out what the parimutuel rule
says, a void gives the stakes back.
-/

namespace Yevow.DotCast

open Except (throwIf)
open JavaScript (Runtime Returned)

/-- What became of a resolution. -/
inductive ResolutionIntakeAction
  | settled
  | voided
  | held
  | ignored
  deriving DecidableEq, Repr

/-- Why that became of it. -/
inductive ResolutionIntakeReason
  | definitiveOutcome
  | invalidResolution
  | pendingResolution
  | staleResolution
  | graceTimeout
  | lockVoid
  | poolNotLocked
  | terminalPool
  deriving DecidableEq, Repr

/-- A resolution and the pool it meets. -/
structure ResolutionIntakeInput where
  snapshot : PoolSnapshot
  resolution : RouterResolution
  now : String
  maxGraceMs : Option ℤ
  deriving DecidableEq

/-- The pool after a resolution. -/
structure ResolutionIntakeResult where
  action : ResolutionIntakeAction
  reason : ResolutionIntakeReason
  snapshot : PoolSnapshot
  deriving DecidableEq

def defaultResolutionMaxGraceMs : ℤ := 24 * 60 * 60 * 1000

/-- The fields filled in by the source are always present here, so what remains of the
normalisation is that it copies. -/
def normalizePoolSnapshot (snapshot : PoolSnapshot) : Returned PoolSnapshot := .fresh snapshot

variable (js : Runtime)

/-- Why a pool is voided when it locks. -/
def lockVoidReason (pool : Pool) : Option VoidReason :=
  let totalStaked := js.arithmetic.integer (pool.pools.yes + pool.pools.no)
  if totalStaked < pool.minLiquidity then some .underLiquidity
  else if pool.pools.yes = 0 ∨ pool.pools.no = 0 then some .oneSidedPool
  else none

/-! ## Releasing stakes -/

/-- The balance of an entry. -/
def requireBalance (balances : Balances) (entry : Entry) : Except String StakeBalance :=
  match balances.lookup entry.userId with
  | none => .error ("stake balance missing for entry user " ++ entry.userId)
  | some balance =>
    if balance.locked < entry.amount then
      .error ("locked balance below entry amount for user " ++ entry.userId)
    else .ok balance

def emptyBalance (userId : String) (unit : StakeUnit) : StakeBalance := ⟨userId, unit, 0, 0⟩

def assertNonNegativeBalance (balance : StakeBalance) (userId : String) : Except String Unit :=
  throwIf (balance.available < 0 ∨ balance.locked < 0)
    ("negative stake balance for user " ++ userId)

/-- Unlock an entry's stake and credit its user. -/
def releaseStake (balances : Balances) (entry : Entry) (credit : ℤ) : Except String Balances := do
  let balance ← requireBalance balances entry
  let next := { balance with
    available := js.arithmetic.integer (balance.available + credit)
    locked := js.arithmetic.integer (balance.locked - entry.amount) }
  assertNonNegativeBalance next entry.userId
  return balances.insert entry.userId next

/-- `entries.map` with a body that also updates the balances. -/
def mapEntries (body : Balances → Entry → Except String (Entry × Balances)) :
    Balances → List Entry → Except String (List Entry × Balances)
  | balances, [] => .ok ([], balances)
  | balances, entry :: rest => do
    let (entry', balances') ← body balances entry
    let (rest', final) ← mapEntries body balances' rest
    return (entry' :: rest', final)

/-- An entry is paid. -/
def settleEntry (payoutsByEntry : Table String SettlementPayout) (unit : StakeUnit)
    (balances : Balances) (entry : Entry) : Except String (Entry × Balances) :=
  match payoutsByEntry.lookup entry.id with
  | none => .error ("settlement payout missing for entry " ++ entry.id)
  | some payout => do
    let balances' ← match entry.funding with
      | .user => releaseStake js balances entry payout.payout
      | .house =>
        if payout.payout > 0 then
          let balance := (balances.lookup entry.userId).getD (emptyBalance entry.userId unit)
          .ok (balances.insert entry.userId
            { balance with available := js.arithmetic.integer (balance.available + payout.payout) })
        else .ok balances
    return ({ entry with payout := some payout.payout, refunded := false }, balances')

/-- An entry is refunded. -/
def refundEntry (balances : Balances) (entry : Entry) : Except String (Entry × Balances) :=
  if entry.refunded then .ok (entry, balances)
  else do
    let balances' ← match entry.funding with
      | .user => releaseStake js balances entry entry.amount
      | .house => .ok balances
    return ({ entry with payout := none, refunded := true }, balances')

/-! ## Snapshots -/

/-- A pool is voided and its entries refunded. -/
def voidPoolSnapshot (snapshot : PoolSnapshot) (reason : VoidReason) (now : String)
    (outcome : Option PoolOutcome) : Except String PoolSnapshot :=
  if snapshot.pool.status = .voided then .ok snapshot
  else if snapshot.pool.status = .settled then .error "settled pools cannot be voided"
  else do
    let (entries, balances) ← mapEntries (refundEntry js) snapshot.balances snapshot.entries
    let pool ← transitionPool js snapshot.pool .voided now outcome
    return { snapshot with
      pool := pool
      entries := entries
      balances := balances
      settlement := none
      voidReason := some reason
      updatedAt := now }

/-- A pool locks or is voided at its time. -/
def lockSnapshotIfNeeded (snapshot : PoolSnapshot) (now : String) :
    Except String (Returned PoolSnapshot) := do
  match ← lockPoolIfNeeded js snapshot.pool now with
  | .same => return normalizePoolSnapshot snapshot
  | .fresh pool =>
    match lockVoidReason js pool with
    | some reason => return .fresh (← voidPoolSnapshot js snapshot reason now snapshot.pool.outcome)
    | none => return .fresh { snapshot with pool := pool, updatedAt := now }

def toSettlementEntry (entry : Entry) : SettlementEntry :=
  ⟨entry.id, entry.side, entry.amount, some entry.placedAt⟩

/-- The rake in the ledger of the house. -/
def houseRakeEntry (pool : Pool) (amount : ℤ) (now : String) : HouseLedgerEntry :=
  ⟨"house:rake:" ++ pool.id ++ ":" ++ dateText js now, pool.id, pool.unit, amount, "rake", now⟩

/-- The record of a settlement. -/
def settlementRecord (pool : Pool) (outcome : Side) (settlement : SettledParimutuelResult)
    (now : String) : SettlementRecord where
  id := "settlement:" ++ pool.id ++ ":" ++ outcome.label
  poolId := pool.id
  outcome := outcome
  totalStaked := settlement.totalStaked
  payoutTotal :=
    settlement.payouts.foldl (fun sum payout => js.arithmetic.integer (sum + payout.payout)) 0
  rakeAmount := settlement.rakeAmount
  createdAt := now

/-- The snapshot after a settlement that divides the pool. -/
def settledSnapshot (snapshot : PoolSnapshot) (resolvingPool : Pool) (outcome : Side)
    (settlement : SettledParimutuelResult) (now : String) : Except String PoolSnapshot := do
  let payoutsByEntry := Table.ofList SettlementPayout.entryId id settlement.payouts
  let (entries, balances) ← mapEntries (settleEntry js payoutsByEntry snapshot.pool.unit)
    snapshot.balances snapshot.entries
  let houseLedger :=
    if settlement.rakeAmount > 0 then
      snapshot.houseLedger ++ [houseRakeEntry js snapshot.pool settlement.rakeAmount now]
    else snapshot.houseLedger
  let pool ← transitionPool js resolvingPool .settled now (some (.side outcome))
  return {
    pool := pool
    entries := entries
    balances := balances
    houseLedger := houseLedger
    settlement := some (settlementRecord js snapshot.pool outcome settlement now)
    voidReason := none
    lastResolution := snapshot.lastResolution
    updatedAt := now }

/-- A locked pool starts resolving; a pool that already does stays as it is. -/
def startResolving (pool : Pool) (now : String) : Except String Pool :=
  if pool.status = .locked then transitionPool js pool .resolving now pool.outcome else .ok pool

/-- A pool is settled and its entries paid. -/
def settlePoolSnapshot (snapshot : PoolSnapshot) (outcome : PoolOutcome) (now : String) :
    Except String PoolSnapshot :=
  if snapshot.pool.status.Terminal then .ok snapshot
  else match outcome with
    | .invalid => voidPoolSnapshot js snapshot .invalidResolution now (some .invalid)
    | .side side => do
      throwIf (snapshot.pool.status ≠ .locked ∧ snapshot.pool.status ≠ .resolving)
        "settlement requires a locked or resolving pool"
      let resolvingPool ← startResolving js snapshot.pool now
      let settlement ←
        settleParimutuel js (snapshot.entries.map toSettlementEntry) side resolvingPool.rake
      match settlement with
      | .voidRequired _ =>
        voidPoolSnapshot js { snapshot with pool := resolvingPool } .noWinningEntries now
          resolvingPool.outcome
      | .settled result => settledSnapshot js snapshot resolvingPool side result now

/-! ## Router resolutions -/

def withResolution (snapshot : PoolSnapshot) (resolution : RouterResolution) (now : String) :
    PoolSnapshot :=
  { snapshot with lastResolution := some resolution, updatedAt := now }

/-- The grace for a resolution is over. -/
def isPastResolutionGrace (pool : Pool) (nowMs maxGraceMs : ℤ) : Except String Bool :=
  match pool.expectedResolveAt with
  | none => .ok false
  | some expectedResolveAt =>
    if expectedResolveAt = "" then .ok false
    else do
      let expectedMs ← assertIso js expectedResolveAt "expectedResolveAt"
      return decide (nowMs > js.arithmetic.integer (expectedMs + maxGraceMs))

/-- The branch for an answer that decides nothing yet. -/
def holdOrTimeOut (snapshot : PoolSnapshot) (heldReason : ResolutionIntakeReason) (now : String)
    (nowMs maxGraceMs : ℤ) : Except String ResolutionIntakeResult := do
  if ← isPastResolutionGrace js snapshot.pool nowMs maxGraceMs then
    return ⟨.voided, .graceTimeout,
      ← voidPoolSnapshot js snapshot .graceTimeout now snapshot.pool.outcome⟩
  else
    return ⟨.held, heldReason, snapshot⟩

/-- What a locked or resolving pool does with a resolution. -/
def resolveLockedSnapshot (lockedSnapshot : PoolSnapshot) (resolution : RouterResolution)
    (now : String) (nowMs maxGraceMs : ℤ) : Except String ResolutionIntakeResult :=
  if resolution.stale then
    holdOrTimeOut js lockedSnapshot .staleResolution now nowMs maxGraceMs
  else match resolution.outcome with
    | .pending => holdOrTimeOut js lockedSnapshot .pendingResolution now nowMs maxGraceMs
    | .invalid =>
      return ⟨.voided, .invalidResolution, ← settlePoolSnapshot js lockedSnapshot .invalid now⟩
    | .side side => do
      let settled ← settlePoolSnapshot js lockedSnapshot (.side side) now
      return ⟨if settled.pool.status = .voided then .voided else .settled, .definitiveOutcome,
        settled⟩

def assertOptionalIso (value : Option String) (label : String) : Except String Unit :=
  match value with
  | none => .ok ()
  | some value => do
    let _ ← assertIso js value label
    return ()

/-- A resolution settles, voids, waits or is ignored. -/
def applyRouterResolution (input : ResolutionIntakeInput) :
    Except String ResolutionIntakeResult := do
  let nowMs ← assertIso js input.now "now"
  let _ ← assertIso js input.resolution.fetchedAt "resolution.fetchedAt"
  assertOptionalIso js input.resolution.resolvedAt "resolution.resolvedAt"
  let maxGraceMs := input.maxGraceMs.getD defaultResolutionMaxGraceMs
  throwIf (js.arithmetic.isSafeInteger maxGraceMs = false ∨ maxGraceMs < 0)
    "maxGraceMs must be a non-negative safe integer"
  let normalized := withResolution input.snapshot input.resolution input.now
  throwIf (normalized.pool.marketId ≠ input.resolution.marketId)
    "resolution marketId does not match pool marketId"
  if normalized.pool.status.Terminal then
    return ⟨.ignored, .terminalPool, normalized⟩
  else
    let lockedSnapshot := (← lockSnapshotIfNeeded js normalized input.now).value normalized
    if lockedSnapshot.pool.status = .voided then
      return ⟨.voided, .lockVoid, lockedSnapshot⟩
    else if lockedSnapshot.pool.status ≠ .locked ∧ lockedSnapshot.pool.status ≠ .resolving then
      return ⟨.held, .poolNotLocked, lockedSnapshot⟩
    else
      resolveLockedSnapshot js lockedSnapshot input.resolution input.now nowMs maxGraceMs

end Yevow.DotCast
