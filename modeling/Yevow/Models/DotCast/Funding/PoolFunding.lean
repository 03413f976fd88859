import Yevow.Models.DotCast.Funding.Rail

/-!
# Funding of pool entries

Every entry of a usdc pool is backed by a lock on its user's settlement balance: reserved
before the entry is placed, released when the pool rejects it, and paid out or refunded
when the pool ends.
-/

namespace Yevow.DotCast

open Except (throwIf)
open JavaScript (Runtime)

/-- The settings of pool funding. -/
structure UsdcPoolFundingEnv extends SettlementRailEnv where
  usdcPoolsEnabled : Option String
  deriving DecidableEq

/-- Whether pools may be funded. -/
structure UsdcPoolFundingStatus where
  enabled : Bool
  ready : Bool
  rail : SettlementRailStatus
  guards : List String
  deriving DecidableEq

/-- An entry that is to be funded. -/
structure ReserveUsdcPoolEntryInput where
  poolId : String
  entryId : String
  userId : String
  amount : ℤ
  now : Option String
  deriving DecidableEq

/-- An entry whose funds are to be released. -/
structure ReleaseUsdcPoolEntryReservationInput where
  poolId : String
  entryId : String
  userId : String
  reason : String
  now : Option String
  deriving DecidableEq

/-- The answer of a reservation or a release: its `status` is the one the operation claims. -/
structure PoolFundingResult where
  status : PoolFundingLockStatus
  idempotent : Bool
  lock : PoolFundingLock
  balance : SettlementBalance
  funding : UsdcPoolFundingStatus
  deriving DecidableEq

/-- How many entries were settled. -/
structure TerminalSettlementResult where
  applied : ℕ
  idempotent : ℕ
  funding : UsdcPoolFundingStatus
  deriving DecidableEq

variable (js : Runtime)

/-- The settings are read. -/
def readUsdcPoolFundingStatus (env : UsdcPoolFundingEnv) : UsdcPoolFundingStatus :=
  let rail := readSolanaUsdcSettlementRailStatus js env.toSettlementRailEnv
  let enabled := env.usdcPoolsEnabled == some "true"
  { enabled := enabled
    ready := enabled && rail.ready
    rail := rail
    guards := rail.guards ++ (if enabled then [] else ["usdc pools disabled"]) ++
      if rail.ready then [] else ["settlement rail not ready"] }

/-- Pool funding must be ready. -/
def assertUsdcPoolFundingReady (env : UsdcPoolFundingEnv) : Except Fault UsdcPoolFundingStatus := do
  let funding := readUsdcPoolFundingStatus js env
  throwIf (funding.enabled = false)
    ⟨"USDC pools are disabled until the E6 pool funding rail is enabled",
      some "USDC_POOLS_DISABLED", some 503⟩
  throwIf (funding.rail.ready = false)
    ⟨funding.guards.head?.getD "USDC pool funding is not ready", some "USDC_POOL_FUNDING_NOT_READY",
      some 503⟩
  return funding

/-- A configuration that permits usdc pools on the devnet rail. -/
def devnetEnv : UsdcPoolFundingEnv where
  settlementRailMode := some "devnet"
  solanaCluster := none
  solanaUsdcMint := none
  settlementSignerMode := none
  operatorWithdrawalsApproved := none
  withdrawalMaxMinorUnits := none
  depositConfirmationsRequired := none
  usdcPoolsEnabled := some "true"

/-- The identifier of a pool lock. -/
def poolFundingLockId (poolId entryId : String) : String :=
  "dotcast:e6:pool-lock:" ++ poolId ++ ":" ++ entryId

/-- What happened to a pool lock. -/
inductive PoolFundingEventType
  | reserved
  | released
  | settled
  | refunded

def PoolFundingEventType.text : PoolFundingEventType → String
  | .reserved => "POOL_ENTRY_RESERVED"
  | .released => "POOL_ENTRY_RELEASED"
  | .settled => "POOL_ENTRY_SETTLED"
  | .refunded => "POOL_ENTRY_REFUNDED"

def PoolFundingEventType.lower : PoolFundingEventType → String
  | .reserved => "pool_entry_reserved"
  | .released => "pool_entry_released"
  | .settled => "pool_entry_settled"
  | .refunded => "pool_entry_refunded"

/-- An event of a pool lock. -/
def poolFundingEvent (lock : PoolFundingLock) (eventType : PoolFundingEventType)
    (createdAt : String) : FundingEvent :=
  ⟨.pool, lock.lockId ++ ":" ++ eventType.lower, lock.userId, eventType.text, lock.amount,
    createdAt⟩

def poolLockNotFound : Fault :=
  ⟨"USDC pool funding lock was not found for terminal settlement",
    some "USDC_POOL_LOCK_NOT_FOUND", some 409⟩

/-- The lock of an entry. -/
def requirePoolFundingLock (poolId entryId : String) : Funding PoolFundingLock := do
  match ← Funding.getPoolFundingLock (poolFundingLockId poolId entryId) with
  | some lock => return lock
  | none => Funding.fail poolLockNotFound

/-! ## Reserving -/

/-- A balance after a reservation. -/
def reservedBalance (balance : SettlementBalance) (amount : ℤ) (now : String) :
    SettlementBalance :=
  { balance with
    availableUsdc := js.arithmetic.integer (balance.availableUsdc - amount)
    lockedPoolUsdc := js.arithmetic.integer (balance.lockedPoolUsdc + amount)
    updatedAt := now }

/-- A lock as it is stored. -/
def newPoolFundingLock (poolId entryId userId : String) (amount : ℤ) (now : String) :
    PoolFundingLock :=
  ⟨poolFundingLockId poolId entryId, poolId, entryId, userId, amount, .locked, none, now, now⟩

/-- An entry whose fields were checked. -/
structure CheckedPoolEntry where
  funding : UsdcPoolFundingStatus
  poolId : String
  entryId : String
  userId : String

/-- The checks before a reservation. -/
def checkReservation (env : UsdcPoolFundingEnv) (input : ReserveUsdcPoolEntryInput) :
    Except Fault CheckedPoolEntry := do
  let funding ← assertUsdcPoolFundingReady js env
  let poolId ← requireText "INVALID_USDC_POOL_FUNDING_INPUT" input.poolId "poolId"
  let entryId ← requireText "INVALID_USDC_POOL_FUNDING_INPUT" input.entryId "entryId"
  let userId ← requireText "INVALID_USDC_POOL_FUNDING_INPUT" input.userId "userId"
  assertPositiveAmount js "INVALID_USDC_POOL_FUNDING_AMOUNT" input.amount "amount"
  return ⟨funding, poolId, entryId, userId⟩

/-- The branch for an entry that has a lock already, whatever that lock's status. -/
def reuseReservation (checked : CheckedPoolEntry) (existing : PoolFundingLock) (amount : ℤ)
    (now : String) : Funding PoolFundingResult :=
  if existing.userId ≠ checked.userId ∨ existing.amount ≠ amount then
    Funding.fail ⟨"USDC pool funding lock already belongs to a different entry",
      some "USDC_POOL_LOCK_CONFLICT", some 409⟩
  else do
    let balance ← readSettlementBalance checked.userId now
    return ⟨.locked, true, existing, balance, checked.funding⟩

/-- The branch for an entry that has no lock. -/
def makeReservation (checked : CheckedPoolEntry) (amount : ℤ) (now : String) :
    Funding PoolFundingResult := do
  let balance ← readSettlementBalance checked.userId now
  if balance.availableUsdc < amount then
    Funding.fail ⟨"available USDC balance is insufficient for this pool entry",
      some "INSUFFICIENT_USDC_BALANCE", some 409⟩
  else
    let nextBalance := reservedBalance js balance amount now
    let lock := newPoolFundingLock checked.poolId checked.entryId checked.userId amount now
    Funding.insertPoolFundingLock lock
    Funding.saveBalance nextBalance
    Funding.appendEvent (poolFundingEvent lock .reserved now)
    return ⟨.locked, false, lock, nextBalance, checked.funding⟩

/-- The stake of an entry is locked. -/
def reserveUsdcPoolEntry (env : UsdcPoolFundingEnv) (clock : String)
    (input : ReserveUsdcPoolEntryInput) : Funding PoolFundingResult := do
  let now := input.now.getD clock
  let checked ← Funding.check (checkReservation js env input)
  match ← Funding.getPoolFundingLock (poolFundingLockId checked.poolId checked.entryId) with
  | some existing => reuseReservation checked existing input.amount now
  | none => makeReservation js checked input.amount now

/-! ## Releasing -/

/-- A balance after a release. -/
def releasedPoolBalance (balance : SettlementBalance) (amount : ℤ) (now : String) :
    SettlementBalance :=
  { balance with
    availableUsdc := js.arithmetic.integer (balance.availableUsdc + amount)
    lockedPoolUsdc := max 0 (js.arithmetic.integer (balance.lockedPoolUsdc - amount))
    updatedAt := now }

/-- The checks before a release. -/
def checkRelease (env : UsdcPoolFundingEnv) (input : ReleaseUsdcPoolEntryReservationInput) :
    Except Fault CheckedPoolEntry := do
  let funding ← assertUsdcPoolFundingReady js env
  let poolId ← requireText "INVALID_USDC_POOL_FUNDING_INPUT" input.poolId "poolId"
  let entryId ← requireText "INVALID_USDC_POOL_FUNDING_INPUT" input.entryId "entryId"
  let userId ← requireText "INVALID_USDC_POOL_FUNDING_INPUT" input.userId "userId"
  return ⟨funding, poolId, entryId, userId⟩

/-- The branch for a lock that is found. -/
def releaseLock (checked : CheckedPoolEntry) (lock : PoolFundingLock) (now : String) :
    Funding PoolFundingResult :=
  if lock.userId ≠ checked.userId then
    Funding.fail ⟨"USDC pool funding lock user does not match release user",
      some "USDC_POOL_LOCK_CONFLICT", some 409⟩
  else if lock.status ≠ .locked then do
    let balance ← readSettlementBalance checked.userId now
    return ⟨.released, true, lock, balance, checked.funding⟩
  else do
    let balance ← readSettlementBalance checked.userId now
    let nextBalance := releasedPoolBalance js balance lock.amount now
    let released := { lock with status := .released, updatedAt := now }
    Funding.updatePoolFundingLock released
    Funding.saveBalance nextBalance
    Funding.appendEvent (poolFundingEvent released .released now)
    return ⟨.released, false, released, nextBalance, checked.funding⟩

/-- The stake of an entry is released. -/
def releaseUsdcPoolEntryReservation (env : UsdcPoolFundingEnv) (clock : String)
    (input : ReleaseUsdcPoolEntryReservationInput) : Funding PoolFundingResult := do
  let now := input.now.getD clock
  let checked ← Funding.check (checkRelease js env input)
  let lock ← requirePoolFundingLock checked.poolId checked.entryId
  releaseLock js checked lock now

/-! ## Terminal settlement -/

/-- What an entry of an ended pool is worth. -/
def terminalPayout (entry : Entry) : ℤ :=
  if entry.refunded then entry.amount else entry.payout.getD 0

/-- A balance after its entry was settled. -/
def finalizedBalance (balance : SettlementBalance) (entry : Entry) (now : String) :
    SettlementBalance :=
  { balance with
    availableUsdc := js.arithmetic.integer (balance.availableUsdc + terminalPayout entry)
    lockedPoolUsdc := max 0 (js.arithmetic.integer (balance.lockedPoolUsdc - entry.amount))
    updatedAt := now }

/-- A lock after its entry was settled. -/
def finalizedLock (lock : PoolFundingLock) (entry : Entry) (now : String) : PoolFundingLock :=
  { lock with
    status := if entry.refunded then .refunded else .settled
    payout := some (terminalPayout entry)
    updatedAt := now }

/-- One turn of the settlement loop: whether the entry's lock was finalized now. -/
def settleFundedEntry (poolId now : String) (entry : Entry) : Funding Bool := do
  let lock ← requirePoolFundingLock poolId entry.id
  if lock.status ≠ .locked then return false
  else
    let balance ← readSettlementBalance entry.userId now
    let finalized := finalizedLock lock entry now
    Funding.updatePoolFundingLock finalized
    Funding.saveBalance (finalizedBalance js balance entry now)
    Funding.appendEvent (poolFundingEvent finalized
      (if entry.refunded then .refunded else .settled) now)
    return true

/-- The loop over the entries, counting the finalized and the already finalized locks. -/
def settleFundedEntries (poolId now : String) : List Entry → ℕ × ℕ → Funding (ℕ × ℕ)
  | [], counts => return counts
  | entry :: rest, (applied, idempotent) =>
    if entry.funding ≠ .user then settleFundedEntries poolId now rest (applied, idempotent)
    else do
      let finalized ← settleFundedEntry js poolId now entry
      settleFundedEntries poolId now rest
        (if finalized then (applied + 1, idempotent) else (applied, idempotent + 1))

/-- The entries of a finished pool are settled. -/
def applyUsdcPoolTerminalSettlement (env : UsdcPoolFundingEnv) (snapshot : PoolSnapshot)
    (inputNow : Option String) : Funding TerminalSettlementResult := do
  let funding ← Funding.check (assertUsdcPoolFundingReady js env)
  let now := inputNow.getD snapshot.updatedAt
  if snapshot.pool.unit ≠ .usdc then return ⟨0, 0, funding⟩
  else if ¬snapshot.pool.status.Terminal then return ⟨0, 0, funding⟩
  else
    let (applied, idempotent) ← settleFundedEntries js snapshot.pool.id now snapshot.entries (0, 0)
    return ⟨applied, idempotent, funding⟩

end Yevow.DotCast
