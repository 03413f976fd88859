import Yevow.Models.DotCast.Funding.PoolFunding

/-!
# Funding of bonds

A bond locks a part of its owner's settlement balance until it is released, with an extra
credit, or slashed. A reservation of a bond that is already final is refused.
-/

namespace Yevow.DotCast

open Except (throwIf)
open JavaScript (Runtime)

/-- A bond that is to be locked. -/
structure ReserveUsdcBondInput where
  lockId : String
  purpose : BondPurpose
  ownerId : String
  amount : ℤ
  routeId : Option String
  poolId : Option String
  panelId : Option String
  assignmentId : Option String
  challengeId : Option String
  now : Option String
  deriving DecidableEq

/-- How a bond is settled. -/
inductive BondAction
  | release
  | slash
  deriving DecidableEq, Repr

/-- A bond that is to be settled. -/
structure SettleUsdcBondInput where
  lockId : String
  action : BondAction
  reason : String
  creditMinorUnits : Option ℤ
  now : Option String
  allowMissing : Bool
  deriving DecidableEq

/-- A locked bond. -/
structure ReserveBondResult where
  status : BondLockStatus
  idempotent : Bool
  lock : BondLock
  balance : SettlementBalance
  deriving DecidableEq

/-- The answer of a settlement; a bond that may be missing has no lock and no balance. -/
structure SettleBondResult where
  status : Option BondLockStatus
  idempotent : Bool
  lock : Option BondLock
  balance : Option SettlementBalance
  deriving DecidableEq

variable (js : Runtime)

/-- Bonds must be ready. -/
def assertBondFundingReady (env : UsdcPoolFundingEnv) : Except Fault Unit :=
  let funding := readUsdcPoolFundingStatus js env
  throwIf (funding.ready = false)
    ⟨funding.guards.head?.getD "E13 USDC bond funding is not ready",
      some "USDC_BOND_FUNDING_NOT_READY", some 503⟩

/-- An event of a bond. -/
def bondEvent (lock : BondLock) (text lower : String) (createdAt : String) : FundingEvent :=
  ⟨.bond, lock.lockId ++ ":" ++ lower, lock.ownerId, text, lock.amount, createdAt⟩

/-! ## Reserving -/

/-- A balance after a bond was locked. -/
def bondedBalance (balance : SettlementBalance) (amount : ℤ) (now : String) : SettlementBalance :=
  { balance with
    availableUsdc := js.arithmetic.integer (balance.availableUsdc - amount)
    lockedBondUsdc := js.arithmetic.integer (balance.lockedBondUsdc + amount)
    updatedAt := now }

/-- A lock as it is stored. -/
def newBondLock (lockId ownerId : String) (input : ReserveUsdcBondInput) (now : String) :
    BondLock where
  lockId := lockId
  purpose := input.purpose
  ownerId := ownerId
  routeId := input.routeId
  poolId := input.poolId
  panelId := input.panelId
  assignmentId := input.assignmentId
  challengeId := input.challengeId
  amount := input.amount
  status := .locked
  credit := 0
  createdAt := now
  updatedAt := now

/-- A bond whose fields were checked. -/
structure CheckedBond where
  lockId : String
  ownerId : String

/-- The checks before a bond is locked. -/
def checkBond (env : UsdcPoolFundingEnv) (input : ReserveUsdcBondInput) :
    Except Fault CheckedBond := do
  assertBondFundingReady js env
  let lockId ← requireText "INVALID_USDC_BOND_INPUT" input.lockId "lockId"
  let ownerId ← requireText "INVALID_USDC_BOND_INPUT" input.ownerId "ownerId"
  assertPositiveAmount js "INVALID_USDC_BOND_AMOUNT" input.amount "amount"
  return ⟨lockId, ownerId⟩

/-- The branch for a bond that has a lock already. -/
def reuseBond (checked : CheckedBond) (existing : BondLock) (input : ReserveUsdcBondInput)
    (now : String) : Funding ReserveBondResult :=
  if existing.ownerId ≠ checked.ownerId ∨ existing.purpose ≠ input.purpose ∨
      existing.amount ≠ input.amount then
    Funding.fail ⟨"USDC bond lock already belongs to a different owner or amount",
      some "USDC_BOND_LOCK_CONFLICT", some 409⟩
  else if existing.status ≠ .locked then
    Funding.fail ⟨"USDC bond lock has already been finalized", some "USDC_BOND_LOCK_FINALIZED",
      some 409⟩
  else do
    let balance ← readSettlementBalance checked.ownerId now
    return ⟨.locked, true, existing, balance⟩

/-- The branch for a bond that has no lock. -/
def makeBond (checked : CheckedBond) (input : ReserveUsdcBondInput) (now : String) :
    Funding ReserveBondResult := do
  let balance ← readSettlementBalance checked.ownerId now
  if balance.availableUsdc < input.amount then
    Funding.fail ⟨"available USDC balance is insufficient for this E13 bond",
      some "INSUFFICIENT_USDC_BOND_BALANCE", some 409⟩
  else
    let nextBalance := bondedBalance js balance input.amount now
    let lock := newBondLock checked.lockId checked.ownerId input now
    Funding.insertBondLock lock
    Funding.saveBalance nextBalance
    Funding.appendEvent (bondEvent lock "BOND_LOCKED" "bond_locked" now)
    return ⟨.locked, false, lock, nextBalance⟩

/-- A bond is locked. -/
def reserveUsdcBond (env : UsdcPoolFundingEnv) (clock : String) (input : ReserveUsdcBondInput) :
    Funding ReserveBondResult := do
  let now := input.now.getD clock
  let checked ← Funding.check (checkBond js env input)
  match ← Funding.getBondLock checked.lockId with
  | some existing => reuseBond checked existing input now
  | none => makeBond js checked input now

/-! ## Settling -/

/-- The status after an action. -/
def BondAction.status : BondAction → BondLockStatus
  | .release => .released
  | .slash => .slashed

/-- What a bond returns to its owner. -/
def bondCredit (lock : BondLock) (action : BondAction) (extraCredit : ℤ) : ℤ :=
  match action with
  | .release => js.arithmetic.integer (lock.amount + extraCredit)
  | .slash => 0

/-- A balance after a bond was settled. -/
def settledBondBalance (balance : SettlementBalance) (lock : BondLock) (credit : ℤ) (now : String) :
    SettlementBalance :=
  { balance with
    availableUsdc := js.arithmetic.integer (balance.availableUsdc + credit)
    lockedBondUsdc := max 0 (js.arithmetic.integer (balance.lockedBondUsdc - lock.amount))
    updatedAt := now }

/-- A lock that is settled. -/
def finalizedBond (lock : BondLock) (action : BondAction) (credit : ℤ) (now : String) : BondLock :=
  { lock with status := action.status, credit := credit, updatedAt := now }

/-- The branch for a bond that is found. -/
def settleBondLock (lock : BondLock) (input : SettleUsdcBondInput) (now : String) :
    Funding SettleBondResult :=
  if lock.status ≠ .locked then do
    let balance ← readSettlementBalance lock.ownerId now
    return ⟨some lock.status, lock.status == input.action.status, some lock, some balance⟩
  else do
    let extraCredit := input.creditMinorUnits.getD 0
    Funding.check (assertNonNegativeAmount js "INVALID_USDC_BOND_AMOUNT" extraCredit
      "creditMinorUnits must be a non-negative integer minor-unit amount")
    let credit := bondCredit js lock input.action extraCredit
    let balance ← readSettlementBalance lock.ownerId now
    let nextBalance := settledBondBalance js balance lock credit now
    let finalized := finalizedBond lock input.action credit now
    Funding.updateBondLock finalized
    Funding.saveBalance nextBalance
    Funding.appendEvent (match input.action with
      | .release => bondEvent finalized "BOND_RELEASED" "bond_released" now
      | .slash => bondEvent finalized "BOND_SLASHED" "bond_slashed" now)
    return ⟨some finalized.status, false, some finalized, some nextBalance⟩

/-- The checks before a bond is settled. -/
def checkBondSettlement (env : UsdcPoolFundingEnv) (input : SettleUsdcBondInput) :
    Except Fault String := do
  assertBondFundingReady js env
  requireText "INVALID_USDC_BOND_INPUT" input.lockId "lockId"

/-- A bond is released or slashed. -/
def settleUsdcBond (env : UsdcPoolFundingEnv) (clock : String) (input : SettleUsdcBondInput) :
    Funding SettleBondResult := do
  let now := input.now.getD clock
  let lockId ← Funding.check (checkBondSettlement js env input)
  match ← Funding.getBondLock lockId with
  | some lock => settleBondLock js lock input now
  | none =>
    if input.allowMissing then return ⟨none, true, none, none⟩
    else Funding.fail ⟨"USDC bond lock was not found for E13 settlement",
      some "USDC_BOND_LOCK_NOT_FOUND", some 409⟩

end Yevow.DotCast
