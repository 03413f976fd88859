import Yevow.Models.DotCast.Funding.BondFunding

/-!
# The shape of a funding operation

Every funding operation looks up the record it is about and decides from it: to refuse, to
replay an answer already given, or to make a transaction. A transaction reads the user's
balance, may still refuse, and then writes the record, the balance and the events, each in
a call of its own. The operations are shown to be of this shape, so that what holds of the
shape holds of each of them.
-/

namespace Yevow.DotCast

open JavaScript (Runtime)

/-- The one write to a lock or transfer table a transaction makes. -/
inductive RecordWrite
  | insertPoolLock (lock : PoolFundingLock)
  | updatePoolLock (lock : PoolFundingLock)
  | insertBondLock (lock : BondLock)
  | updateBondLock (lock : BondLock)
  | insertTransfer (transfer : SettlementTransfer)
  | updateTransfer (transfer : SettlementTransfer)

/-- The call that writes a record. -/
def RecordWrite.op : RecordWrite → FundingOp
  | .insertPoolLock lock => .insertPoolFundingLock lock
  | .updatePoolLock lock => .updatePoolFundingLock lock
  | .insertBondLock lock => .insertBondLock lock
  | .updateBondLock lock => .updateBondLock lock
  | .insertTransfer transfer => .insertTransfer transfer
  | .updateTransfer transfer => .updateTransfer transfer

/-- A record is written. -/
def RecordWrite.perform : RecordWrite → Funding Unit
  | .insertPoolLock lock => Funding.insertPoolFundingLock lock
  | .updatePoolLock lock => Funding.updatePoolFundingLock lock
  | .insertBondLock lock => Funding.insertBondLock lock
  | .updateBondLock lock => Funding.updateBondLock lock
  | .insertTransfer transfer => Funding.insertTransfer transfer
  | .updateTransfer transfer => Funding.updateTransfer transfer

/-- A read of the user's balance followed by the writes computed from it. -/
structure Transaction (ρ : Type) where
  userId : String
  now : String
  /-- What the balance may still be refused for. -/
  refuse : SettlementBalance → Option Fault
  write : RecordWrite
  next : SettlementBalance → SettlementBalance
  events : List FundingEvent
  result : SettlementBalance → ρ

/-- What an operation does once it has seen the record it is about. -/
inductive Decision (ρ : Type)
  | answer (result : Except Fault ρ)
  | replay (userId now : String) (result : SettlementBalance → ρ)
  | transact (transaction : Transaction ρ)

/-- Events, one after the other. -/
def appendEvents {ρ : Type} (result : ρ) : List FundingEvent → Funding ρ
  | [] => return result
  | event :: rest => do
    Funding.appendEvent event
    appendEvents result rest

/-- The writes of a transaction that is not refused. -/
def Transaction.commit {ρ : Type} (t : Transaction ρ) (balance : SettlementBalance) :
    Funding ρ := do
  t.write.perform
  Funding.saveBalance (t.next balance)
  appendEvents (t.result balance) t.events

/-- The calls of a transaction. -/
def Transaction.program {ρ : Type} (t : Transaction ρ) : Funding ρ := do
  let balance ← readSettlementBalance t.userId t.now
  match t.refuse balance with
  | some fault => Funding.fail fault
  | none => t.commit balance

/-- The calls of a decision. -/
def Decision.program {ρ : Type} : Decision ρ → Funding ρ
  | .answer result => Funding.check result
  | .replay userId now result => do
    let balance ← readSettlementBalance userId now
    return result balance
  | .transact t => t.program

/-- The call that looks up a record. -/
inductive RecordLookup
  | poolLock (lockId : String)
  | bondLock (lockId : String)
  | transfer (transferId : String)
  | reference (txRef : String)

/-- What a lookup finds. -/
abbrev RecordLookup.Row : RecordLookup → Type
  | .poolLock _ => PoolFundingLock
  | .bondLock _ => BondLock
  | .transfer _ => SettlementTransfer
  | .reference _ => SettlementTransfer

/-- A record is looked up. -/
def RecordLookup.perform : (lookup : RecordLookup) → Funding (Option lookup.Row)
  | .poolLock lockId => Funding.getPoolFundingLock lockId
  | .bondLock lockId => Funding.getBondLock lockId
  | .transfer transferId => Funding.getTransfer transferId
  | .reference txRef => Funding.getTransferByTxRef txRef

/-- The row a lookup finds in a store. -/
def RecordLookup.find : (lookup : RecordLookup) → FundingStore → Option lookup.Row
  | .poolLock lockId, s => s.poolLocks.lookup lockId
  | .bondLock lockId, s => s.bondLocks.lookup lockId
  | .transfer transferId, s => s.transfers.lookup transferId
  | .reference txRef, s => s.transferByTxRef txRef

/-- An operation whose input has passed its checks; the clock is read where the input names
no time. -/
structure FundingOperation (ρ : Type) where
  lookup : RecordLookup
  decide : String → Option lookup.Row → Decision ρ

/-- The calls of an operation. -/
def FundingOperation.program {ρ : Type} (op : FundingOperation ρ) (clock : String) :
    Funding ρ := do
  let found ← op.lookup.perform
  (op.decide clock found).program

/-- An operation together with the checks on its input. -/
def checkedProgram {ρ : Type} (op : Except Fault (FundingOperation ρ)) (clock : String) :
    Funding ρ := do
  let checked ← Funding.check op
  checked.program clock

variable (js : Runtime)

/-! ## The operations -/

/-- The transaction of a deposit seen for the first time. -/
def depositTransaction (rail : SettlementRailStatus) (userId txRef : String)
    (amount confirmations : ℤ) (now : String) : Transaction TransferResult :=
  let transfer := newDeposit rail userId txRef amount confirmations now
  { userId := userId
    now := now
    refuse := fun _ => none
    write := .insertTransfer transfer
    next := fun balance => depositedBalance js balance transfer.status amount now
    events := transferEvent transfer .depositObserved now ::
      if transfer.status = .credited then [transferEvent transfer .depositCredited now] else []
    result := fun balance => ⟨if transfer.status = .credited then .credited else .observed, false,
      transfer, depositedBalance js balance transfer.status amount now, rail⟩ }

/-- The transaction that credits an observed deposit. -/
def creditTransaction (rail : SettlementRailStatus) (existing : SettlementTransfer)
    (userId : String) (amount : ℤ) (now : String) : Transaction TransferResult :=
  let credited := { existing with status := .credited, updatedAt := now }
  { userId := userId
    now := now
    refuse := fun _ => none
    write := .updateTransfer credited
    next := fun balance => creditedBalance js balance amount now
    events := [transferEvent credited .depositCredited now]
    result := fun balance =>
      ⟨.credited, false, credited, creditedBalance js balance amount now, rail⟩ }

def depositDecision (rail : SettlementRailStatus) (userId txRef : String)
    (amount confirmations : ℤ) (now : String) :
    Option SettlementTransfer → Decision TransferResult
  | some existing =>
    if existing.kind ≠ .deposit ∨ existing.userId ≠ userId ∨ existing.amount ≠ amount then
      .answer <| .error ⟨"deposit txRef already belongs to a different transfer",
        some "DEPOSIT_TX_REF_CONFLICT", some 409⟩
    else if existing.status = .credited then
      .replay userId now fun balance => ⟨.credited, true, existing, balance, rail⟩
    else if confirmations < rail.depositConfirmationsRequired then
      .replay userId now fun balance => ⟨.observed, true, existing, balance, rail⟩
    else .transact (creditTransaction js rail existing userId amount now)
  | none => .transact (depositTransaction js rail userId txRef amount confirmations now)

/-- A deposit as an operation. -/
def depositOperation (env : SettlementRailEnv)
    (input : CreditDevnetDepositInput) : Except Fault (FundingOperation TransferResult) := do
  let checked ← checkDeposit js env input
  return ⟨.reference checked.txRef, fun clock =>
    depositDecision js checked.rail checked.userId checked.txRef input.amount input.confirmations
      (input.now.getD clock)⟩

def withdrawalTransaction (checked : CheckedWithdrawal) (amount : ℤ) (now : String) :
    Transaction TransferResult :=
  let transfer := newWithdrawal checked.rail
    (withdrawalId checked.userId checked.idempotencyKey) checked.userId checked.destination
    amount now
  { userId := checked.userId
    now := now
    refuse := fun balance =>
      if balance.availableUsdc < amount then
        some ⟨"available USDC balance is insufficient for this devnet withdrawal",
          some "INSUFFICIENT_USDC_BALANCE", some 409⟩
      else none
    write := .insertTransfer transfer
    next := fun balance => withdrawnBalance js balance amount now
    events := [transferEvent transfer .withdrawalRequested now,
      transferEvent transfer .withdrawalSigned now]
    result := fun balance =>
      ⟨.signed, false, transfer, withdrawnBalance js balance amount now, checked.rail⟩ }

def withdrawalDecision (checked : CheckedWithdrawal) (amount : ℤ) (now : String) :
    Option SettlementTransfer → Decision TransferResult
  | some existing =>
    .replay checked.userId now fun balance => ⟨.signed, true, existing, balance, checked.rail⟩
  | none => .transact (withdrawalTransaction js checked amount now)

/-- A withdrawal as an operation. -/
def withdrawalOperation (env : SettlementRailEnv)
    (input : RequestDevnetWithdrawalInput) : Except Fault (FundingOperation TransferResult) := do
  let checked ← checkWithdrawal js env input
  return ⟨.transfer (withdrawalId checked.userId checked.idempotencyKey), fun clock =>
    withdrawalDecision js checked input.amount (input.now.getD clock)⟩

def confirmationTransaction (rail : SettlementRailStatus) (transfer : SettlementTransfer)
    (txRef : Option String) (now : String) : Transaction TransferResult :=
  let confirmed := confirmedTransfer transfer txRef now
  { userId := transfer.userId
    now := now
    refuse := fun _ => none
    write := .updateTransfer confirmed
    next := fun balance => confirmedBalance js balance transfer.amount now
    events := [transferEvent confirmed .withdrawalConfirmed now]
    result := fun balance =>
      ⟨.confirmed, false, confirmed, confirmedBalance js balance transfer.amount now, rail⟩ }

def confirmationDecision (rail : SettlementRailStatus) (txRef : Option String) (now : String)
    (found : Option SettlementTransfer) : Decision TransferResult :=
  match found.filter fun t => t.kind = .withdrawal with
  | none =>
    .answer <| .error ⟨"withdrawal was not found", some "WITHDRAWAL_NOT_FOUND", some 404⟩
  | some transfer =>
    if transfer.status = .confirmed then
      .replay transfer.userId now fun balance => ⟨.confirmed, true, transfer, balance, rail⟩
    else if transfer.status ≠ .signed ∧ transfer.status ≠ .requested then
      .answer <| .error ⟨"withdrawal is not in a confirmable state",
        some "WITHDRAWAL_NOT_CONFIRMABLE", some 409⟩
    else .transact (confirmationTransaction js rail transfer txRef now)

/-- A confirmation as an operation. -/
def confirmationOperation (env : SettlementRailEnv)
    (input : ConfirmMockWithdrawalInput) : Except Fault (FundingOperation TransferResult) := do
  let rail ← assertDevnetMockRail js env
  let transferId ← requireText "INVALID_SETTLEMENT_INPUT" input.transferId "transferId"
  return ⟨.transfer transferId, fun clock =>
    confirmationDecision js rail input.txRef (input.now.getD clock)⟩

def reservationTransaction (checked : CheckedPoolEntry) (amount : ℤ) (now : String) :
    Transaction PoolFundingResult :=
  let lock := newPoolFundingLock checked.poolId checked.entryId checked.userId amount now
  { userId := checked.userId
    now := now
    refuse := fun balance =>
      if balance.availableUsdc < amount then
        some ⟨"available USDC balance is insufficient for this pool entry",
          some "INSUFFICIENT_USDC_BALANCE", some 409⟩
      else none
    write := .insertPoolLock lock
    next := fun balance => reservedBalance js balance amount now
    events := [poolFundingEvent lock .reserved now]
    result := fun balance =>
      ⟨.locked, false, lock, reservedBalance js balance amount now, checked.funding⟩ }

def reservationDecision (checked : CheckedPoolEntry) (amount : ℤ) (now : String) :
    Option PoolFundingLock → Decision PoolFundingResult
  | some existing =>
    if existing.userId ≠ checked.userId ∨ existing.amount ≠ amount then
      .answer <| .error ⟨"USDC pool funding lock already belongs to a different entry",
        some "USDC_POOL_LOCK_CONFLICT", some 409⟩
    else
      .replay checked.userId now fun balance => ⟨.locked, true, existing, balance, checked.funding⟩
  | none => .transact (reservationTransaction js checked amount now)

/-- A reservation as an operation. -/
def reservationOperation (env : UsdcPoolFundingEnv)
    (input : ReserveUsdcPoolEntryInput) : Except Fault (FundingOperation PoolFundingResult) := do
  let checked ← checkReservation js env input
  return ⟨.poolLock (poolFundingLockId checked.poolId checked.entryId), fun clock =>
    reservationDecision js checked input.amount (input.now.getD clock)⟩

def releaseTransaction (checked : CheckedPoolEntry) (lock : PoolFundingLock) (now : String) :
    Transaction PoolFundingResult :=
  let released := { lock with status := .released, updatedAt := now }
  { userId := checked.userId
    now := now
    refuse := fun _ => none
    write := .updatePoolLock released
    next := fun balance => releasedPoolBalance js balance lock.amount now
    events := [poolFundingEvent released .released now]
    result := fun balance => ⟨.released, false, released,
      releasedPoolBalance js balance lock.amount now, checked.funding⟩ }

def releaseDecision (checked : CheckedPoolEntry) (now : String) :
    Option PoolFundingLock → Decision PoolFundingResult
  | none => .answer (.error poolLockNotFound)
  | some lock =>
    if lock.userId ≠ checked.userId then
      .answer <| .error ⟨"USDC pool funding lock user does not match release user",
        some "USDC_POOL_LOCK_CONFLICT", some 409⟩
    else if lock.status ≠ .locked then
      .replay checked.userId now fun balance => ⟨.released, true, lock, balance, checked.funding⟩
    else .transact (releaseTransaction js checked lock now)

/-- A release as an operation. -/
def releaseOperation (env : UsdcPoolFundingEnv) (input : ReleaseUsdcPoolEntryReservationInput) :
    Except Fault (FundingOperation PoolFundingResult) := do
  let checked ← checkRelease js env input
  return ⟨.poolLock (poolFundingLockId checked.poolId checked.entryId), fun clock =>
    releaseDecision js checked (input.now.getD clock)⟩

def bondTransaction (checked : CheckedBond) (input : ReserveUsdcBondInput) (now : String) :
    Transaction ReserveBondResult :=
  let lock := newBondLock checked.lockId checked.ownerId input now
  { userId := checked.ownerId
    now := now
    refuse := fun balance =>
      if balance.availableUsdc < input.amount then
        some ⟨"available USDC balance is insufficient for this E13 bond",
          some "INSUFFICIENT_USDC_BOND_BALANCE", some 409⟩
      else none
    write := .insertBondLock lock
    next := fun balance => bondedBalance js balance input.amount now
    events := [bondEvent lock "BOND_LOCKED" "bond_locked" now]
    result := fun balance => ⟨.locked, false, lock, bondedBalance js balance input.amount now⟩ }

def bondDecision (checked : CheckedBond) (input : ReserveUsdcBondInput) (now : String) :
    Option BondLock → Decision ReserveBondResult
  | some existing =>
    if existing.ownerId ≠ checked.ownerId ∨ existing.purpose ≠ input.purpose ∨
        existing.amount ≠ input.amount then
      .answer <| .error ⟨"USDC bond lock already belongs to a different owner or amount",
        some "USDC_BOND_LOCK_CONFLICT", some 409⟩
    else if existing.status ≠ .locked then
      .answer <| .error ⟨"USDC bond lock has already been finalized",
        some "USDC_BOND_LOCK_FINALIZED", some 409⟩
    else
      .replay checked.ownerId now fun balance => ⟨.locked, true, existing, balance⟩
  | none => .transact (bondTransaction js checked input now)

/-- Locking a bond as an operation. -/
def bondOperation (env : UsdcPoolFundingEnv) (input : ReserveUsdcBondInput) :
    Except Fault (FundingOperation ReserveBondResult) := do
  let checked ← checkBond js env input
  return ⟨.bondLock checked.lockId, fun clock =>
    bondDecision js checked input (input.now.getD clock)⟩

def bondSettlementTransaction (lock : BondLock) (action : BondAction) (extraCredit : ℤ)
    (now : String) : Transaction SettleBondResult :=
  let credit := bondCredit js lock action extraCredit
  let finalized := finalizedBond lock action credit now
  { userId := lock.ownerId
    now := now
    refuse := fun _ => none
    write := .updateBondLock finalized
    next := fun balance => settledBondBalance js balance lock credit now
    events := [match action with
      | .release => bondEvent finalized "BOND_RELEASED" "bond_released" now
      | .slash => bondEvent finalized "BOND_SLASHED" "bond_slashed" now]
    result := fun balance => ⟨some finalized.status, false, some finalized,
      some (settledBondBalance js balance lock credit now)⟩ }

def bondSettlementDecision (input : SettleUsdcBondInput) (now : String) :
    Option BondLock → Decision SettleBondResult
  | none =>
    if input.allowMissing then .answer (.ok ⟨none, true, none, none⟩)
    else .answer <| .error ⟨"USDC bond lock was not found for E13 settlement",
      some "USDC_BOND_LOCK_NOT_FOUND", some 409⟩
  | some lock =>
    if lock.status ≠ .locked then
      .replay lock.ownerId now fun balance =>
        ⟨some lock.status, lock.status == input.action.status, some lock, some balance⟩
    else
      match assertNonNegativeAmount js "INVALID_USDC_BOND_AMOUNT" (input.creditMinorUnits.getD 0)
          "creditMinorUnits must be a non-negative integer minor-unit amount" with
      | .error fault => .answer (.error fault)
      | .ok _ =>
        .transact (bondSettlementTransaction js lock input.action
          (input.creditMinorUnits.getD 0) now)

/-- Settling a bond as an operation. -/
def bondSettlementOperation (env : UsdcPoolFundingEnv)
    (input : SettleUsdcBondInput) : Except Fault (FundingOperation SettleBondResult) := do
  let lockId ← checkBondSettlement js env input
  return ⟨.bondLock lockId, fun clock =>
    bondSettlementDecision js input (input.now.getD clock)⟩

def fundedEntryTransaction (lock : PoolFundingLock) (entry : Entry) (now : String) :
    Transaction Bool :=
  let finalized := finalizedLock lock entry now
  { userId := entry.userId
    now := now
    refuse := fun _ => none
    write := .updatePoolLock finalized
    next := fun balance => finalizedBalance js balance entry now
    events := [poolFundingEvent finalized (if entry.refunded then .refunded else .settled) now]
    result := fun _ => true }

def fundedEntryDecision (entry : Entry) (now : String) : Option PoolFundingLock → Decision Bool
  | none => .answer (.error poolLockNotFound)
  | some lock =>
    if lock.status ≠ .locked then .answer (.ok false)
    else .transact (fundedEntryTransaction js lock entry now)

/-- One turn of the terminal settlement as an operation of its own. -/
def fundedEntryOperation (poolId now : String) (entry : Entry) : FundingOperation Bool :=
  ⟨.poolLock (poolFundingLockId poolId entry.id), fun _ => fundedEntryDecision js entry now⟩

/-! ## The operations are of this shape -/

private theorem recordDeposit_eq (rail : SettlementRailStatus) (userId txRef : String)
    (amount confirmations : ℤ) (now : String) :
    recordDeposit js rail userId txRef amount confirmations now =
      (depositDecision js rail userId txRef amount confirmations now none).program := by
  by_cases hcredited : (newDeposit rail userId txRef amount confirmations now).status = .credited
  · simp only [recordDeposit, depositDecision, depositTransaction, Decision.program,
      Transaction.program, Transaction.commit, if_pos hcredited, appendEvents, RecordWrite.perform]
  · simp only [recordDeposit, depositDecision, depositTransaction, Decision.program,
      Transaction.program, Transaction.commit, if_neg hcredited, appendEvents, RecordWrite.perform]

private theorem creditExistingDeposit_eq (rail : SettlementRailStatus)
    (existing : SettlementTransfer) (userId txRef : String) (amount confirmations : ℤ)
    (now : String) :
    creditExistingDeposit js rail existing userId amount confirmations now =
      (depositDecision js rail userId txRef amount confirmations now (some existing)).program := by
  simp only [creditExistingDeposit, depositDecision]
  split_ifs
  · rfl
  · rfl
  · rfl
  · rfl

theorem creditDevnetDeposit_eq (env : SettlementRailEnv) (clock : String)
    (input : CreditDevnetDepositInput) :
    creditDevnetDeposit js env clock input =
      checkedProgram (depositOperation js env input) clock := by
  unfold creditDevnetDeposit depositOperation checkedProgram
  cases checkDeposit js env input with
  | error fault => rfl
  | ok checked =>
    refine congrArg (Program.call (FundingOp.getTransferByTxRef checked.txRef)) ?_
    ext found
    cases found with
    | error fault => rfl
    | ok found =>
      cases found with
      | none => exact recordDeposit_eq js ..
      | some existing => exact creditExistingDeposit_eq js _ _ _ checked.txRef ..

private theorem signWithdrawal_eq (checked : CheckedWithdrawal) (amount : ℤ) (now : String) :
    signWithdrawal js checked amount now =
      (withdrawalDecision js checked amount now none).program := by
  unfold signWithdrawal
  refine congrArg (readSettlementBalance checked.userId now >>= ·) ?_
  ext balance
  by_cases hfunds : balance.availableUsdc < amount
  · simp only [withdrawalTransaction, if_pos hfunds]
  · simp only [withdrawalTransaction, if_neg hfunds]
    rfl

theorem requestDevnetWithdrawal_eq (env : SettlementRailEnv) (clock : String)
    (input : RequestDevnetWithdrawalInput) :
    requestDevnetWithdrawal js env clock input =
      checkedProgram (withdrawalOperation js env input) clock := by
  unfold requestDevnetWithdrawal withdrawalOperation checkedProgram
  cases checkWithdrawal js env input with
  | error fault => rfl
  | ok checked =>
    refine congrArg (Program.call (FundingOp.getTransfer _)) ?_
    ext found
    cases found with
    | error fault => rfl
    | ok found =>
      cases found with
      | none => exact signWithdrawal_eq js ..
      | some existing => rfl

private theorem confirmFound_eq (rail : SettlementRailStatus) (txRef : Option String)
    (now : String) (found : Option SettlementTransfer) :
    (match found.filter fun t => t.kind = .withdrawal with
      | none => Funding.fail ⟨"withdrawal was not found", some "WITHDRAWAL_NOT_FOUND", some 404⟩
      | some transfer => confirmWithdrawal js rail transfer txRef now) =
      (confirmationDecision js rail txRef now found).program := by
  unfold confirmationDecision
  cases found.filter fun t => t.kind = .withdrawal with
  | none => rfl
  | some transfer =>
    simp only [confirmWithdrawal]
    split_ifs
    · rfl
    · rfl
    · rfl

theorem confirmMockWithdrawal_eq (env : SettlementRailEnv) (clock : String)
    (input : ConfirmMockWithdrawalInput) :
    confirmMockWithdrawal js env clock input =
      checkedProgram (confirmationOperation js env input) clock := by
  unfold confirmMockWithdrawal confirmationOperation checkedProgram
  cases assertDevnetMockRail js env with
  | error fault => rfl
  | ok rail =>
    cases requireText "INVALID_SETTLEMENT_INPUT" input.transferId "transferId" with
    | error fault => rfl
    | ok transferId =>
      refine congrArg (Program.call (FundingOp.getTransfer transferId)) ?_
      ext found
      cases found with
      | error fault => rfl
      | ok found => exact confirmFound_eq js ..

private theorem makeReservation_eq (checked : CheckedPoolEntry) (amount : ℤ) (now : String) :
    makeReservation js checked amount now =
      (reservationDecision js checked amount now none).program := by
  unfold makeReservation
  refine congrArg (readSettlementBalance checked.userId now >>= ·) ?_
  ext balance
  by_cases hfunds : balance.availableUsdc < amount
  · simp only [reservationTransaction, if_pos hfunds]
  · simp only [reservationTransaction, if_neg hfunds]
    rfl

private theorem reuseReservation_eq (checked : CheckedPoolEntry) (existing : PoolFundingLock)
    (amount : ℤ) (now : String) :
    reuseReservation checked existing amount now =
      (reservationDecision js checked amount now (some existing)).program := by
  simp only [reuseReservation, reservationDecision]
  split_ifs
  · rfl
  · rfl

theorem reserveUsdcPoolEntry_eq (env : UsdcPoolFundingEnv) (clock : String)
    (input : ReserveUsdcPoolEntryInput) :
    reserveUsdcPoolEntry js env clock input =
      checkedProgram (reservationOperation js env input) clock := by
  unfold reserveUsdcPoolEntry reservationOperation checkedProgram
  cases checkReservation js env input with
  | error fault => rfl
  | ok checked =>
    refine congrArg (Program.call (FundingOp.getPoolFundingLock _)) ?_
    ext found
    cases found with
    | error fault => rfl
    | ok found =>
      cases found with
      | none => exact makeReservation_eq js ..
      | some existing => exact reuseReservation_eq js ..

private theorem releaseLock_eq (checked : CheckedPoolEntry) (lock : PoolFundingLock)
    (now : String) :
    releaseLock js checked lock now = (releaseDecision js checked now (some lock)).program := by
  simp only [releaseLock, releaseDecision]
  split_ifs
  · rfl
  · rfl
  · rfl

theorem releaseUsdcPoolEntryReservation_eq (env : UsdcPoolFundingEnv) (clock : String)
    (input : ReleaseUsdcPoolEntryReservationInput) :
    releaseUsdcPoolEntryReservation js env clock input =
      checkedProgram (releaseOperation js env input) clock := by
  unfold releaseUsdcPoolEntryReservation releaseOperation checkedProgram
  cases checkRelease js env input with
  | error fault => rfl
  | ok checked =>
    refine congrArg (Program.call (FundingOp.getPoolFundingLock _)) ?_
    ext found
    cases found with
    | error fault => rfl
    | ok found =>
      cases found with
      | none => rfl
      | some lock => exact releaseLock_eq js ..

private theorem makeBond_eq (checked : CheckedBond) (input : ReserveUsdcBondInput)
    (now : String) :
    makeBond js checked input now = (bondDecision js checked input now none).program := by
  unfold makeBond
  refine congrArg (readSettlementBalance checked.ownerId now >>= ·) ?_
  ext balance
  by_cases hfunds : balance.availableUsdc < input.amount
  · simp only [bondTransaction, if_pos hfunds]
  · simp only [bondTransaction, if_neg hfunds]
    rfl

private theorem reuseBond_eq (checked : CheckedBond) (existing : BondLock)
    (input : ReserveUsdcBondInput) (now : String) :
    reuseBond checked existing input now =
      (bondDecision js checked input now (some existing)).program := by
  simp only [reuseBond, bondDecision]
  split_ifs
  · rfl
  · rfl
  · rfl

theorem reserveUsdcBond_eq (env : UsdcPoolFundingEnv) (clock : String)
    (input : ReserveUsdcBondInput) :
    reserveUsdcBond js env clock input = checkedProgram (bondOperation js env input) clock := by
  unfold reserveUsdcBond bondOperation checkedProgram
  cases checkBond js env input with
  | error fault => rfl
  | ok checked =>
    refine congrArg (Program.call (FundingOp.getBondLock _)) ?_
    ext found
    cases found with
    | error fault => rfl
    | ok found =>
      cases found with
      | none => exact makeBond_eq js ..
      | some existing => exact reuseBond_eq js ..

private theorem settleBondLock_eq (lock : BondLock) (input : SettleUsdcBondInput)
    (now : String) :
    settleBondLock js lock input now =
      (bondSettlementDecision js input now (some lock)).program := by
  simp only [settleBondLock, bondSettlementDecision]
  split_ifs
  · rfl
  · cases assertNonNegativeAmount js "INVALID_USDC_BOND_AMOUNT" (input.creditMinorUnits.getD 0)
      "creditMinorUnits must be a non-negative integer minor-unit amount" with
    | error fault => rfl
    | ok _ => rfl

private theorem settleFoundBond_eq (input : SettleUsdcBondInput) (now : String)
    (found : Option BondLock) :
    (match found with
      | some lock => settleBondLock js lock input now
      | none =>
        if input.allowMissing then return ⟨none, true, none, none⟩
        else Funding.fail ⟨"USDC bond lock was not found for E13 settlement",
          some "USDC_BOND_LOCK_NOT_FOUND", some 409⟩) =
      (bondSettlementDecision js input now found).program := by
  cases found with
  | some lock => exact settleBondLock_eq js ..
  | none =>
    simp only [bondSettlementDecision]
    split_ifs
    · rfl
    · rfl

theorem settleUsdcBond_eq (env : UsdcPoolFundingEnv) (clock : String)
    (input : SettleUsdcBondInput) :
    settleUsdcBond js env clock input =
      checkedProgram (bondSettlementOperation js env input) clock := by
  unfold settleUsdcBond bondSettlementOperation checkedProgram
  cases checkBondSettlement js env input with
  | error fault => rfl
  | ok lockId =>
    refine congrArg (Program.call (FundingOp.getBondLock _)) ?_
    ext found
    cases found with
    | error fault => rfl
    | ok found => exact settleFoundBond_eq js ..

private theorem settleFoundEntry_eq (entry : Entry) (now : String) (lock : PoolFundingLock) :
    (if lock.status ≠ .locked then (return false : Funding Bool)
      else do
        let balance ← readSettlementBalance entry.userId now
        let finalized := finalizedLock lock entry now
        Funding.updatePoolFundingLock finalized
        Funding.saveBalance (finalizedBalance js balance entry now)
        Funding.appendEvent (poolFundingEvent finalized
          (if entry.refunded then .refunded else .settled) now)
        return true) = (fundedEntryDecision js entry now (some lock)).program := by
  simp only [fundedEntryDecision]
  by_cases hstatus : lock.status ≠ .locked
  · simp only [if_pos hstatus]
    rfl
  · simp only [if_neg hstatus]
    rfl

theorem settleFundedEntry_eq (poolId now clock : String) (entry : Entry) :
    settleFundedEntry js poolId now entry =
      (fundedEntryOperation js poolId now entry).program clock := by
  refine congrArg (Program.call (FundingOp.getPoolFundingLock _)) ?_
  ext found
  cases found with
  | error fault => rfl
  | ok found =>
    cases found with
    | none => rfl
    | some lock => exact settleFoundEntry_eq js ..

/-! ## Requests -/

/-- A call of one of the funding operations, or of one turn of the terminal settlement. -/
inductive FundingRequest
  | creditDeposit (input : CreditDevnetDepositInput)
  | requestWithdrawal (input : RequestDevnetWithdrawalInput)
  | confirmWithdrawal (input : ConfirmMockWithdrawalInput)
  | reserveEntry (input : ReserveUsdcPoolEntryInput)
  | releaseEntry (input : ReleaseUsdcPoolEntryReservationInput)
  | reserveBond (input : ReserveUsdcBondInput)
  | settleBond (input : SettleUsdcBondInput)
  | settleEntry (poolId now : String) (entry : Entry)
  | settlePool (snapshot : PoolSnapshot) (now : Option String)

/-- The program of a request, whatever it answers. -/
def FundingRequest.program (env : UsdcPoolFundingEnv) (clock : String) :
    FundingRequest → Funding Unit
  | .creditDeposit input => do
    let _ ← creditDevnetDeposit js env.toSettlementRailEnv clock input
    return ()
  | .requestWithdrawal input => do
    let _ ← requestDevnetWithdrawal js env.toSettlementRailEnv clock input
    return ()
  | .confirmWithdrawal input => do
    let _ ← confirmMockWithdrawal js env.toSettlementRailEnv clock input
    return ()
  | .reserveEntry input => do
    let _ ← reserveUsdcPoolEntry js env clock input
    return ()
  | .releaseEntry input => do
    let _ ← releaseUsdcPoolEntryReservation js env clock input
    return ()
  | .reserveBond input => do
    let _ ← reserveUsdcBond js env clock input
    return ()
  | .settleBond input => do
    let _ ← settleUsdcBond js env clock input
    return ()
  | .settleEntry poolId now entry => do
    let _ ← settleFundedEntry js poolId now entry
    return ()
  | .settlePool snapshot now => do
    let _ ← applyUsdcPoolTerminalSettlement js env snapshot now
    return ()

/-- The request is about one record. -/
def FundingRequest.Single : FundingRequest → Prop
  | .settlePool _ _ => False
  | _ => True

/-! ## When an operation makes a transaction -/

theorem depositDecision_eq_transact {rail : SettlementRailStatus} {userId txRef : String}
    {amount confirmations : ℤ} {now : String} {found : Option SettlementTransfer}
    {t : Transaction TransferResult}
    (h : depositDecision js rail userId txRef amount confirmations now found = .transact t) :
    (found = none ∧ t = depositTransaction js rail userId txRef amount confirmations now) ∨
    ∃ existing, found = some existing ∧ existing.kind = .deposit ∧ existing.userId = userId ∧
      existing.amount = amount ∧ existing.status ≠ .credited ∧
        rail.depositConfirmationsRequired ≤ confirmations ∧
          t = creditTransaction js rail existing userId amount now := by
  cases found with
  | none => exact Or.inl ⟨rfl, (Decision.transact.inj h).symm⟩
  | some existing =>
    simp only [depositDecision] at h
    split_ifs at h with hconflict hcredited hwait
    push Not at hconflict
    obtain ⟨hkind, huser, hamount⟩ := hconflict
    exact Or.inr ⟨existing, rfl, hkind, huser, hamount, hcredited, not_lt.mp hwait,
      (Decision.transact.inj h).symm⟩

theorem withdrawalDecision_eq_transact {checked : CheckedWithdrawal} {amount : ℤ} {now : String}
    {found : Option SettlementTransfer} {t : Transaction TransferResult}
    (h : withdrawalDecision js checked amount now found = .transact t) :
    found = none ∧ t = withdrawalTransaction js checked amount now := by
  cases found with
  | none => exact ⟨rfl, (Decision.transact.inj h).symm⟩
  | some existing => simp [withdrawalDecision] at h

theorem confirmationDecision_eq_transact {rail : SettlementRailStatus} {txRef : Option String}
    {now : String} {found : Option SettlementTransfer} {t : Transaction TransferResult}
    (h : confirmationDecision js rail txRef now found = .transact t) :
    ∃ transfer, found = some transfer ∧ transfer.kind = .withdrawal ∧
      (transfer.status = .signed ∨ transfer.status = .requested) ∧
        t = confirmationTransaction js rail transfer txRef now := by
  unfold confirmationDecision at h
  cases hfound : found.filter fun t => t.kind = .withdrawal with
  | none => simp [hfound] at h
  | some transfer =>
    obtain ⟨rfl, hkind⟩ := Option.filter_eq_some_iff.mp hfound
    simp only [hfound] at h
    split_ifs at h with hconfirmed hstate
    refine ⟨transfer, rfl, of_decide_eq_true hkind, ?_, (Decision.transact.inj h).symm⟩
    by_contra hnot
    push Not at hnot
    exact hstate hnot

theorem reservationDecision_eq_transact {checked : CheckedPoolEntry} {amount : ℤ} {now : String}
    {found : Option PoolFundingLock} {t : Transaction PoolFundingResult}
    (h : reservationDecision js checked amount now found = .transact t) :
    found = none ∧ t = reservationTransaction js checked amount now := by
  cases found with
  | none => exact ⟨rfl, (Decision.transact.inj h).symm⟩
  | some existing =>
    simp only [reservationDecision] at h
    split_ifs at h

theorem releaseDecision_eq_transact {checked : CheckedPoolEntry} {now : String}
    {found : Option PoolFundingLock} {t : Transaction PoolFundingResult}
    (h : releaseDecision js checked now found = .transact t) :
    ∃ lock, found = some lock ∧ lock.userId = checked.userId ∧ lock.status = .locked ∧
      t = releaseTransaction js checked lock now := by
  cases found with
  | none => simp [releaseDecision] at h
  | some lock =>
    simp only [releaseDecision] at h
    split_ifs at h with huser hstatus
    · exact ⟨lock, rfl, not_not.mp huser, not_not.mp hstatus, (Decision.transact.inj h).symm⟩

theorem bondDecision_eq_transact {checked : CheckedBond} {input : ReserveUsdcBondInput}
    {now : String} {found : Option BondLock} {t : Transaction ReserveBondResult}
    (h : bondDecision js checked input now found = .transact t) :
    found = none ∧ t = bondTransaction js checked input now := by
  cases found with
  | none => exact ⟨rfl, (Decision.transact.inj h).symm⟩
  | some existing =>
    simp only [bondDecision] at h
    split_ifs at h

theorem bondSettlementDecision_eq_transact {input : SettleUsdcBondInput} {now : String}
    {found : Option BondLock} {t : Transaction SettleBondResult}
    (h : bondSettlementDecision js input now found = .transact t) :
    ∃ lock, found = some lock ∧ lock.status = .locked ∧ 0 ≤ input.creditMinorUnits.getD 0 ∧
      t = bondSettlementTransaction js lock input.action (input.creditMinorUnits.getD 0) now := by
  cases found with
  | none =>
    simp only [bondSettlementDecision] at h
    split_ifs at h
  | some lock =>
    simp only [bondSettlementDecision] at h
    split_ifs at h with hstatus
    · cases hcredit : assertNonNegativeAmount js "INVALID_USDC_BOND_AMOUNT"
        (input.creditMinorUnits.getD 0)
        "creditMinorUnits must be a non-negative integer minor-unit amount" with
      | error fault => simp [hcredit] at h
      | ok u =>
        simp only [hcredit] at h
        have hnonneg := Except.throwIf_eq_ok.mp hcredit
        push Not at hnonneg
        exact ⟨lock, rfl, not_not.mp hstatus, hnonneg.2, (Decision.transact.inj h).symm⟩

theorem fundedEntryDecision_eq_transact {entry : Entry} {now : String}
    {found : Option PoolFundingLock} {t : Transaction Bool}
    (h : fundedEntryDecision js entry now found = .transact t) :
    ∃ lock, found = some lock ∧ lock.status = .locked ∧
      t = fundedEntryTransaction js lock entry now := by
  cases found with
  | none => simp [fundedEntryDecision] at h
  | some lock =>
    simp only [fundedEntryDecision] at h
    split_ifs at h with hstatus
    · exact ⟨lock, rfl, not_not.mp hstatus, (Decision.transact.inj h).symm⟩

end Yevow.DotCast
