import Yevow.Models.DotCast.Funding.Recovery

/-!
# What a balance consists of

Every lock and every transfer contributes to the fields of its user's balance. A store is
balanced when each field of each balance is the sum of the contributions. The operations
keep it so as long as the balances they save stay safe integers: a transaction changes its
user's balance by exactly what its record changes in the sum.
-/

namespace Yevow.DotCast

open JavaScript (Runtime)

/-- The parts of a balance. -/
inductive BalanceField
  | available
  | pendingDeposit
  | pendingWithdrawal
  | lockedPool
  | lockedBond
  deriving DecidableEq, Repr

/-- One part of a balance. -/
def SettlementBalance.get (b : SettlementBalance) : BalanceField → ℤ
  | .available => b.availableUsdc
  | .pendingDeposit => b.pendingDepositUsdc
  | .pendingWithdrawal => b.pendingWithdrawalUsdc
  | .lockedPool => b.lockedPoolUsdc
  | .lockedBond => b.lockedBondUsdc

/-- Every field is a safe integer. -/
def SettlementBalance.Safe (js : Runtime) (b : SettlementBalance) : Prop :=
  ∀ field, js.arithmetic.isSafeInteger (b.get field) = true

/-! ## Contributions -/

/-- What a pool lock adds to a part. -/
def PoolFundingLock.contribution (l : PoolFundingLock) : BalanceField → ℤ
  | .available =>
    match l.status with
    | .locked => -l.amount
    | .released => 0
    | .settled => l.payout.getD 0 - l.amount
    | .refunded => l.payout.getD 0 - l.amount
  | .lockedPool => if l.status = .locked then l.amount else 0
  | _ => 0

/-- What a bond lock adds to a part. -/
def BondLock.contribution (l : BondLock) : BalanceField → ℤ
  | .available => if l.status = .locked then -l.amount else l.credit - l.amount
  | .lockedBond => if l.status = .locked then l.amount else 0
  | _ => 0

/-- What a transfer adds to a part. -/
def SettlementTransfer.contribution (t : SettlementTransfer) : BalanceField → ℤ
  | .available =>
    match t.kind with
    | .deposit => if t.status = .credited then t.amount else 0
    | .withdrawal => -t.amount
  | .pendingDeposit => if t.kind = .deposit ∧ t.status = .observed then t.amount else 0
  | .pendingWithdrawal => if t.kind = .withdrawal ∧ t.status = .signed then t.amount else 0
  | _ => 0

/-- The contribution of a row to one user's balance. -/
def PoolFundingLock.share (userId : String) (field : BalanceField) (l : PoolFundingLock) : ℤ :=
  if l.userId = userId then l.contribution field else 0

def BondLock.share (userId : String) (field : BalanceField) (l : BondLock) : ℤ :=
  if l.ownerId = userId then l.contribution field else 0

def SettlementTransfer.share (userId : String) (field : BalanceField) (t : SettlementTransfer) :
    ℤ :=
  if t.userId = userId then t.contribution field else 0

/-- The sum of all contributions to a field of a user's balance. -/
def FundingStore.ledger (s : FundingStore) (userId : String) (field : BalanceField) : ℤ :=
  Table.total (fun _ => PoolFundingLock.share userId field) s.poolLocks +
    Table.total (fun _ => BondLock.share userId field) s.bondLocks +
      Table.total (fun _ => SettlementTransfer.share userId field) s.transfers

private theorem FundingStore.SameRecords.ledger {s s' : FundingStore} (h : s.SameRecords s')
    (userId : String) (field : BalanceField) : s.ledger userId field = s'.ledger userId field := by
  simp only [FundingStore.ledger, h.poolLocks, h.bondLocks, h.transfers]

/-- The transfers the operations make: deposits observed or credited, withdrawals signed or
confirmed. -/
def SettlementTransfer.Regular (t : SettlementTransfer) : Prop :=
  (t.kind = .deposit ∧ (t.status = .observed ∨ t.status = .credited)) ∨
    (t.kind = .withdrawal ∧ (t.status = .signed ∨ t.status = .confirmed))

/-- Every balance is what locks and transfers add up to. -/
structure FundingInvariant (s : FundingStore) : Prop where
  regular : ∀ transferId t, s.transfers.lookup transferId = some t → t.Regular
  balanced : ∀ userId now field, (s.balanceAt userId now).get field = s.ledger userId field

theorem FundingInvariant.empty : FundingInvariant .empty where
  regular transferId t h := by simp [FundingStore.empty] at h
  balanced userId now field := by
    cases field <;> rfl

/-! ## How a record write changes the sums -/

namespace FundingStore

variable {s s₁ : FundingStore} (userId : String) (field : BalanceField)

private theorem ledger_insertPoolLock {l : PoolFundingLock}
    (hw : (RecordWrite.insertPoolLock l).apply s = (.ok (), s₁)) :
    s₁.ledger userId field = s.ledger userId field + l.share userId field := by
  obtain ⟨hnone, hwrite⟩ := apply_insertPoolLock.mp hw
  obtain ⟨hl, hfree, rfl⟩ := writePoolLock_eq_ok.mp hwrite
  simp only [ledger, putPoolLock, Table.total_insert_of_lookup_none _ hnone]
  ring

private theorem ledger_insertBondLock {l : BondLock}
    (hw : (RecordWrite.insertBondLock l).apply s = (.ok (), s₁)) :
    s₁.ledger userId field = s.ledger userId field + l.share userId field := by
  obtain ⟨hnone, hwrite⟩ := apply_insertBondLock.mp hw
  obtain ⟨hl, rfl⟩ := writeBondLock_eq_ok.mp hwrite
  simp only [ledger, putBondLock, Table.total_insert_of_lookup_none _ hnone]
  ring

private theorem ledger_insertTransfer {t : SettlementTransfer}
    (hw : (RecordWrite.insertTransfer t).apply s = (.ok (), s₁)) :
    s₁.ledger userId field = s.ledger userId field + t.share userId field := by
  obtain ⟨hnone, hwrite⟩ := apply_insertTransfer.mp hw
  obtain ⟨ht, hfree, rfl⟩ := writeTransfer_eq_ok.mp hwrite
  simp only [ledger, putTransfer, Table.total_insert_of_lookup_none _ hnone]
  ring

private theorem ledger_updatePoolLock {l row : PoolFundingLock}
    (hw : (RecordWrite.updatePoolLock l).apply s = (.ok (), s₁))
    (hrow : s.poolLocks.lookup l.lockId = some row) :
    s₁.ledger userId field = s.ledger userId field - row.share userId field +
      (updatedPoolLock row l).share userId field := by
  rw [apply_updatePoolLock, hrow] at hw
  obtain ⟨hl, hfree, rfl⟩ := writePoolLock_eq_ok.mp hw
  have hid : (updatedPoolLock row l).lockId = l.lockId := (s.poolLocks_ok _ _ hrow).1
  simp only [ledger, putPoolLock, Table.total_insert, hid, hrow, Option.elim_some]
  ring

private theorem ledger_updateBondLock {l row : BondLock}
    (hw : (RecordWrite.updateBondLock l).apply s = (.ok (), s₁))
    (hrow : s.bondLocks.lookup l.lockId = some row) :
    s₁.ledger userId field = s.ledger userId field - row.share userId field +
      (updatedBondLock row l).share userId field := by
  rw [apply_updateBondLock, hrow] at hw
  obtain ⟨hl, rfl⟩ := writeBondLock_eq_ok.mp hw
  have hid : (updatedBondLock row l).lockId = l.lockId := (s.bondLocks_ok _ _ hrow).1
  simp only [ledger, putBondLock, Table.total_insert, hid, hrow, Option.elim_some]
  ring

private theorem ledger_updateTransfer {t row : SettlementTransfer}
    (hw : (RecordWrite.updateTransfer t).apply s = (.ok (), s₁))
    (hrow : s.transfers.lookup t.transferId = some row) :
    s₁.ledger userId field = s.ledger userId field - row.share userId field +
      (updatedTransfer row t).share userId field := by
  rw [apply_updateTransfer, hrow] at hw
  obtain ⟨ht, hfree, rfl⟩ := writeTransfer_eq_ok.mp hw
  have hid : (updatedTransfer row t).transferId = t.transferId := (s.transfers_ok _ _ hrow).1
  simp only [ledger, putTransfer, Table.total_insert, hid, hrow, Option.elim_some]
  ring

/-! ## A row is part of the sum -/

variable {field} (hfield : field ≠ .available)

include hfield

private theorem poolLock_share_nonneg (lockId : String) (l : PoolFundingLock)
    (h : s.poolLocks.lookup lockId = some l) : 0 ≤ l.share userId field := by
  have hamount := (s.poolLocks_ok _ _ h).2.amount.le
  unfold PoolFundingLock.share
  split_ifs
  · cases field with
    | available => exact absurd rfl hfield
    | lockedPool =>
      simp only [PoolFundingLock.contribution]
      split_ifs <;> omega
    | _ => exact le_rfl
  · exact le_rfl

private theorem bondLock_share_nonneg (lockId : String) (l : BondLock)
    (h : s.bondLocks.lookup lockId = some l) : 0 ≤ l.share userId field := by
  have hamount := (s.bondLocks_ok _ _ h).2.amount.le
  unfold BondLock.share
  split_ifs
  · cases field with
    | available => exact absurd rfl hfield
    | lockedBond =>
      simp only [BondLock.contribution]
      split_ifs <;> omega
    | _ => exact le_rfl
  · exact le_rfl

private theorem transfer_share_nonneg (transferId : String) (t : SettlementTransfer)
    (h : s.transfers.lookup transferId = some t) : 0 ≤ t.share userId field := by
  have hamount := (s.transfers_ok _ _ h).2.le
  unfold SettlementTransfer.share
  split_ifs
  · cases field with
    | available => exact absurd rfl hfield
    | pendingDeposit =>
      simp only [SettlementTransfer.contribution]
      split_ifs <;> omega
    | pendingWithdrawal =>
      simp only [SettlementTransfer.contribution]
      split_ifs <;> omega
    | _ => exact le_rfl
  · exact le_rfl

theorem poolLock_share_le_ledger {lockId : String} {l : PoolFundingLock}
    (h : s.poolLocks.lookup lockId = some l) : l.share userId field ≤ s.ledger userId field := by
  have hl := Table.le_total (poolLock_share_nonneg (s := s) userId hfield) h
  have hbond := Table.total_nonneg (bondLock_share_nonneg (s := s) userId hfield)
  have htransfers := Table.total_nonneg (transfer_share_nonneg (s := s) userId hfield)
  unfold ledger
  omega

theorem bondLock_share_le_ledger {lockId : String} {l : BondLock}
    (h : s.bondLocks.lookup lockId = some l) : l.share userId field ≤ s.ledger userId field := by
  have hl := Table.le_total (bondLock_share_nonneg (s := s) userId hfield) h
  have hpool := Table.total_nonneg (poolLock_share_nonneg (s := s) userId hfield)
  have htransfers := Table.total_nonneg (transfer_share_nonneg (s := s) userId hfield)
  unfold ledger
  omega

theorem transfer_share_le_ledger {transferId : String} {t : SettlementTransfer}
    (h : s.transfers.lookup transferId = some t) :
    t.share userId field ≤ s.ledger userId field := by
  have ht := Table.le_total (transfer_share_nonneg (s := s) userId hfield) h
  have hpool := Table.total_nonneg (poolLock_share_nonneg (s := s) userId hfield)
  have hbond := Table.total_nonneg (bondLock_share_nonneg (s := s) userId hfield)
  unfold ledger
  omega

end FundingStore

/-! ## Transactions that keep the books -/

/-- A transaction gives its user the balance its record write makes the sum, and leaves the
sums of other users alone. -/
structure Transaction.Accounted {ρ : Type} (t : Transaction ρ) (s s₁ : FundingStore) : Prop where
  userId : (t.saved s).userId = t.userId
  regular : ∀ transferId tr, s₁.transfers.lookup transferId = some tr → tr.Regular
  own : ∀ field, s₁.ledger t.userId field = (t.saved s).get field
  other : ∀ userId field, userId ≠ t.userId → s₁.ledger userId field = s.ledger userId field

/-- The store a committed transaction leaves is balanced again. -/
theorem FundingInvariant.commit {ρ : Type} {s s₁ : FundingStore} (hinv : FundingInvariant s)
    {t : Transaction ρ} (hwritten : t.write.apply s = (.ok (), s₁)) (h : t.Accounted s s₁)
    (hb : (t.saved s).Valid) (events : List FundingEvent) :
    FundingInvariant ((s₁.putBalance (t.saved s) hb).addEvents events) := by
  have hrows := (s₁.putBalance (t.saved s) hb).sameRows_addEvents events
  have hledger : ∀ userId field,
      ((s₁.putBalance (t.saved s) hb).addEvents events).ledger userId field =
        s₁.ledger userId field := by
    intro userId field
    exact (hrows.toSameRecords.ledger userId field).symm
  constructor
  · rw [← hrows.transfers]
    exact h.regular
  · intro userId now field
    rw [hledger, FundingStore.balanceAt, ← hrows.balances, FundingStore.putBalance,
      Table.lookup_insert, h.userId]
    split_ifs with hid
    · rw [Option.getD_some, hid, h.own]
    · rw [h.other userId field hid, ← hinv.balanced userId now, FundingStore.balanceAt,
        apply_balances hwritten]

section Writes

variable {ρ : Type} {s s₁ : FundingStore} (hinv : FundingInvariant s) {t : Transaction ρ}
  (hsaved : (t.saved s).userId = t.userId)

include hinv hsaved

private theorem accounted_insertPoolLock {l : PoolFundingLock}
    (hw : (RecordWrite.insertPoolLock l).apply s = (.ok (), s₁)) (huser : l.userId = t.userId)
    (hget : ∀ field, (t.saved s).get field =
      (s.balanceAt t.userId t.now).get field + l.contribution field) : t.Accounted s s₁ := by
  have hledger := fun userId field => FundingStore.ledger_insertPoolLock userId field hw
  refine ⟨hsaved, ?_, fun field => ?_, fun userId field hother => ?_⟩
  · obtain ⟨hl, hfree, rfl⟩ := FundingStore.writePoolLock_eq_ok.mp (apply_insertPoolLock.mp hw).2
    exact hinv.regular
  · rw [hledger, hget, hinv.balanced, PoolFundingLock.share, if_pos huser]
  · rw [hledger, PoolFundingLock.share, huser, if_neg hother.symm, add_zero]

private theorem accounted_updatePoolLock {l row : PoolFundingLock}
    (hw : (RecordWrite.updatePoolLock l).apply s = (.ok (), s₁))
    (hrow : s.poolLocks.lookup l.lockId = some row) (huser : row.userId = t.userId)
    (hget : ∀ field, (t.saved s).get field = (s.balanceAt t.userId t.now).get field -
      row.contribution field + (updatedPoolLock row l).contribution field) : t.Accounted s s₁ := by
  have hledger := fun userId field => FundingStore.ledger_updatePoolLock userId field hw hrow
  have huser' : (updatedPoolLock row l).userId = t.userId := huser
  refine ⟨hsaved, ?_, fun field => ?_, fun userId field hother => ?_⟩
  · rw [apply_updatePoolLock, hrow] at hw
    obtain ⟨hl, hfree, rfl⟩ := FundingStore.writePoolLock_eq_ok.mp hw
    exact hinv.regular
  · rw [hledger, hget, hinv.balanced, PoolFundingLock.share, PoolFundingLock.share, if_pos huser,
      if_pos huser']
  · rw [hledger, PoolFundingLock.share, PoolFundingLock.share, huser, huser', if_neg hother.symm,
      if_neg hother.symm, sub_zero, add_zero]

private theorem accounted_insertBondLock {l : BondLock}
    (hw : (RecordWrite.insertBondLock l).apply s = (.ok (), s₁)) (huser : l.ownerId = t.userId)
    (hget : ∀ field, (t.saved s).get field =
      (s.balanceAt t.userId t.now).get field + l.contribution field) : t.Accounted s s₁ := by
  have hledger := fun userId field => FundingStore.ledger_insertBondLock userId field hw
  refine ⟨hsaved, ?_, fun field => ?_, fun userId field hother => ?_⟩
  · obtain ⟨hl, rfl⟩ := FundingStore.writeBondLock_eq_ok.mp (apply_insertBondLock.mp hw).2
    exact hinv.regular
  · rw [hledger, hget, hinv.balanced, BondLock.share, if_pos huser]
  · rw [hledger, BondLock.share, huser, if_neg hother.symm, add_zero]

private theorem accounted_updateBondLock {l row : BondLock}
    (hw : (RecordWrite.updateBondLock l).apply s = (.ok (), s₁))
    (hrow : s.bondLocks.lookup l.lockId = some row) (huser : row.ownerId = t.userId)
    (hget : ∀ field, (t.saved s).get field = (s.balanceAt t.userId t.now).get field -
      row.contribution field + (updatedBondLock row l).contribution field) : t.Accounted s s₁ := by
  have hledger := fun userId field => FundingStore.ledger_updateBondLock userId field hw hrow
  have huser' : (updatedBondLock row l).ownerId = t.userId := huser
  refine ⟨hsaved, ?_, fun field => ?_, fun userId field hother => ?_⟩
  · rw [apply_updateBondLock, hrow] at hw
    obtain ⟨hl, rfl⟩ := FundingStore.writeBondLock_eq_ok.mp hw
    exact hinv.regular
  · rw [hledger, hget, hinv.balanced, BondLock.share, BondLock.share, if_pos huser, if_pos huser']
  · rw [hledger, BondLock.share, BondLock.share, huser, huser', if_neg hother.symm,
      if_neg hother.symm, sub_zero, add_zero]

private theorem accounted_insertTransfer {tr : SettlementTransfer}
    (hw : (RecordWrite.insertTransfer tr).apply s = (.ok (), s₁)) (hregular : tr.Regular)
    (huser : tr.userId = t.userId)
    (hget : ∀ field, (t.saved s).get field =
      (s.balanceAt t.userId t.now).get field + tr.contribution field) : t.Accounted s s₁ := by
  have hledger := fun userId field => FundingStore.ledger_insertTransfer userId field hw
  refine ⟨hsaved, fun transferId tr' hlookup => ?_, fun field => ?_, fun userId field hother => ?_⟩
  · rw [(insertTransfer_lookup hw).2, Table.lookup_insert] at hlookup
    split_ifs at hlookup
    · exact Option.some.inj hlookup ▸ hregular
    · exact hinv.regular transferId tr' hlookup
  · rw [hledger, hget, hinv.balanced, SettlementTransfer.share, if_pos huser]
  · rw [hledger, SettlementTransfer.share, huser, if_neg hother.symm, add_zero]

private theorem accounted_updateTransfer {tr row : SettlementTransfer}
    (hw : (RecordWrite.updateTransfer tr).apply s = (.ok (), s₁))
    (hrow : s.transfers.lookup tr.transferId = some row)
    (hregular : (updatedTransfer row tr).Regular) (huser : row.userId = t.userId)
    (hget : ∀ field, (t.saved s).get field = (s.balanceAt t.userId t.now).get field -
      row.contribution field + (updatedTransfer row tr).contribution field) : t.Accounted s s₁ := by
  have hledger := fun userId field => FundingStore.ledger_updateTransfer userId field hw hrow
  have huser' : (updatedTransfer row tr).userId = t.userId := huser
  refine ⟨hsaved, fun transferId tr' hlookup => ?_, fun field => ?_, fun userId field hother => ?_⟩
  · rw [updateTransfer_lookup hw hrow, Table.lookup_insert] at hlookup
    split_ifs at hlookup
    · exact Option.some.inj hlookup ▸ hregular
    · exact hinv.regular transferId tr' hlookup
  · rw [hledger, hget, hinv.balanced, SettlementTransfer.share, SettlementTransfer.share,
      if_pos huser, if_pos huser']
  · rw [hledger, SettlementTransfer.share, SettlementTransfer.share, huser, huser',
      if_neg hother.symm, if_neg hother.symm, sub_zero, add_zero]

end Writes

section Operations

variable (js : Runtime)

/-- A safe result of a clamp at zero is the clamped value where that is not negative. -/
private theorem clamp_eq {x : ℤ} (hx : 0 ≤ x)
    (hsafe : js.arithmetic.isSafeInteger (max 0 (js.arithmetic.integer x)) = true) :
    max 0 (js.arithmetic.integer x) = x := by
  rw [max_eq_right (js.arithmetic.integer_nonneg hx)] at hsafe ⊢
  exact js.arithmetic.integer_eq_of_safe hsafe

variable {s s₁ : FundingStore} (hinv : FundingInvariant s)

include hinv

theorem reservation_accounted {checked : CheckedPoolEntry} {amount : ℤ} {now : String}
    (hw : (reservationTransaction js checked amount now).write.apply s = (.ok (), s₁))
    (hsafe : ((reservationTransaction js checked amount now).saved s).Safe js) :
    (reservationTransaction js checked amount now).Accounted s s₁ := by
  have havailable := js.arithmetic.integer_eq_of_safe (hsafe .available)
  have hlocked := js.arithmetic.integer_eq_of_safe (hsafe .lockedPool)
  refine accounted_insertPoolLock hinv (s.balanceAt_userId _ _) hw rfl fun field => ?_
  cases field with
  | available => exact havailable
  | lockedPool => exact hlocked
  | _ => exact (add_zero _).symm

theorem withdrawal_accounted {checked : CheckedWithdrawal} {amount : ℤ} {now : String}
    (hw : (withdrawalTransaction js checked amount now).write.apply s = (.ok (), s₁))
    (hsafe : ((withdrawalTransaction js checked amount now).saved s).Safe js) :
    (withdrawalTransaction js checked amount now).Accounted s s₁ := by
  have havailable := js.arithmetic.integer_eq_of_safe (hsafe .available)
  have hpending := js.arithmetic.integer_eq_of_safe (hsafe .pendingWithdrawal)
  refine accounted_insertTransfer hinv (s.balanceAt_userId _ _) hw (Or.inr ⟨rfl, Or.inl rfl⟩) rfl
    fun field => ?_
  cases field with
  | available => exact havailable
  | pendingWithdrawal => exact hpending
  | _ => exact (add_zero _).symm

theorem bond_accounted {checked : CheckedBond} {input : ReserveUsdcBondInput} {now : String}
    (hw : (bondTransaction js checked input now).write.apply s = (.ok (), s₁))
    (hsafe : ((bondTransaction js checked input now).saved s).Safe js) :
    (bondTransaction js checked input now).Accounted s s₁ := by
  have havailable := js.arithmetic.integer_eq_of_safe (hsafe .available)
  have hlocked := js.arithmetic.integer_eq_of_safe (hsafe .lockedBond)
  refine accounted_insertBondLock hinv (s.balanceAt_userId _ _) hw rfl fun field => ?_
  cases field with
  | available => exact havailable
  | lockedBond => exact hlocked
  | _ => exact (add_zero _).symm

theorem deposit_accounted {rail : SettlementRailStatus} {userId txRef : String}
    {amount confirmations : ℤ} {now : String}
    (hw : (depositTransaction js rail userId txRef amount confirmations now).write.apply s =
      (.ok (), s₁))
    (hsafe : ((depositTransaction js rail userId txRef amount confirmations now).saved s).Safe js) :
    (depositTransaction js rail userId txRef amount confirmations now).Accounted s s₁ := by
  have hstatus : (newDeposit rail userId txRef amount confirmations now).status = .observed ∨
      (newDeposit rail userId txRef amount confirmations now).status = .credited := by
    simp only [newDeposit]
    split_ifs
    · exact Or.inr rfl
    · exact Or.inl rfl
  have hsaved :
    ((depositTransaction js rail userId txRef amount confirmations now).saved s).userId =
      userId := by
    simp only [depositTransaction, Transaction.saved, depositedBalance]
    split_ifs <;> exact s.balanceAt_userId _ _
  refine accounted_insertTransfer hinv hsaved hw (Or.inl ⟨rfl, hstatus⟩) rfl fun field => ?_
  rcases hstatus with hobserved | hcredited
  · have hpending := hsafe .pendingDeposit
    simp only [depositTransaction, Transaction.saved, depositedBalance, hobserved] at hpending ⊢
    have hvalue := js.arithmetic.integer_eq_of_safe hpending
    have hkind : (newDeposit rail userId txRef amount confirmations now).kind = .deposit := rfl
    cases field with
    | pendingDeposit =>
      simp only [SettlementTransfer.contribution, hobserved, hkind]
      exact hvalue
    | _ => simp [SettlementTransfer.contribution, hobserved, hkind, SettlementBalance.get]
  · have havailable := hsafe .available
    simp only [depositTransaction, Transaction.saved, depositedBalance, hcredited] at havailable ⊢
    have hvalue := js.arithmetic.integer_eq_of_safe havailable
    have hkind : (newDeposit rail userId txRef amount confirmations now).kind = .deposit := rfl
    cases field with
    | available =>
      simp only [SettlementTransfer.contribution, hcredited, hkind]
      exact hvalue
    | _ => simp [SettlementTransfer.contribution, hcredited, hkind, SettlementBalance.get]

theorem credit_accounted {rail : SettlementRailStatus} {existing : SettlementTransfer}
    {userId : String} {amount : ℤ} {now : String}
    (hrow : s.transfers.lookup existing.transferId = some existing)
    (hkind : existing.kind = .deposit) (huser : existing.userId = userId)
    (hamount : existing.amount = amount) (hstatus : existing.status ≠ .credited)
    (hw : (creditTransaction js rail existing userId amount now).write.apply s = (.ok (), s₁))
    (hsafe : ((creditTransaction js rail existing userId amount now).saved s).Safe js) :
    (creditTransaction js rail existing userId amount now).Accounted s s₁ := by
  have hobserved : existing.status = .observed := by
    rcases hinv.regular _ _ hrow with ⟨-, h⟩ | ⟨h, -⟩
    · exact h.resolve_right hstatus
    · exact absurd (hkind.symm.trans h) (by simp)
  have hle := FundingStore.transfer_share_le_ledger (s := s) userId
    (show BalanceField.pendingDeposit ≠ .available by simp) hrow
  rw [← hinv.balanced userId now, SettlementTransfer.share, if_pos huser,
    SettlementTransfer.contribution, if_pos ⟨hkind, hobserved⟩, hamount] at hle
  have havailable := js.arithmetic.integer_eq_of_safe (hsafe .available)
  have hpending := clamp_eq js (sub_nonneg.mpr hle) (hsafe .pendingDeposit)
  have hregular : (updatedTransfer existing
      { existing with status := .credited, updatedAt := now }).Regular :=
    Or.inl ⟨hkind, Or.inr rfl⟩
  refine accounted_updateTransfer hinv (s.balanceAt_userId _ _) hw hrow hregular huser
    fun field => ?_
  cases field with
  | available =>
    simp only [SettlementTransfer.contribution, updatedTransfer, hkind, hobserved, hamount]
    refine havailable.trans ?_
    simp [creditTransaction, SettlementBalance.get]
  | pendingDeposit =>
    simp only [SettlementTransfer.contribution, updatedTransfer, hkind, hobserved, hamount]
    refine hpending.trans ?_
    simp [creditTransaction, SettlementBalance.get]
  | _ =>
    simp [SettlementTransfer.contribution, updatedTransfer, hkind, SettlementBalance.get,
      Transaction.saved, creditTransaction, creditedBalance]

theorem confirmation_accounted {rail : SettlementRailStatus} {transfer : SettlementTransfer}
    {txRef : Option String} {now : String}
    (hrow : s.transfers.lookup transfer.transferId = some transfer)
    (hkind : transfer.kind = .withdrawal)
    (hstatus : transfer.status = .signed ∨ transfer.status = .requested)
    (hw : (confirmationTransaction js rail transfer txRef now).write.apply s = (.ok (), s₁))
    (hsafe : ((confirmationTransaction js rail transfer txRef now).saved s).Safe js) :
    (confirmationTransaction js rail transfer txRef now).Accounted s s₁ := by
  have hsigned : transfer.status = .signed := by
    rcases hinv.regular _ _ hrow with ⟨h, -⟩ | ⟨-, h | h⟩
    · exact absurd (hkind.symm.trans h) (by simp)
    · exact h
    · rw [h] at hstatus
      simp at hstatus
  have hle := FundingStore.transfer_share_le_ledger (s := s) transfer.userId
    (show BalanceField.pendingWithdrawal ≠ .available by simp) hrow
  rw [← hinv.balanced transfer.userId now, SettlementTransfer.share, if_pos rfl,
    SettlementTransfer.contribution, if_pos ⟨hkind, hsigned⟩] at hle
  have hpending := clamp_eq js (sub_nonneg.mpr hle) (hsafe .pendingWithdrawal)
  have hregular : (updatedTransfer transfer (confirmedTransfer transfer txRef now)).Regular :=
    Or.inr ⟨hkind, Or.inr rfl⟩
  refine accounted_updateTransfer hinv (s.balanceAt_userId _ _) hw hrow hregular rfl
    fun field => ?_
  cases field with
  | pendingWithdrawal =>
    simp only [SettlementTransfer.contribution, updatedTransfer, confirmedTransfer, hkind, hsigned]
    refine hpending.trans ?_
    simp [confirmationTransaction, SettlementBalance.get]
  | _ =>
    simp [SettlementTransfer.contribution, updatedTransfer, confirmedTransfer, hkind,
      SettlementBalance.get, Transaction.saved, confirmationTransaction, confirmedBalance]

theorem release_accounted {checked : CheckedPoolEntry} {lock : PoolFundingLock} {now : String}
    (hrow : s.poolLocks.lookup lock.lockId = some lock) (huser : lock.userId = checked.userId)
    (hstatus : lock.status = .locked)
    (hw : (releaseTransaction js checked lock now).write.apply s = (.ok (), s₁))
    (hsafe : ((releaseTransaction js checked lock now).saved s).Safe js) :
    (releaseTransaction js checked lock now).Accounted s s₁ := by
  have hle := FundingStore.poolLock_share_le_ledger (s := s) checked.userId
    (show BalanceField.lockedPool ≠ .available by simp) hrow
  rw [← hinv.balanced checked.userId now, PoolFundingLock.share, if_pos huser,
    PoolFundingLock.contribution, if_pos hstatus] at hle
  have havailable := js.arithmetic.integer_eq_of_safe (hsafe .available)
  have hlocked := clamp_eq js (sub_nonneg.mpr hle) (hsafe .lockedPool)
  refine accounted_updatePoolLock hinv (s.balanceAt_userId _ _) hw hrow huser fun field => ?_
  cases field with
  | available =>
    simp only [PoolFundingLock.contribution, updatedPoolLock, hstatus]
    refine havailable.trans ?_
    simp [releaseTransaction, SettlementBalance.get]
  | lockedPool =>
    simp only [PoolFundingLock.contribution, updatedPoolLock, hstatus]
    refine hlocked.trans ?_
    simp [releaseTransaction, SettlementBalance.get]
  | _ =>
    simp [PoolFundingLock.contribution, SettlementBalance.get, Transaction.saved,
      releaseTransaction, releasedPoolBalance]

theorem fundedEntry_accounted {lock : PoolFundingLock} {entry : Entry} {now : String}
    (hrow : s.poolLocks.lookup lock.lockId = some lock) (huser : lock.userId = entry.userId)
    (hamount : lock.amount = entry.amount) (hstatus : lock.status = .locked)
    (hw : (fundedEntryTransaction js lock entry now).write.apply s = (.ok (), s₁))
    (hsafe : ((fundedEntryTransaction js lock entry now).saved s).Safe js) :
    (fundedEntryTransaction js lock entry now).Accounted s s₁ := by
  have hle := FundingStore.poolLock_share_le_ledger (s := s) entry.userId
    (show BalanceField.lockedPool ≠ .available by simp) hrow
  rw [← hinv.balanced entry.userId now, PoolFundingLock.share, if_pos huser,
    PoolFundingLock.contribution, if_pos hstatus, hamount] at hle
  have havailable := js.arithmetic.integer_eq_of_safe (hsafe .available)
  have hlocked := clamp_eq js (sub_nonneg.mpr hle) (hsafe .lockedPool)
  refine accounted_updatePoolLock hinv (s.balanceAt_userId _ _) hw hrow huser fun field => ?_
  cases field with
  | available =>
    have hcontribution : (updatedPoolLock lock (finalizedLock lock entry now)).contribution
        .available = terminalPayout entry - entry.amount := by
      simp only [PoolFundingLock.contribution, updatedPoolLock, finalizedLock, hamount]
      split_ifs <;> rfl
    rw [hcontribution]
    simp only [PoolFundingLock.contribution, hstatus, hamount]
    refine havailable.trans ?_
    simp [fundedEntryTransaction, SettlementBalance.get]
  | lockedPool =>
    have hcontribution : (updatedPoolLock lock (finalizedLock lock entry now)).contribution
        .lockedPool = 0 := by
      simp only [PoolFundingLock.contribution, updatedPoolLock, finalizedLock]
      split_ifs <;> simp_all
    rw [hcontribution]
    simp only [PoolFundingLock.contribution, hstatus, hamount]
    refine hlocked.trans ?_
    simp [fundedEntryTransaction, SettlementBalance.get]
  | _ =>
    simp [PoolFundingLock.contribution, SettlementBalance.get, Transaction.saved,
      fundedEntryTransaction, finalizedBalance]

theorem bondSettlement_accounted {lock : BondLock} {action : BondAction} {extraCredit : ℤ}
    {now : String} (hrow : s.bondLocks.lookup lock.lockId = some lock)
    (hstatus : lock.status = .locked)
    (hw : (bondSettlementTransaction js lock action extraCredit now).write.apply s = (.ok (), s₁))
    (hsafe : ((bondSettlementTransaction js lock action extraCredit now).saved s).Safe js) :
    (bondSettlementTransaction js lock action extraCredit now).Accounted s s₁ := by
  have hle := FundingStore.bondLock_share_le_ledger (s := s) lock.ownerId
    (show BalanceField.lockedBond ≠ .available by simp) hrow
  rw [← hinv.balanced lock.ownerId now, BondLock.share, if_pos rfl, BondLock.contribution,
    if_pos hstatus] at hle
  have havailable := js.arithmetic.integer_eq_of_safe (hsafe .available)
  have hlocked := clamp_eq js (sub_nonneg.mpr hle) (hsafe .lockedBond)
  have hfinal : action.status ≠ .locked := by
    cases action <;> simp [BondAction.status]
  refine accounted_updateBondLock hinv (s.balanceAt_userId _ _) hw hrow rfl fun field => ?_
  cases field with
  | available =>
    simp only [BondLock.contribution, updatedBondLock, finalizedBond, hstatus]
    refine havailable.trans ?_
    simp [bondSettlementTransaction, SettlementBalance.get, hfinal]
  | lockedBond =>
    simp only [BondLock.contribution, updatedBondLock, finalizedBond, hstatus]
    refine hlocked.trans ?_
    simp [bondSettlementTransaction, SettlementBalance.get, hfinal]
  | _ =>
    simp [BondLock.contribution, SettlementBalance.get, Transaction.saved,
      bondSettlementTransaction, settledBondBalance]

end Operations

end Yevow.DotCast
