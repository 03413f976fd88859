import Yevow.Models.DotCast.Funding.Agreement

/-!
# Retrying an interrupted operation

After its record is written an operation only replays. A fault before the write or after
the balance is saved is therefore made good by a retry. A fault between the two is not: the
retry finds the record, reports success, and the balance is never saved.
-/

namespace Yevow.DotCast

open JavaScript (Runtime)

variable {ρ : Type}

/-- Once the record of an operation is written, the operation makes no transaction again. -/
def FundingOperation.Settles (op : FundingOperation ρ) : Prop :=
  ∀ clock clock' s t s₁ s₂, op.Commits clock s t s₁ → s₂.SameRecords s₁ →
    ¬∃ t' s₁', op.Commits clock' s₂ t' s₁'

structure FundingOperation.Replayable (op : FundingOperation ρ) : Prop where
  savesValid : op.SavesValid
  steady : op.Steady
  settles : op.Settles

namespace FundingOperation.Replayable

variable {op : FundingOperation ρ} (hop : op.Replayable)

include hop

/-- A retry in a store that has the record already does nothing. -/
theorem run_of_sameRecords {clock : String} {s s₁ s₂ : FundingStore} {t : Transaction ρ}
    (h : op.Commits clock s t s₁) (hs : s₂.SameRecords s₁) (clock' : String) :
    (Program.run fundingHandler (op.program clock') s₂).2 = s₂ := by
  rcases FundingOperation.run_cases hop.savesValid clock' s₂ with
    ⟨-, hrun⟩ | ⟨t', s₁', -, hcommits, -⟩
  · exact hrun
  · exact absurd ⟨t', s₁', hcommits⟩ (hop.settles clock clock' s t s₁ s₂ h hs)

/-- Runs of an operation at two times leave stores that agree. -/
theorem run_agree (clock clock' : String) (s : FundingStore) :
    (Program.run fundingHandler (op.program clock) s).2.Agree
      (Program.run fundingHandler (op.program clock') s).2 := by
  rcases FundingOperation.run_cases hop.savesValid clock s with
    ⟨hnone, hrun⟩ | ⟨t, s₁, hb, hcommits, hrun⟩
  · rcases FundingOperation.run_cases hop.savesValid clock' s with
      ⟨-, hrun'⟩ | ⟨t', s₁', -, hcommits', -⟩
    · rw [hrun, hrun']
      exact (FundingStore.SameRows.refl s).agree
    · obtain ⟨t, s₁, hcommits, -⟩ := hop.steady.commits clock hcommits'
      exact absurd ⟨t, s₁, hcommits⟩ hnone
  · obtain ⟨t', s₁', hcommits', hagree, hsaved⟩ := hop.steady.commits clock' hcommits
    rcases FundingOperation.run_cases hop.savesValid clock' s with
      ⟨hnone, -⟩ | ⟨t'', s₁'', hb', hcommits'', hrun'⟩
    · exact absurd ⟨t', s₁', hcommits'⟩ hnone
    · obtain rfl := Decision.transact.inj (hcommits'.decided.symm.trans hcommits''.decided)
      obtain rfl := (Prod.mk.inj (hcommits'.written.symm.trans hcommits''.written)).2
      rw [hrun, hrun']
      exact ((FundingStore.sameRows_addEvents _ _).symm.agree.trans
        (hagree.putBalance hsaved hb hb')).trans (FundingStore.sameRows_addEvents _ _).agree

/-- A retry after a fault ends as an undisturbed run does, unless the fault struck the save
of a balance that differs from the stored one. -/
theorem retry_agree_iff (clock clock' : String) (fault : Fault) (n : ℕ) (s : FundingStore) :
    (Program.run fundingHandler (op.program clock')
        (Program.runFault fundingHandler fault n (op.program clock) s).2).2.Agree
      (Program.run fundingHandler (op.program clock) s).2 ↔
    ∀ b, SavesAt n (op.program clock) s b →
      (s.balances.lookup b.userId).map SettlementBalance.timeless = some b.timeless := by
  rcases FundingOperation.runFault_cases hop.savesValid clock fault n s with
    ⟨hnosave, hstate⟩ | ⟨t, s₁, hb, hcommits, hfault⟩
  · rw [hstate]
    exact ⟨fun _ b hsave => absurd hsave (hnosave b), fun _ => hop.run_agree clock' clock s⟩
  · have hrun : (Program.run fundingHandler (op.program clock) s).2.SameRows
        (s₁.putBalance (t.saved s) hb) := by
      rcases FundingOperation.run_cases hop.savesValid clock s with
        ⟨hnone, -⟩ | ⟨t', s₁', hb', hcommits', hrun⟩
      · exact absurd ⟨t, s₁, hcommits⟩ hnone
      · obtain rfl := Decision.transact.inj (hcommits.decided.symm.trans hcommits'.decided)
        obtain rfl := (Prod.mk.inj (hcommits.written.symm.trans hcommits'.written)).2
        rw [hrun]
        exact (FundingStore.sameRows_addEvents _ _).symm
    rcases hfault with ⟨hsave, hstate⟩ | ⟨hnosave, hstate⟩
    · rw [hstate, hop.run_of_sameRecords hcommits ⟨rfl, rfl, rfl⟩ clock']
      have hagree : s₁.Agree (Program.run fundingHandler (op.program clock) s).2 ↔
          (s.balances.lookup (t.saved s).userId).map SettlementBalance.timeless =
            some (t.saved s).timeless := by
        rw [← apply_balances hcommits.written, ← FundingStore.agree_putBalance_iff hb]
        exact ⟨fun h => h.trans hrun.agree, fun h => h.trans hrun.symm.agree⟩
      rw [hagree]
      constructor
      · intro h b hsave'
        obtain rfl := FundingOp.saveBalance.inj (Option.some.inj (hsave.symm.trans hsave'))
        exact h
      · intro h
        exact h _ hsave
    · have hsame := hop.run_of_sameRecords hcommits
        ⟨hstate.poolLocks, hstate.bondLocks, hstate.transfers⟩ clock'
      rw [hsame]
      exact ⟨fun _ b hsave => absurd hsave (hnosave b),
        fun _ => (hstate.trans hrun.symm).agree⟩

end FundingOperation.Replayable

/-! ## Every single operation is replayable -/

section Operations

variable (js : Runtime) (now : String → String)

private theorem reservedBalance_valid {b : SettlementBalance} (hb : b.Valid) {amount : ℤ}
    (hamount : 0 < amount) (hfunds : ¬b.availableUsdc < amount) (now : String) :
    (reservedBalance js b amount now).Valid where
  available := js.arithmetic.integer_nonneg (by omega)
  pendingDeposit := hb.pendingDeposit
  pendingWithdrawal := hb.pendingWithdrawal
  lockedPool := js.arithmetic.integer_nonneg (add_nonneg hb.lockedPool hamount.le)
  lockedBond := hb.lockedBond

private theorem reservation_replayable (checked : CheckedPoolEntry) (amount : ℤ) :
    FundingOperation.Replayable
      ⟨.poolLock (poolFundingLockId checked.poolId checked.entryId), fun clock =>
        reservationDecision js checked amount (now clock)⟩ := by
  constructor
  · rintro clock s t s₁ ⟨hdecided, hfunded, hwritten⟩
    obtain ⟨-, rfl⟩ := reservationDecision_eq_transact js hdecided
    have hl := (insertPoolLock_lookup hwritten).1
    simp only [reservationTransaction, ite_eq_right_iff, reduceCtorEq, imp_false] at hfunded
    exact reservedBalance_valid js (s.balanceAt_valid _ _) hl.amount hfunded _
  · intro clock clock' found t hdecided
    obtain ⟨rfl, rfl⟩ := reservationDecision_eq_transact js hdecided
    refine ⟨_, rfl, rfl, .insertPoolLock rfl, ?_, ?_⟩
    · intro b b' hb
      obtain ⟨-, havailable, -⟩ := SettlementBalance.timeless_inj.mp hb
      simp only [reservationTransaction, havailable]
    · intro b b' hb
      simp_all [SettlementBalance.timeless_inj, reservationTransaction, reservedBalance]
  · rintro clock clock' s t s₁ s₂ ⟨hdecided, -, hwritten⟩ hs ⟨t', s₁', hcommits⟩
    obtain ⟨-, rfl⟩ := reservationDecision_eq_transact js hdecided
    obtain ⟨hnone, -⟩ := reservationDecision_eq_transact js hcommits.decided
    have hlookup := (insertPoolLock_lookup hwritten).2
    rw [RecordLookup.find_congr _ hs, RecordLookup.find, hlookup] at hnone
    simp [newPoolFundingLock] at hnone

private theorem withdrawnBalance_valid {b : SettlementBalance} (hb : b.Valid) {amount : ℤ}
    (hamount : 0 < amount) (hfunds : ¬b.availableUsdc < amount) (now : String) :
    (withdrawnBalance js b amount now).Valid where
  available := js.arithmetic.integer_nonneg (by omega)
  pendingDeposit := hb.pendingDeposit
  pendingWithdrawal := js.arithmetic.integer_nonneg (add_nonneg hb.pendingWithdrawal hamount.le)
  lockedPool := hb.lockedPool
  lockedBond := hb.lockedBond

private theorem withdrawal_replayable (checked : CheckedWithdrawal) (amount : ℤ) :
    FundingOperation.Replayable
      ⟨.transfer (withdrawalId checked.userId checked.idempotencyKey), fun clock =>
        withdrawalDecision js checked amount (now clock)⟩ := by
  constructor
  · rintro clock s t s₁ ⟨hdecided, hfunded, hwritten⟩
    obtain ⟨-, rfl⟩ := withdrawalDecision_eq_transact js hdecided
    have hamount := (insertTransfer_lookup hwritten).1
    simp only [withdrawalTransaction, ite_eq_right_iff, reduceCtorEq, imp_false] at hfunded
    exact withdrawnBalance_valid js (s.balanceAt_valid _ _) hamount hfunded _
  · intro clock clock' found t hdecided
    obtain ⟨rfl, rfl⟩ := withdrawalDecision_eq_transact js hdecided
    refine ⟨_, rfl, rfl, .insertTransfer rfl, ?_, ?_⟩
    · intro b b' hb
      obtain ⟨-, havailable, -⟩ := SettlementBalance.timeless_inj.mp hb
      simp only [withdrawalTransaction, havailable]
    · intro b b' hb
      simp_all [SettlementBalance.timeless_inj, withdrawalTransaction, withdrawnBalance]
  · rintro clock clock' s t s₁ s₂ ⟨hdecided, -, hwritten⟩ hs ⟨t', s₁', hcommits⟩
    obtain ⟨-, rfl⟩ := withdrawalDecision_eq_transact js hdecided
    obtain ⟨hnone, -⟩ := withdrawalDecision_eq_transact js hcommits.decided
    have hlookup := (insertTransfer_lookup hwritten).2
    rw [RecordLookup.find_congr _ hs, RecordLookup.find, hlookup] at hnone
    simp [newWithdrawal] at hnone

private theorem bondedBalance_valid {b : SettlementBalance} (hb : b.Valid) {amount : ℤ}
    (hamount : 0 < amount) (hfunds : ¬b.availableUsdc < amount) (now : String) :
    (bondedBalance js b amount now).Valid where
  available := js.arithmetic.integer_nonneg (by omega)
  pendingDeposit := hb.pendingDeposit
  pendingWithdrawal := hb.pendingWithdrawal
  lockedPool := hb.lockedPool
  lockedBond := js.arithmetic.integer_nonneg (add_nonneg hb.lockedBond hamount.le)

private theorem bond_replayable (checked : CheckedBond) (input : ReserveUsdcBondInput) :
    FundingOperation.Replayable
      ⟨.bondLock checked.lockId, fun clock => bondDecision js checked input (now clock)⟩ := by
  constructor
  · rintro clock s t s₁ ⟨hdecided, hfunded, hwritten⟩
    obtain ⟨-, rfl⟩ := bondDecision_eq_transact js hdecided
    have hl := (insertBondLock_lookup hwritten).1
    simp only [bondTransaction, ite_eq_right_iff, reduceCtorEq, imp_false] at hfunded
    exact bondedBalance_valid js (s.balanceAt_valid _ _) hl.amount hfunded _
  · intro clock clock' found t hdecided
    obtain ⟨rfl, rfl⟩ := bondDecision_eq_transact js hdecided
    refine ⟨_, rfl, rfl, .insertBondLock rfl, ?_, ?_⟩
    · intro b b' hb
      obtain ⟨-, havailable, -⟩ := SettlementBalance.timeless_inj.mp hb
      simp only [bondTransaction, havailable]
    · intro b b' hb
      simp_all [SettlementBalance.timeless_inj, bondTransaction, bondedBalance]
  · rintro clock clock' s t s₁ s₂ ⟨hdecided, -, hwritten⟩ hs ⟨t', s₁', hcommits⟩
    obtain ⟨-, rfl⟩ := bondDecision_eq_transact js hdecided
    obtain ⟨hnone, -⟩ := bondDecision_eq_transact js hcommits.decided
    have hlookup := (insertBondLock_lookup hwritten).2
    rw [RecordLookup.find_congr _ hs, RecordLookup.find, hlookup] at hnone
    simp [newBondLock] at hnone

private theorem releasedPoolBalance_valid {b : SettlementBalance} (hb : b.Valid) {amount : ℤ}
    (hamount : 0 < amount) (now : String) : (releasedPoolBalance js b amount now).Valid where
  available := js.arithmetic.integer_nonneg (add_nonneg hb.available hamount.le)
  pendingDeposit := hb.pendingDeposit
  pendingWithdrawal := hb.pendingWithdrawal
  lockedPool := le_max_left _ _
  lockedBond := hb.lockedBond

private theorem release_replayable (checked : CheckedPoolEntry) :
    FundingOperation.Replayable
      ⟨.poolLock (poolFundingLockId checked.poolId checked.entryId), fun clock =>
        releaseDecision js checked (now clock)⟩ := by
  constructor
  · rintro clock s t s₁ ⟨hdecided, -, -⟩
    obtain ⟨lock, hfound, -, -, rfl⟩ := releaseDecision_eq_transact js hdecided
    have hl := (s.poolLocks_ok _ _ hfound).2
    exact releasedPoolBalance_valid js (s.balanceAt_valid _ _) hl.amount _
  · intro clock clock' found t hdecided
    obtain ⟨lock, rfl, huser, hstatus, rfl⟩ := releaseDecision_eq_transact js hdecided
    refine ⟨releaseTransaction js checked lock (now clock'), ?_, rfl, .updatePoolLock rfl,
      fun _ _ _ => rfl, ?_⟩
    · simp [releaseDecision, huser, hstatus]
    · intro b b' hb
      simp_all [SettlementBalance.timeless_inj, releaseTransaction, releasedPoolBalance]
  · rintro clock clock' s t s₁ s₂ ⟨hdecided, -, hwritten⟩ hs ⟨t', s₁', hcommits⟩
    obtain ⟨lock, hfound, -, -, rfl⟩ := releaseDecision_eq_transact js hdecided
    obtain ⟨lock', hfound', -, hlocked, -⟩ := releaseDecision_eq_transact js hcommits.decided
    have hid := (s.poolLocks_ok _ _ hfound).1
    rw [RecordLookup.find, ← hid] at hfound
    have hlookup := (updatePoolLock_lookup hwritten hfound).2
    rw [RecordLookup.find_congr _ hs, RecordLookup.find, hlookup] at hfound'
    simp only [hid, Finmap.lookup_insert, Option.some.injEq] at hfound'
    rw [← hfound'] at hlocked
    simp [updatedPoolLock] at hlocked

private theorem finalizedBalance_valid {b : SettlementBalance} (hb : b.Valid) {entry : Entry}
    (hpayout : 0 ≤ terminalPayout entry) (now : String) :
    (finalizedBalance js b entry now).Valid where
  available := js.arithmetic.integer_nonneg (add_nonneg hb.available hpayout)
  pendingDeposit := hb.pendingDeposit
  pendingWithdrawal := hb.pendingWithdrawal
  lockedPool := le_max_left _ _
  lockedBond := hb.lockedBond

theorem fundedEntry_replayable (poolId now : String) (entry : Entry) :
    (fundedEntryOperation js poolId now entry).Replayable := by
  constructor
  · rintro clock s t s₁ ⟨hdecided, -, hwritten⟩
    obtain ⟨lock, hfound, -, rfl⟩ := fundedEntryDecision_eq_transact js hdecided
    have hid := (s.poolLocks_ok _ _ hfound).1
    change s.poolLocks.lookup (poolFundingLockId poolId entry.id) = some lock at hfound
    rw [← hid] at hfound
    have hpayout := (updatePoolLock_lookup hwritten hfound).1.payout
    exact finalizedBalance_valid js (s.balanceAt_valid _ _) hpayout _
  · intro clock clock' found t hdecided
    obtain ⟨lock, rfl, hstatus, rfl⟩ := fundedEntryDecision_eq_transact js hdecided
    refine ⟨fundedEntryTransaction js lock entry now, hdecided, rfl, .updatePoolLock rfl,
      fun _ _ _ => rfl, ?_⟩
    intro b b' hb
    simp_all [SettlementBalance.timeless_inj, fundedEntryTransaction, finalizedBalance]
  · rintro clock clock' s t s₁ s₂ ⟨hdecided, -, hwritten⟩ hs ⟨t', s₁', hcommits⟩
    obtain ⟨lock, hfound, -, rfl⟩ := fundedEntryDecision_eq_transact js hdecided
    obtain ⟨lock', hfound', hlocked, -⟩ := fundedEntryDecision_eq_transact js hcommits.decided
    have hid := (s.poolLocks_ok _ _ hfound).1
    change s.poolLocks.lookup (poolFundingLockId poolId entry.id) = some lock at hfound
    rw [← hid] at hfound
    have hlookup := (updatePoolLock_lookup hwritten hfound).2
    rw [RecordLookup.find_congr _ hs] at hfound'
    change s₁.poolLocks.lookup (poolFundingLockId poolId entry.id) = some lock' at hfound'
    rw [hlookup] at hfound'
    simp only [finalizedLock, hid, Finmap.lookup_insert,
      Option.some.injEq] at hfound'
    rw [← hfound'] at hlocked
    simp only [updatedPoolLock] at hlocked
    split_ifs at hlocked

private theorem settledBondBalance_valid {b : SettlementBalance} (hb : b.Valid) (lock : BondLock)
    {credit : ℤ} (hcredit : 0 ≤ credit) (now : String) :
    (settledBondBalance js b lock credit now).Valid where
  available := js.arithmetic.integer_nonneg (add_nonneg hb.available hcredit)
  pendingDeposit := hb.pendingDeposit
  pendingWithdrawal := hb.pendingWithdrawal
  lockedPool := hb.lockedPool
  lockedBond := le_max_left _ _

private theorem bondSettlement_replayable (lockId : String) (input : SettleUsdcBondInput) :
    FundingOperation.Replayable
      ⟨.bondLock lockId, fun clock => bondSettlementDecision js input (now clock)⟩ := by
  constructor
  · rintro clock s t s₁ ⟨hdecided, -, hwritten⟩
    obtain ⟨lock, hfound, -, -, rfl⟩ := bondSettlementDecision_eq_transact js hdecided
    have hid := (s.bondLocks_ok _ _ hfound).1
    rw [RecordLookup.find, ← hid] at hfound
    have hcredit := (updateBondLock_lookup hwritten hfound).1.credit
    exact settledBondBalance_valid js (s.balanceAt_valid _ _) lock hcredit _
  · intro clock clock' found t hdecided
    obtain ⟨lock, rfl, hstatus, hcredit, rfl⟩ := bondSettlementDecision_eq_transact js hdecided
    refine ⟨bondSettlementTransaction js lock input.action (input.creditMinorUnits.getD 0)
      (now clock'), ?_, rfl, .updateBondLock rfl, fun _ _ _ => rfl, ?_⟩
    · simp only [bondSettlementDecision] at hdecided ⊢
      split_ifs at hdecided ⊢
      · cases hcheck : assertNonNegativeAmount js "INVALID_USDC_BOND_AMOUNT"
          (input.creditMinorUnits.getD 0)
          "creditMinorUnits must be a non-negative integer minor-unit amount" with
        | error fault => simp [hcheck] at hdecided
        | ok u => rfl
    · intro b b' hb
      simp_all [SettlementBalance.timeless_inj, bondSettlementTransaction, settledBondBalance]
  · rintro clock clock' s t s₁ s₂ ⟨hdecided, -, hwritten⟩ hs ⟨t', s₁', hcommits⟩
    obtain ⟨lock, hfound, -, -, rfl⟩ := bondSettlementDecision_eq_transact js hdecided
    obtain ⟨lock', hfound', hlocked, -⟩ := bondSettlementDecision_eq_transact js hcommits.decided
    have hid := (s.bondLocks_ok _ _ hfound).1
    rw [RecordLookup.find, ← hid] at hfound
    have hlookup := (updateBondLock_lookup hwritten hfound).2
    rw [RecordLookup.find_congr _ hs, RecordLookup.find, hlookup] at hfound'
    simp only [finalizedBond, hid, Finmap.lookup_insert, Option.some.injEq] at hfound'
    rw [← hfound'] at hlocked
    cases haction : input.action <;> simp [updatedBondLock, haction, BondAction.status] at hlocked

private theorem confirmedBalance_valid {b : SettlementBalance} (hb : b.Valid) (amount : ℤ)
    (now : String) : (confirmedBalance js b amount now).Valid where
  available := hb.available
  pendingDeposit := hb.pendingDeposit
  pendingWithdrawal := le_max_left _ _
  lockedPool := hb.lockedPool
  lockedBond := hb.lockedBond

private theorem confirmation_replayable (rail : SettlementRailStatus) (txRef : Option String)
    (transferId : String) :
    FundingOperation.Replayable
      ⟨.transfer transferId, fun clock => confirmationDecision js rail txRef (now clock)⟩ := by
  constructor
  · rintro clock s t s₁ ⟨hdecided, -, -⟩
    obtain ⟨transfer, -, -, -, rfl⟩ := confirmationDecision_eq_transact js hdecided
    exact confirmedBalance_valid js (s.balanceAt_valid _ _) _ _
  · intro clock clock' found t hdecided
    obtain ⟨transfer, rfl, hkind, hstatus, rfl⟩ := confirmationDecision_eq_transact js hdecided
    refine ⟨confirmationTransaction js rail transfer txRef (now clock'), ?_, rfl,
      .updateTransfer rfl, fun _ _ _ => rfl, ?_⟩
    · simp only [confirmationDecision, Option.filter_some, hkind, decide_true, if_true]
      rcases hstatus with hstatus | hstatus <;> simp [hstatus]
    · intro b b' hb
      simp_all [SettlementBalance.timeless_inj, confirmationTransaction, confirmedBalance]
  · rintro clock clock' s t s₁ s₂ ⟨hdecided, -, hwritten⟩ hs ⟨t', s₁', hcommits⟩
    obtain ⟨transfer, hfound, -, -, rfl⟩ := confirmationDecision_eq_transact js hdecided
    obtain ⟨transfer', hfound', -, hstatus, -⟩ :=
      confirmationDecision_eq_transact js hcommits.decided
    have hid := (s.transfers_ok _ _ hfound).1
    rw [RecordLookup.find, ← hid] at hfound
    have hlookup := updateTransfer_lookup hwritten hfound
    rw [RecordLookup.find_congr _ hs, RecordLookup.find, hlookup] at hfound'
    simp only [confirmedTransfer, hid, Finmap.lookup_insert, Option.some.injEq] at hfound'
    rw [← hfound'] at hstatus
    simp [updatedTransfer] at hstatus

private theorem depositedBalance_valid {b : SettlementBalance} (hb : b.Valid)
    (status : TransferStatus) {amount : ℤ} (hamount : 0 < amount) (now : String) :
    (depositedBalance js b status amount now).Valid := by
  unfold depositedBalance
  split_ifs
  · exact ⟨js.arithmetic.integer_nonneg (add_nonneg hb.available hamount.le), hb.pendingDeposit,
      hb.pendingWithdrawal, hb.lockedPool, hb.lockedBond⟩
  · exact ⟨hb.available, js.arithmetic.integer_nonneg (add_nonneg hb.pendingDeposit hamount.le),
      hb.pendingWithdrawal, hb.lockedPool, hb.lockedBond⟩

private theorem creditedBalance_valid {b : SettlementBalance} (hb : b.Valid) {amount : ℤ}
    (hamount : 0 < amount) (now : String) : (creditedBalance js b amount now).Valid where
  available := js.arithmetic.integer_nonneg (add_nonneg hb.available hamount.le)
  pendingDeposit := le_max_left _ _
  pendingWithdrawal := hb.pendingWithdrawal
  lockedPool := hb.lockedPool
  lockedBond := hb.lockedBond

/-- Once a deposit is recorded under a reference, no other is made under it. -/
private theorem deposit_settles (rail : SettlementRailStatus) (userId txRef : String)
    (amount confirmations : ℤ) :
    FundingOperation.Settles ⟨.reference txRef, fun clock =>
      depositDecision js rail userId txRef amount confirmations (now clock)⟩ := by
  rintro clock clock' s t s₁ s₂ ⟨hdecided, -, hwritten⟩ hs ⟨t', s₁', hcommits⟩
  have hagain := depositDecision_eq_transact js hcommits.decided
  rw [RecordLookup.find_congr _ hs] at hagain
  rcases depositDecision_eq_transact js hdecided with
    ⟨hnone, rfl⟩ | ⟨existing, hfound, hkind, -, -, -, -, rfl⟩
  · have htransfers := (insertTransfer_lookup hwritten).2
    rcases hagain with ⟨hnone', -⟩ | ⟨found, hfound, -, -, -, hstatus, hwait, -⟩
    · exact FundingStore.transferByTxRef_ne_none (by rw [htransfers, Finmap.lookup_insert]) rfl
        hnone'
    · obtain ⟨hrow, href⟩ := FundingStore.transferByTxRef_eq_some hfound
      rw [htransfers, Table.lookup_insert] at hrow
      split_ifs at hrow with hid
      · rw [← Option.some.inj hrow] at hstatus
        exact hstatus (if_pos hwait)
      · exact FundingStore.transferByTxRef_ne_none hrow href hnone
  · obtain ⟨hexisting, href⟩ := FundingStore.transferByTxRef_eq_some hfound
    have htransfers := updateTransfer_lookup hwritten hexisting
    rcases hagain with ⟨hnone', -⟩ | ⟨found, hfound', hkind', -, -, hstatus, -, -⟩
    · have hcredited : s₁.transfers.lookup existing.transferId = some (updatedTransfer existing
          { existing with status := .credited, updatedAt := now clock }) := by
        rw [htransfers, Finmap.lookup_insert]
      exact FundingStore.transferByTxRef_ne_none hcredited href hnone'
    · obtain ⟨hrow, href'⟩ := FundingStore.transferByTxRef_eq_some hfound'
      rw [htransfers, Table.lookup_insert] at hrow
      split_ifs at hrow with hid
      · rw [← Option.some.inj hrow] at hstatus
        exact hstatus rfl
      · exact hid (s.deposits_unique _ _ _ _ hrow hexisting hkind' hkind (by simp [href'])
          (href'.trans href.symm))

private theorem deposit_replayable (rail : SettlementRailStatus) (userId txRef : String)
    (amount confirmations : ℤ) :
    FundingOperation.Replayable ⟨.reference txRef, fun clock =>
      depositDecision js rail userId txRef amount confirmations (now clock)⟩ := by
  refine ⟨?_, ?_, deposit_settles js now rail userId txRef amount confirmations⟩
  · rintro clock s t s₁ ⟨hdecided, -, hwritten⟩
    rcases depositDecision_eq_transact js hdecided with
      ⟨-, rfl⟩ | ⟨existing, hfound, -, -, hamount, -, -, rfl⟩
    · exact depositedBalance_valid js (s.balanceAt_valid _ _) _ (insertTransfer_lookup hwritten).1 _
    · have hpos := (s.transfers_ok _ _ (FundingStore.transferByTxRef_eq_some hfound).1).2
      rw [hamount] at hpos
      exact creditedBalance_valid js (s.balanceAt_valid _ _) hpos _
  · intro clock clock' found t hdecided
    rcases depositDecision_eq_transact js hdecided with
      ⟨rfl, rfl⟩ | ⟨existing, rfl, hkind, huser, hamount, hstatus, hwait, rfl⟩
    · refine ⟨_, rfl, rfl, .insertTransfer rfl, fun _ _ _ => rfl, ?_⟩
      intro b b' hb
      by_cases hcredited : rail.depositConfirmationsRequired ≤ confirmations
      · simp_all [SettlementBalance.timeless_inj, depositTransaction, depositedBalance, newDeposit]
      · simp_all [SettlementBalance.timeless_inj, depositTransaction, depositedBalance, newDeposit]
    · refine ⟨creditTransaction js rail existing userId amount (now clock'), ?_, rfl,
        .updateTransfer rfl, fun _ _ _ => rfl, ?_⟩
      · simp [depositDecision, hkind, huser, hamount, hstatus, not_lt.mpr hwait]
      · intro b b' hb
        simp_all [SettlementBalance.timeless_inj, creditTransaction, creditedBalance]

variable {js}

theorem depositOperation_replayable {env : SettlementRailEnv} {input : CreditDevnetDepositInput}
    {op : FundingOperation TransferResult} (h : depositOperation js env input = .ok op) :
    op.Replayable := by
  obtain ⟨checked, -, hok⟩ := Except.bind_eq_ok.mp h
  obtain rfl := Except.ok.inj hok
  exact deposit_replayable js (input.now.getD ·) ..

theorem withdrawalOperation_replayable {env : SettlementRailEnv}
    {input : RequestDevnetWithdrawalInput}
    {op : FundingOperation TransferResult} (h : withdrawalOperation js env input = .ok op) :
    op.Replayable := by
  obtain ⟨checked, -, hok⟩ := Except.bind_eq_ok.mp h
  obtain rfl := Except.ok.inj hok
  exact withdrawal_replayable js (input.now.getD ·) ..

theorem reservationOperation_replayable {env : UsdcPoolFundingEnv}
    {input : ReserveUsdcPoolEntryInput}
    {op : FundingOperation PoolFundingResult} (h : reservationOperation js env input = .ok op) :
    op.Replayable := by
  obtain ⟨checked, -, hok⟩ := Except.bind_eq_ok.mp h
  obtain rfl := Except.ok.inj hok
  exact reservation_replayable js (input.now.getD ·) ..

theorem releaseOperation_replayable {env : UsdcPoolFundingEnv}
    {input : ReleaseUsdcPoolEntryReservationInput}
    {op : FundingOperation PoolFundingResult} (h : releaseOperation js env input = .ok op) :
    op.Replayable := by
  obtain ⟨checked, -, hok⟩ := Except.bind_eq_ok.mp h
  obtain rfl := Except.ok.inj hok
  exact release_replayable js (input.now.getD ·) ..

theorem bondOperation_replayable {env : UsdcPoolFundingEnv} {input : ReserveUsdcBondInput}
    {op : FundingOperation ReserveBondResult} (h : bondOperation js env input = .ok op) :
    op.Replayable := by
  obtain ⟨checked, -, hok⟩ := Except.bind_eq_ok.mp h
  obtain rfl := Except.ok.inj hok
  exact bond_replayable js (input.now.getD ·) ..

theorem bondSettlementOperation_replayable {env : UsdcPoolFundingEnv} {input : SettleUsdcBondInput}
    {op : FundingOperation SettleBondResult} (h : bondSettlementOperation js env input = .ok op) :
    op.Replayable := by
  obtain ⟨checked, -, hok⟩ := Except.bind_eq_ok.mp h
  obtain rfl := Except.ok.inj hok
  exact bondSettlement_replayable js (input.now.getD ·) ..

theorem confirmationOperation_replayable {env : SettlementRailEnv}
    {input : ConfirmMockWithdrawalInput} {op : FundingOperation TransferResult}
    (h : confirmationOperation js env input = .ok op) : op.Replayable := by
  obtain ⟨rail, -, hrest⟩ := Except.bind_eq_ok.mp h
  obtain ⟨transferId, -, hok⟩ := Except.bind_eq_ok.mp hrest
  obtain rfl := Except.ok.inj hok
  exact confirmation_replayable js (input.now.getD ·) ..

end Operations

end Yevow.DotCast
