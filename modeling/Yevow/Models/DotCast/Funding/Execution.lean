import Yevow.Core.Effect.Interruption
import Yevow.Models.DotCast.Funding.Operation

/-!
# Running a funding operation

An operation either leaves the store alone or commits one transaction: it writes the
record, saves the balance computed from the stored one, and appends its events. A fault
strikes before the record is written, between the two writes, or after both.
-/

namespace Yevow.DotCast

variable {ρ : Type}

/-! ## Parts of a store -/

namespace FundingStore

/-- The balance an operation computes from: the stored row, or an empty one. -/
def balanceAt (s : FundingStore) (userId now : String) : SettlementBalance :=
  (s.balances.lookup userId).getD (emptySettlementBalance userId now)

theorem balanceAt_userId (s : FundingStore) (userId now : String) :
    (s.balanceAt userId now).userId = userId := by
  unfold balanceAt
  cases hrow : s.balances.lookup userId with
  | none => rfl
  | some row => exact (s.balances_ok userId row hrow).1

theorem balanceAt_valid (s : FundingStore) (userId now : String) :
    (s.balanceAt userId now).Valid := by
  unfold balanceAt
  cases hrow : s.balances.lookup userId with
  | none => exact ⟨le_rfl, le_rfl, le_rfl, le_rfl, le_rfl⟩
  | some row => exact (s.balances_ok userId row hrow).2

/-- The same locks and transfers. -/
structure SameRecords (s s' : FundingStore) : Prop where
  poolLocks : s.poolLocks = s'.poolLocks
  bondLocks : s.bondLocks = s'.bondLocks
  transfers : s.transfers = s'.transfers

/-- The same locks, transfers and balances, whatever the events. -/
structure SameRows (s s' : FundingStore) : Prop extends SameRecords s s' where
  balances : s.balances = s'.balances

theorem SameRows.refl (s : FundingStore) : s.SameRows s := ⟨⟨rfl, rfl, rfl⟩, rfl⟩

theorem SameRows.symm {s s' : FundingStore} (h : s.SameRows s') : s'.SameRows s :=
  ⟨⟨h.poolLocks.symm, h.bondLocks.symm, h.transfers.symm⟩, h.balances.symm⟩

theorem SameRows.trans {s s' s'' : FundingStore} (h : s.SameRows s') (h' : s'.SameRows s'') :
    s.SameRows s'' :=
  ⟨⟨h.poolLocks.trans h'.poolLocks, h.bondLocks.trans h'.bondLocks,
    h.transfers.trans h'.transfers⟩, h.balances.trans h'.balances⟩

private theorem sameRows_addEvent (s : FundingStore) (e : FundingEvent) :
    s.SameRows (s.addEvent e) :=
  ⟨⟨rfl, rfl, rfl⟩, rfl⟩

/-- The store after a list of events. -/
def addEvents (s : FundingStore) (events : List FundingEvent) : FundingStore :=
  events.foldl addEvent s

theorem sameRows_addEvents (s : FundingStore) (events : List FundingEvent) :
    s.SameRows (s.addEvents events) := by
  induction events generalizing s with
  | nil => exact SameRows.refl s
  | cons e rest ih => exact (s.sameRows_addEvent e).trans (ih (s.addEvent e))

end FundingStore

section Calls

variable {s s' : FundingStore} (h : s.SameRows s')

include h

private theorem entryTaken_iff (l : PoolFundingLock) : s.EntryTaken l ↔ s'.EntryTaken l := by
  rw [FundingStore.EntryTaken, FundingStore.EntryTaken, h.poolLocks]

private theorem depositTaken_iff (t : SettlementTransfer) :
    s.DepositTaken t ↔ s'.DepositTaken t := by
  rw [FundingStore.DepositTaken, FundingStore.DepositTaken, h.transfers]

private theorem writeBalance_sameRows (b : SettlementBalance) :
    (s.writeBalance b).1 = (s'.writeBalance b).1 ∧
      (s.writeBalance b).2.SameRows (s'.writeBalance b).2 := by
  unfold FundingStore.writeBalance
  split_ifs
  · exact ⟨rfl, ⟨h.poolLocks, h.bondLocks, h.transfers⟩,
      by simp only [FundingStore.putBalance, h.balances]⟩
  · exact ⟨rfl, h⟩

private theorem writePoolLock_sameRows (l : PoolFundingLock) :
    (s.writePoolLock l).1 = (s'.writePoolLock l).1 ∧
      (s.writePoolLock l).2.SameRows (s'.writePoolLock l).2 := by
  unfold FundingStore.writePoolLock
  by_cases htaken : s.EntryTaken l
  · rw [dif_pos htaken, dif_pos ((entryTaken_iff h l).mp htaken)]
    exact ⟨rfl, h⟩
  · rw [dif_neg htaken, dif_neg (mt (entryTaken_iff h l).mpr htaken)]
    split_ifs
    · exact ⟨rfl, ⟨by simp only [FundingStore.putPoolLock, h.poolLocks], h.bondLocks, h.transfers⟩,
        h.balances⟩
    · exact ⟨rfl, h⟩

private theorem writeBondLock_sameRows (l : BondLock) :
    (s.writeBondLock l).1 = (s'.writeBondLock l).1 ∧
      (s.writeBondLock l).2.SameRows (s'.writeBondLock l).2 := by
  unfold FundingStore.writeBondLock
  split_ifs
  · exact ⟨rfl, ⟨h.poolLocks, by simp only [FundingStore.putBondLock, h.bondLocks], h.transfers⟩,
      h.balances⟩
  · exact ⟨rfl, h⟩

private theorem writeTransfer_sameRows (t : SettlementTransfer) :
    (s.writeTransfer t).1 = (s'.writeTransfer t).1 ∧
      (s.writeTransfer t).2.SameRows (s'.writeTransfer t).2 := by
  unfold FundingStore.writeTransfer
  by_cases htaken : s.DepositTaken t
  · rw [dif_pos htaken, dif_pos ((depositTaken_iff h t).mp htaken)]
    exact ⟨rfl, h⟩
  · rw [dif_neg htaken, dif_neg (mt (depositTaken_iff h t).mpr htaken)]
    split_ifs
    · exact ⟨rfl, ⟨h.poolLocks, h.bondLocks,
        by simp only [FundingStore.putTransfer, h.transfers]⟩, h.balances⟩
    · exact ⟨rfl, h⟩

/-- Calls answer alike in stores with the same rows and keep their rows the same. -/
theorem fundingHandler_sameRows (op : FundingOp) :
    (fundingHandler op s).1 = (fundingHandler op s').1 ∧
      (fundingHandler op s).2.SameRows (fundingHandler op s').2 := by
  cases op with
  | getBalance userId => exact ⟨by simp only [fundingHandler, h.balances], h⟩
  | saveBalance b => exact writeBalance_sameRows h b
  | getPoolFundingLock lockId => exact ⟨by simp only [fundingHandler, h.poolLocks], h⟩
  | insertPoolFundingLock l =>
    simp only [fundingHandler, ← h.poolLocks]
    split_ifs
    · exact ⟨rfl, h⟩
    · exact writePoolLock_sameRows h l
  | updatePoolFundingLock l =>
    simp only [fundingHandler, ← h.poolLocks]
    cases s.poolLocks.lookup l.lockId with
    | none => exact ⟨rfl, h⟩
    | some row => exact writePoolLock_sameRows h (updatedPoolLock row l)
  | getBondLock lockId => exact ⟨by simp only [fundingHandler, h.bondLocks], h⟩
  | insertBondLock l =>
    simp only [fundingHandler, ← h.bondLocks]
    split_ifs
    · exact ⟨rfl, h⟩
    · exact writeBondLock_sameRows h l
  | updateBondLock l =>
    simp only [fundingHandler, ← h.bondLocks]
    cases s.bondLocks.lookup l.lockId with
    | none => exact ⟨rfl, h⟩
    | some row => exact writeBondLock_sameRows h (updatedBondLock row l)
  | getTransfer transferId => exact ⟨by simp only [fundingHandler, h.transfers], h⟩
  | getTransferByTxRef txRef =>
    exact ⟨by simp only [fundingHandler, FundingStore.transferByTxRef, h.transfers], h⟩
  | insertTransfer t =>
    simp only [fundingHandler, ← h.transfers]
    split_ifs
    · exact ⟨rfl, h⟩
    · exact writeTransfer_sameRows h t
  | updateTransfer t =>
    simp only [fundingHandler, ← h.transfers]
    cases s.transfers.lookup t.transferId with
    | none => exact ⟨rfl, h⟩
    | some row => exact writeTransfer_sameRows h (updatedTransfer row t)
  | appendEvent e =>
    exact ⟨rfl, (s.sameRows_addEvent e).symm.trans (h.trans (s'.sameRows_addEvent e))⟩

omit h

/-- A call that throws has done nothing. -/
theorem fundingHandler_error {op : FundingOp} {e : Fault}
    (herror : fundingHandler op s = (.error e, s')) : s' = s := by
  cases op <;> simp only [fundingHandler, FundingStore.writeBalance, FundingStore.writePoolLock,
    FundingStore.writeBondLock, FundingStore.writeTransfer] at herror <;> repeat' split at herror
  all_goals simp_all

end Calls

/-! ## Writes that succeed -/

namespace FundingStore

variable {s s₁ : FundingStore} {u : Unit}

theorem writePoolLock_eq_ok {l : PoolFundingLock} :
    s.writePoolLock l = (.ok u, s₁) ↔ ∃ hl hfree, s₁ = s.putPoolLock l hl hfree := by
  unfold writePoolLock
  split_ifs with hfree hl
  · simp [hfree]
  · simp [hfree, hl, eq_comm]
  · simp [hl]

theorem writeBondLock_eq_ok {l : BondLock} :
    s.writeBondLock l = (.ok u, s₁) ↔ ∃ hl, s₁ = s.putBondLock l hl := by
  unfold writeBondLock
  split_ifs with hl
  · simp [hl, eq_comm]
  · simp [hl]

theorem writeTransfer_eq_ok {t : SettlementTransfer} :
    s.writeTransfer t = (.ok u, s₁) ↔ ∃ ht hfree, s₁ = s.putTransfer t ht hfree := by
  unfold writeTransfer
  split_ifs with hfree ht
  · simp [hfree]
  · simp [hfree, ht, eq_comm]
  · simp [ht]

end FundingStore

/-- A record is found alike in stores with the same records. -/
theorem RecordLookup.find_congr (lookup : RecordLookup) {s s' : FundingStore}
    (h : s.SameRecords s') : lookup.find s = lookup.find s' := by
  cases lookup with
  | poolLock lockId => exact congrArg (Finmap.lookup lockId) h.poolLocks
  | bondLock lockId => exact congrArg (Finmap.lookup lockId) h.bondLocks
  | transfer transferId => exact congrArg (Finmap.lookup transferId) h.transfers
  | reference txRef => simp only [find, FundingStore.transferByTxRef, h.transfers]

/-- A transfer found under a reference is stored under its own id and has the reference. -/
theorem FundingStore.transferByTxRef_eq_some {s : FundingStore} {txRef : String}
    {t : SettlementTransfer} (h : s.transferByTxRef txRef = some t) :
    s.transfers.lookup t.transferId = some t ∧ t.txRef = some txRef := by
  obtain ⟨transferId, hrow, hrank⟩ := Table.greatest_eq_some _ h
  constructor
  · rw [(s.transfers_ok _ _ hrow).1]
    exact hrow
  · by_contra hne
    exact hrank (if_neg hne)

/-- With a transfer of a reference stored, one is found. -/
theorem FundingStore.transferByTxRef_ne_none {s : FundingStore} {txRef transferId : String}
    {t : SettlementTransfer} (hrow : s.transfers.lookup transferId = some t)
    (href : t.txRef = some txRef) : s.transferByTxRef txRef ≠ none := by
  intro h
  have hrank := Table.greatest_eq_none _ h hrow
  rw [if_pos href] at hrank
  simp at hrank

/-! ## The parts of a run -/

/-- What a record write does to a store. -/
def RecordWrite.apply (w : RecordWrite) (s : FundingStore) : Except Fault Unit × FundingStore :=
  Program.run fundingHandler w.perform s

section Apply

variable {s s₁ : FundingStore}

theorem apply_insertPoolLock {l : PoolFundingLock} :
    (RecordWrite.insertPoolLock l).apply s = (.ok (), s₁) ↔
      s.poolLocks.lookup l.lockId = none ∧ s.writePoolLock l = (.ok (), s₁) := by
  show fundingHandler (.insertPoolFundingLock l) s = _ ↔ _
  cases hrow : s.poolLocks.lookup l.lockId <;> simp [fundingHandler, hrow]

theorem apply_insertBondLock {l : BondLock} :
    (RecordWrite.insertBondLock l).apply s = (.ok (), s₁) ↔
      s.bondLocks.lookup l.lockId = none ∧ s.writeBondLock l = (.ok (), s₁) := by
  show fundingHandler (.insertBondLock l) s = _ ↔ _
  cases hrow : s.bondLocks.lookup l.lockId <;> simp [fundingHandler, hrow]

theorem apply_insertTransfer {t : SettlementTransfer} :
    (RecordWrite.insertTransfer t).apply s = (.ok (), s₁) ↔
      s.transfers.lookup t.transferId = none ∧ s.writeTransfer t = (.ok (), s₁) := by
  show fundingHandler (.insertTransfer t) s = _ ↔ _
  cases hrow : s.transfers.lookup t.transferId <;> simp [fundingHandler, hrow]

/-- An update rewrites the row that is there and leaves a store without it alone. -/
theorem apply_updatePoolLock (l : PoolFundingLock) :
    (RecordWrite.updatePoolLock l).apply s = match s.poolLocks.lookup l.lockId with
      | none => (.ok (), s)
      | some row => s.writePoolLock (updatedPoolLock row l) := rfl

theorem apply_updateBondLock (l : BondLock) :
    (RecordWrite.updateBondLock l).apply s = match s.bondLocks.lookup l.lockId with
      | none => (.ok (), s)
      | some row => s.writeBondLock (updatedBondLock row l) := rfl

theorem apply_updateTransfer (t : SettlementTransfer) :
    (RecordWrite.updateTransfer t).apply s = match s.transfers.lookup t.transferId with
      | none => (.ok (), s)
      | some row => s.writeTransfer (updatedTransfer row t) := rfl

/-- An inserted lock is valid and is the one found from then on. -/
theorem insertPoolLock_lookup {l : PoolFundingLock}
    (hw : (RecordWrite.insertPoolLock l).apply s = (.ok (), s₁)) :
    l.Valid ∧ s₁.poolLocks = s.poolLocks.insert l.lockId l := by
  obtain ⟨hl, hfree, rfl⟩ :=
    FundingStore.writePoolLock_eq_ok.mp (apply_insertPoolLock.mp hw).2
  exact ⟨hl, rfl⟩

theorem updatePoolLock_lookup {l row : PoolFundingLock}
    (hw : (RecordWrite.updatePoolLock l).apply s = (.ok (), s₁))
    (hrow : s.poolLocks.lookup l.lockId = some row) :
    (updatedPoolLock row l).Valid ∧
      s₁.poolLocks = s.poolLocks.insert l.lockId (updatedPoolLock row l) := by
  rw [apply_updatePoolLock, hrow] at hw
  obtain ⟨hl, hfree, rfl⟩ := FundingStore.writePoolLock_eq_ok.mp hw
  have hid : (updatedPoolLock row l).lockId = l.lockId := (s.poolLocks_ok _ _ hrow).1
  exact ⟨hl, by simp only [FundingStore.putPoolLock, hid]⟩

theorem insertBondLock_lookup {l : BondLock}
    (hw : (RecordWrite.insertBondLock l).apply s = (.ok (), s₁)) :
    l.Valid ∧ s₁.bondLocks = s.bondLocks.insert l.lockId l := by
  obtain ⟨hl, rfl⟩ := FundingStore.writeBondLock_eq_ok.mp (apply_insertBondLock.mp hw).2
  exact ⟨hl, rfl⟩

theorem updateBondLock_lookup {l row : BondLock}
    (hw : (RecordWrite.updateBondLock l).apply s = (.ok (), s₁))
    (hrow : s.bondLocks.lookup l.lockId = some row) :
    (updatedBondLock row l).Valid ∧
      s₁.bondLocks = s.bondLocks.insert l.lockId (updatedBondLock row l) := by
  rw [apply_updateBondLock, hrow] at hw
  obtain ⟨hl, rfl⟩ := FundingStore.writeBondLock_eq_ok.mp hw
  have hid : (updatedBondLock row l).lockId = l.lockId := (s.bondLocks_ok _ _ hrow).1
  exact ⟨hl, by simp only [FundingStore.putBondLock, hid]⟩

theorem insertTransfer_lookup {t : SettlementTransfer}
    (hw : (RecordWrite.insertTransfer t).apply s = (.ok (), s₁)) :
    0 < t.amount ∧ s₁.transfers = s.transfers.insert t.transferId t := by
  obtain ⟨ht, hfree, rfl⟩ := FundingStore.writeTransfer_eq_ok.mp (apply_insertTransfer.mp hw).2
  exact ⟨ht, rfl⟩

theorem updateTransfer_lookup {t row : SettlementTransfer}
    (hw : (RecordWrite.updateTransfer t).apply s = (.ok (), s₁))
    (hrow : s.transfers.lookup t.transferId = some row) :
    s₁.transfers = s.transfers.insert t.transferId (updatedTransfer row t) := by
  rw [apply_updateTransfer, hrow] at hw
  obtain ⟨ht, hfree, rfl⟩ := FundingStore.writeTransfer_eq_ok.mp hw
  have hid : (updatedTransfer row t).transferId = t.transferId := (s.transfers_ok _ _ hrow).1
  simp only [FundingStore.putTransfer, hid]

/-- Writing a record leaves the balances alone. -/
theorem apply_balances {w : RecordWrite} (hw : w.apply s = (.ok (), s₁)) :
    s₁.balances = s.balances := by
  cases w with
  | insertPoolLock l =>
    obtain ⟨-, -, rfl⟩ := FundingStore.writePoolLock_eq_ok.mp (apply_insertPoolLock.mp hw).2
    rfl
  | updatePoolLock l =>
    rw [apply_updatePoolLock] at hw
    cases hrow : s.poolLocks.lookup l.lockId with
    | none => simp_all
    | some row =>
      simp only [hrow] at hw
      obtain ⟨-, -, rfl⟩ := FundingStore.writePoolLock_eq_ok.mp hw
      rfl
  | insertBondLock l =>
    obtain ⟨-, rfl⟩ := FundingStore.writeBondLock_eq_ok.mp (apply_insertBondLock.mp hw).2
    rfl
  | updateBondLock l =>
    rw [apply_updateBondLock] at hw
    cases hrow : s.bondLocks.lookup l.lockId with
    | none => simp_all
    | some row =>
      simp only [hrow] at hw
      obtain ⟨-, rfl⟩ := FundingStore.writeBondLock_eq_ok.mp hw
      rfl
  | insertTransfer t =>
    obtain ⟨-, -, rfl⟩ := FundingStore.writeTransfer_eq_ok.mp (apply_insertTransfer.mp hw).2
    rfl
  | updateTransfer t =>
    rw [apply_updateTransfer] at hw
    cases hrow : s.transfers.lookup t.transferId with
    | none => simp_all
    | some row =>
      simp only [hrow] at hw
      obtain ⟨-, -, rfl⟩ := FundingStore.writeTransfer_eq_ok.mp hw
      rfl

end Apply

/-- A call of a program that throws has done nothing. -/
private theorem run_perform_error {op : FundingOp} {s s' : FundingStore} {e : Fault}
    (h : Program.run fundingHandler (Program.perform op) s = (.error e, s')) : s' = s :=
  fundingHandler_error h

private theorem apply_error {w : RecordWrite} {s s₁ : FundingStore} {e : Fault}
    (hw : w.apply s = (.error e, s₁)) : s₁ = s := by
  cases w <;> exact run_perform_error hw

section Parts

variable (fault : Fault) (s : FundingStore)

private theorem run_readSettlementBalance (userId now : String)
    (f : SettlementBalance → Funding ρ) :
    Program.run fundingHandler (readSettlementBalance userId now >>= f) s =
      Program.run fundingHandler (f (s.balanceAt userId now)) s := (rfl)

@[simp] theorem runFault_readSettlementBalance_zero (userId now : String)
    (f : SettlementBalance → Funding ρ) :
    Program.runFault fundingHandler fault 0 (readSettlementBalance userId now >>= f) s =
      (.error fault, s) := (rfl)

@[simp] theorem callAt_readSettlementBalance_zero (userId now : String)
    (f : SettlementBalance → Funding ρ) :
    Program.callAt fundingHandler 0 (readSettlementBalance userId now >>= f) s =
      some (.getBalance userId) := (rfl)

@[simp] theorem runFault_readSettlementBalance_succ (n : ℕ) (userId now : String)
    (f : SettlementBalance → Funding ρ) :
    Program.runFault fundingHandler fault (n + 1) (readSettlementBalance userId now >>= f) s =
      Program.runFault fundingHandler fault n (f (s.balanceAt userId now)) s := rfl

@[simp] theorem callAt_readSettlementBalance_succ (n : ℕ) (userId now : String)
    (f : SettlementBalance → Funding ρ) :
    Program.callAt fundingHandler (n + 1) (readSettlementBalance userId now >>= f) s =
      Program.callAt fundingHandler n (f (s.balanceAt userId now)) s := rfl

private theorem calls_write (w : RecordWrite) :
    Program.calls fundingHandler w.perform s = 1 := by
  cases w <;> rfl

variable {s} {w : RecordWrite} {s₁ : FundingStore} {u : Unit} {e : Fault}

private theorem run_write (hw : w.apply s = (.ok u, s₁)) (f : Unit → Funding ρ) :
    Program.run fundingHandler (w.perform >>= f) s = Program.run fundingHandler (f ()) s₁ :=
  Program.run_bind_of_ok hw f

private theorem run_write_of_error (hw : w.apply s = (.error e, s₁)) (f : Unit → Funding ρ) :
    Program.run fundingHandler (w.perform >>= f) s = (.error e, s₁) :=
  Program.run_bind_of_error hw f

private theorem runFault_write_zero (w : RecordWrite) (f : Unit → Funding ρ) :
    Program.runFault fundingHandler fault 0 (w.perform >>= f) s = (.error fault, s) := by
  cases w <;> rfl

private theorem runFault_write_succ (n : ℕ) (hw : w.apply s = (.ok u, s₁)) (f : Unit → Funding ρ) :
    Program.runFault fundingHandler fault (n + 1) (w.perform >>= f) s =
      Program.runFault fundingHandler fault n (f ()) s₁ := by
  rw [Program.runFault_bind, calls_write, if_neg (by omega), Nat.add_sub_cancel]
  rw [RecordWrite.apply] at hw
  rw [hw]

private theorem runFault_write_of_error (n : ℕ) (hw : w.apply s = (.error e, s₁))
    (f : Unit → Funding ρ) :
    Program.runFault fundingHandler fault (n + 1) (w.perform >>= f) s = (.error e, s₁) := by
  rw [Program.runFault_bind, calls_write, if_neg (by omega), Nat.add_sub_cancel]
  rw [RecordWrite.apply] at hw
  rw [hw]

private theorem callAt_write_zero (w : RecordWrite) (f : Unit → Funding ρ) :
    Program.callAt fundingHandler 0 (w.perform >>= f) s = some w.op := by
  cases w <;> rfl

private theorem callAt_write_succ (n : ℕ) (hw : w.apply s = (.ok u, s₁)) (f : Unit → Funding ρ) :
    Program.callAt fundingHandler (n + 1) (w.perform >>= f) s =
      Program.callAt fundingHandler n (f ()) s₁ := by
  rw [Program.callAt_bind, calls_write, if_neg (by omega), Nat.add_sub_cancel]
  rw [RecordWrite.apply] at hw
  rw [hw]

private theorem callAt_write_of_error (n : ℕ) (hw : w.apply s = (.error e, s₁))
    (f : Unit → Funding ρ) :
    Program.callAt fundingHandler (n + 1) (w.perform >>= f) s = none := by
  rw [Program.callAt_bind, calls_write, if_neg (by omega), Nat.add_sub_cancel]
  rw [RecordWrite.apply] at hw
  rw [hw]

variable (s)

private theorem run_saveBalance {b : SettlementBalance} (hb : b.Valid) (f : Unit → Funding ρ) :
    Program.run fundingHandler (Funding.saveBalance b >>= f) s =
      Program.run fundingHandler (f ()) (s.putBalance b hb) := by
  rw [Program.run_perform_bind]
  simp only [fundingHandler, FundingStore.writeBalance, dif_pos hb]

private theorem runFault_saveBalance_succ (n : ℕ) {b : SettlementBalance} (hb : b.Valid)
    (f : Unit → Funding ρ) :
    Program.runFault fundingHandler fault (n + 1) (Funding.saveBalance b >>= f) s =
      Program.runFault fundingHandler fault n (f ()) (s.putBalance b hb) := by
  rw [Program.runFault_perform_bind_succ]
  simp only [fundingHandler, FundingStore.writeBalance, dif_pos hb]

private theorem callAt_saveBalance_succ (n : ℕ) {b : SettlementBalance} (hb : b.Valid)
    (f : Unit → Funding ρ) :
    Program.callAt fundingHandler (n + 1) (Funding.saveBalance b >>= f) s =
      Program.callAt fundingHandler n (f ()) (s.putBalance b hb) := by
  rw [Program.callAt_perform_bind_succ]
  simp only [fundingHandler, FundingStore.writeBalance, dif_pos hb]

@[simp] theorem run_appendEvents (result : ρ) (events : List FundingEvent) :
    Program.run fundingHandler (appendEvents result events) s =
      (.ok result, s.addEvents events) := by
  induction events generalizing s with
  | nil => rfl
  | cons e rest ih => exact ih (s.addEvent e)

private theorem runFault_appendEvents (n : ℕ) (result : ρ) (events : List FundingEvent) :
    (Program.runFault fundingHandler fault n (appendEvents result events) s).2.SameRows s := by
  induction events generalizing n s with
  | nil =>
    rw [appendEvents, Program.pure_eq, Program.runFault_done]
    exact FundingStore.SameRows.refl s
  | cons e rest ih =>
    cases n with
    | zero => exact FundingStore.SameRows.refl s
    | succ n => exact (ih (s.addEvent e) n).trans (s.sameRows_addEvent e).symm

private theorem callAt_appendEvents (n : ℕ) (result : ρ) (events : List FundingEvent)
    (b : SettlementBalance) :
    Program.callAt fundingHandler n (appendEvents result events) s ≠ some (.saveBalance b) := by
  induction events generalizing n s with
  | nil => simp [appendEvents]
  | cons e rest ih =>
    cases n with
    | zero => simp [appendEvents, Program.callAt_perform_bind_zero]
    | succ n => exact ih (s.addEvent e) n

end Parts

/-! ## The run of an operation -/

/-- The operation commits a transaction, and `s₁` is the store with its record written. -/
structure FundingOperation.Commits (op : FundingOperation ρ) (clock : String) (s : FundingStore)
    (t : Transaction ρ) (s₁ : FundingStore) : Prop where
  decided : op.decide clock (op.lookup.find s) = .transact t
  funded : t.refuse (s.balanceAt t.userId t.now) = none
  written : t.write.apply s = (.ok (), s₁)

/-- The balance a transaction saves. -/
def Transaction.saved (t : Transaction ρ) (s : FundingStore) : SettlementBalance :=
  t.next (s.balanceAt t.userId t.now)

/-- The balances an operation saves pass the checks of their table. -/
def FundingOperation.SavesValid (op : FundingOperation ρ) : Prop :=
  ∀ clock s t s₁, op.Commits clock s t s₁ → (t.saved s).Valid

private theorem run_program (op : FundingOperation ρ) (clock : String) (s : FundingStore) :
    Program.run fundingHandler (op.program clock) s =
      Program.run fundingHandler (op.decide clock (op.lookup.find s)).program s := by
  obtain ⟨lookup, decide⟩ := op
  cases lookup <;> rfl

private theorem runFault_program_succ (op : FundingOperation ρ) (clock : String) (fault : Fault)
    (n : ℕ) (s : FundingStore) :
    Program.runFault fundingHandler fault (n + 1) (op.program clock) s =
      Program.runFault fundingHandler fault n (op.decide clock (op.lookup.find s)).program s := by
  obtain ⟨lookup, decide⟩ := op
  cases lookup <;> rfl

private theorem callAt_program_succ (op : FundingOperation ρ) (clock : String) (n : ℕ)
    (s : FundingStore) :
    Program.callAt fundingHandler (n + 1) (op.program clock) s =
      Program.callAt fundingHandler n (op.decide clock (op.lookup.find s)).program s := by
  obtain ⟨lookup, decide⟩ := op
  cases lookup <;> rfl

private theorem not_commits {op : FundingOperation ρ} {clock : String} {s : FundingStore}
    (h : ∀ t, op.decide clock (op.lookup.find s) ≠ .transact t) :
    ¬∃ t s₁, op.Commits clock s t s₁ := by
  rintro ⟨t, s₁, hcommits⟩
  exact h t hcommits.decided

/-- The run of a transaction: refused, kept from writing its record, or committed. -/
private theorem run_transaction (t : Transaction ρ) (s : FundingStore) :
    ((t.refuse (s.balanceAt t.userId t.now) ≠ none ∨ ∀ s₁, t.write.apply s ≠ (.ok (), s₁)) ∧
      ∃ e, Program.run fundingHandler t.program s = (.error e, s)) ∨
    ∃ s₁, t.refuse (s.balanceAt t.userId t.now) = none ∧ t.write.apply s = (.ok (), s₁) ∧
      ∀ hb : (t.saved s).Valid, Program.run fundingHandler t.program s =
        (.ok (t.result (s.balanceAt t.userId t.now)),
          (s₁.putBalance (t.saved s) hb).addEvents t.events) := by
  cases hrefuse : t.refuse (s.balanceAt t.userId t.now) with
  | some fault =>
    refine Or.inl ⟨Or.inl (by simp), fault, ?_⟩
    simp only [Transaction.program, run_readSettlementBalance, hrefuse, Program.run_done]
  | none =>
    cases hwrite : t.write.apply s with
    | mk answer s₁ =>
      cases answer with
      | ok u =>
        refine Or.inr ⟨s₁, rfl, rfl, fun hb => ?_⟩
        simp only [Transaction.program, run_readSettlementBalance, hrefuse, Transaction.commit]
        have hb' : (t.next (s.balanceAt t.userId t.now)).Valid := hb
        rw [run_write hwrite, run_saveBalance s₁ hb', run_appendEvents]
        rfl
      | error e =>
        refine Or.inl ⟨Or.inr (by simp), e, ?_⟩
        simp only [Transaction.program, run_readSettlementBalance, hrefuse, Transaction.commit]
        rw [run_write_of_error hwrite, apply_error hwrite]

/-- The two ways a run can end. -/
theorem FundingOperation.run_cases {op : FundingOperation ρ} (hop : op.SavesValid)
    (clock : String) (s : FundingStore) :
    ((¬∃ t s₁, op.Commits clock s t s₁) ∧
      (Program.run fundingHandler (op.program clock) s).2 = s) ∨
    ∃ t s₁, ∃ hb : (t.saved s).Valid, op.Commits clock s t s₁ ∧
      Program.run fundingHandler (op.program clock) s =
        (.ok (t.result (s.balanceAt t.userId t.now)),
          (s₁.putBalance (t.saved s) hb).addEvents t.events) := by
  rw [run_program]
  cases hdecide : op.decide clock (op.lookup.find s) with
  | answer result => exact Or.inl ⟨not_commits (by simp [hdecide]), rfl⟩
  | replay userId now result => exact Or.inl ⟨not_commits (by simp [hdecide]), rfl⟩
  | transact t =>
    rcases run_transaction t s with ⟨hstop, e, hrun⟩ | ⟨s₁, hrefuse, hwrite, hrun⟩
    · refine Or.inl ⟨?_, congrArg Prod.snd hrun⟩
      rintro ⟨t', s₁, hcommits⟩
      obtain rfl := Decision.transact.inj (hdecide.symm.trans hcommits.decided)
      rcases hstop with hrefused | hunwritten
      · exact hrefused hcommits.funded
      · exact hunwritten s₁ hcommits.written
    · have hcommits : op.Commits clock s t s₁ := ⟨hdecide, hrefuse, hwrite⟩
      have hb := hop clock s t s₁ hcommits
      exact Or.inr ⟨t, s₁, hb, hcommits, hrun hb⟩

/-- A transaction that is not committed throws. -/
theorem FundingOperation.run_of_not_commits {op : FundingOperation ρ} {clock : String}
    {s : FundingStore} {t : Transaction ρ}
    (hdecided : op.decide clock (op.lookup.find s) = .transact t)
    (h : ¬∃ s₁, op.Commits clock s t s₁) :
    ∃ e, Program.run fundingHandler (op.program clock) s = (.error e, s) := by
  rw [run_program, hdecided]
  rcases run_transaction t s with ⟨-, hrun⟩ | ⟨s₁, hrefuse, hwrite, -⟩
  · exact hrun
  · exact absurd ⟨s₁, hdecided, hrefuse, hwrite⟩ h

/-! ## Interrupted runs -/

/-- The call of a number, if a run makes one, is a save of a balance. -/
def SavesAt {α : Type} (n : ℕ) (p : Funding α) (s : FundingStore) (b : SettlementBalance) : Prop :=
  Program.callAt fundingHandler n p s = some (.saveBalance b)

/-- A committed transaction saves its balance after the lookup, the read and the record. -/
theorem FundingOperation.Commits.savesAt {op : FundingOperation ρ} {clock : String}
    {s s₁ : FundingStore} {t : Transaction ρ} (h : op.Commits clock s t s₁) :
    SavesAt 3 (op.program clock) s (t.saved s) := by
  rw [SavesAt, callAt_program_succ, h.decided]
  simp only [Decision.program, Transaction.program, callAt_readSettlementBalance_succ, h.funded,
    Transaction.commit]
  rw [callAt_write_succ 0 h.written]
  rfl

/-- Where a fault in a transaction leaves the store. -/
private theorem runFault_transaction (t : Transaction ρ) (fault : Fault) (n : ℕ)
    (s : FundingStore) :
    ((∀ b, ¬SavesAt n t.program s b) ∧
      (Program.runFault fundingHandler fault n t.program s).2 = s) ∨
    ∃ s₁, t.refuse (s.balanceAt t.userId t.now) = none ∧ t.write.apply s = (.ok (), s₁) ∧
      ∀ hb : (t.saved s).Valid,
        (SavesAt n t.program s (t.saved s) ∧
          (Program.runFault fundingHandler fault n t.program s).2 = s₁) ∨
        ((∀ b, ¬SavesAt n t.program s b) ∧
          (Program.runFault fundingHandler fault n t.program s).2.SameRows
            (s₁.putBalance (t.saved s) hb)) := by
  unfold SavesAt Transaction.program
  cases n with
  | zero => exact Or.inl ⟨by simp, by simp⟩
  | succ n =>
    rw [runFault_readSettlementBalance_succ, callAt_readSettlementBalance_succ]
    cases hrefuse : t.refuse (s.balanceAt t.userId t.now) with
    | some fault => exact Or.inl ⟨by simp, by simp⟩
    | none =>
      dsimp only [Transaction.commit]
      cases n with
      | zero =>
        rw [runFault_write_zero, callAt_write_zero]
        refine Or.inl ⟨?_, rfl⟩
        intro b
        cases t.write <;> simp [RecordWrite.op]
      | succ n =>
        cases hwrite : t.write.apply s with
        | mk answer s₁ =>
          cases answer with
          | error e =>
            rw [runFault_write_of_error fault n hwrite, callAt_write_of_error n hwrite]
            exact Or.inl ⟨by simp, apply_error hwrite⟩
          | ok u =>
            rw [runFault_write_succ fault n hwrite, callAt_write_succ n hwrite]
            refine Or.inr ⟨s₁, rfl, rfl, fun hb => ?_⟩
            cases n with
            | zero => exact Or.inl ⟨rfl, rfl⟩
            | succ n =>
              have hb' : (t.next (s.balanceAt t.userId t.now)).Valid := hb
              rw [runFault_saveBalance_succ fault s₁ n hb', callAt_saveBalance_succ s₁ n hb']
              exact Or.inr ⟨callAt_appendEvents _ n _ _, runFault_appendEvents fault _ n _ _⟩

/-- Where a fault leaves the store: as it was, with the record but not the balance, or with
both. -/
theorem FundingOperation.runFault_cases {op : FundingOperation ρ} (hop : op.SavesValid)
    (clock : String) (fault : Fault) (n : ℕ) (s : FundingStore) :
    ((∀ b, ¬SavesAt n (op.program clock) s b) ∧
      (Program.runFault fundingHandler fault n (op.program clock) s).2 = s) ∨
    ∃ t s₁, ∃ hb : (t.saved s).Valid, op.Commits clock s t s₁ ∧
      ((SavesAt n (op.program clock) s (t.saved s) ∧
          (Program.runFault fundingHandler fault n (op.program clock) s).2 = s₁) ∨
        ((∀ b, ¬SavesAt n (op.program clock) s b) ∧
          (Program.runFault fundingHandler fault n (op.program clock) s).2.SameRows
            (s₁.putBalance (t.saved s) hb))) := by
  cases n with
  | zero =>
    refine Or.inl ⟨?_, ?_⟩
    · intro b
      obtain ⟨lookup, decide⟩ := op
      cases lookup <;>
        simp [SavesAt, program, RecordLookup.perform, Program.callAt_perform_bind_zero]
    · obtain ⟨lookup, decide⟩ := op
      cases lookup <;> rfl
  | succ n =>
    unfold SavesAt
    rw [runFault_program_succ, callAt_program_succ]
    cases hdecide : op.decide clock (op.lookup.find s) with
    | answer result => exact Or.inl ⟨by simp [Decision.program], by simp [Decision.program]⟩
    | replay userId now result =>
      refine Or.inl ⟨fun b => ?_, ?_⟩
      · cases n <;> simp [Decision.program]
      · cases n <;> simp [Decision.program]
    | transact t =>
      rcases runFault_transaction t fault n s with h | ⟨s₁, hrefuse, hwrite, hrun⟩
      · exact Or.inl h
      · have hcommits : op.Commits clock s t s₁ := ⟨hdecide, hrefuse, hwrite⟩
        have hb := hop clock s t s₁ hcommits
        exact Or.inr ⟨t, s₁, hb, hcommits, hrun hb⟩

end Yevow.DotCast
