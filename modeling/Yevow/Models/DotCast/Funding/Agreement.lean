import Yevow.Models.DotCast.Funding.Execution

/-!
# Stores that agree up to timestamps

Two runs of one operation read the clock at different times. Apart from that they do the
same: they write records and balances that differ in their timestamps alone.
-/

namespace Yevow.DotCast

variable {ρ : Type}

def SettlementBalance.timeless (b : SettlementBalance) : SettlementBalance :=
  { b with updatedAt := "" }

def PoolFundingLock.timeless (l : PoolFundingLock) : PoolFundingLock :=
  { l with createdAt := "", updatedAt := "" }

def BondLock.timeless (l : BondLock) : BondLock :=
  { l with createdAt := "", updatedAt := "" }

def SettlementTransfer.timeless (t : SettlementTransfer) : SettlementTransfer :=
  { t with requestedAt := "", updatedAt := "" }

theorem SettlementBalance.timeless_inj {b b' : SettlementBalance} :
    b.timeless = b'.timeless ↔ b.userId = b'.userId ∧ b.availableUsdc = b'.availableUsdc ∧
      b.pendingDepositUsdc = b'.pendingDepositUsdc ∧
        b.pendingWithdrawalUsdc = b'.pendingWithdrawalUsdc ∧
          b.lockedPoolUsdc = b'.lockedPoolUsdc ∧ b.lockedBondUsdc = b'.lockedBondUsdc := by
  simp [timeless]

private theorem PoolFundingLock.timeless_inj {l l' : PoolFundingLock} :
    l.timeless = l'.timeless ↔ l.lockId = l'.lockId ∧ l.poolId = l'.poolId ∧
      l.entryId = l'.entryId ∧ l.userId = l'.userId ∧ l.amount = l'.amount ∧
        l.status = l'.status ∧ l.payout = l'.payout := by
  simp [timeless]

private theorem BondLock.timeless_inj {l l' : BondLock} :
    l.timeless = l'.timeless ↔ l.lockId = l'.lockId ∧ l.purpose = l'.purpose ∧
      l.ownerId = l'.ownerId ∧ l.routeId = l'.routeId ∧ l.poolId = l'.poolId ∧
        l.panelId = l'.panelId ∧ l.assignmentId = l'.assignmentId ∧
          l.challengeId = l'.challengeId ∧ l.amount = l'.amount ∧ l.status = l'.status ∧
            l.credit = l'.credit := by
  simp [timeless]

private theorem SettlementTransfer.timeless_inj {t t' : SettlementTransfer} :
    t.timeless = t'.timeless ↔ t.transferId = t'.transferId ∧ t.userId = t'.userId ∧
      t.kind = t'.kind ∧ t.status = t'.status ∧ t.network = t'.network ∧
        t.cluster = t'.cluster ∧ t.mint = t'.mint ∧ t.amount = t'.amount ∧ t.txRef = t'.txRef ∧
          t.destination = t'.destination ∧ t.signerMode = t'.signerMode ∧
            t.mockSignature = t'.mockSignature := by
  simp [timeless]

/-- The same balances, locks and transfers, timestamps aside. -/
structure FundingStore.Agree (s s' : FundingStore) : Prop where
  balances : ∀ userId, (s.balances.lookup userId).map SettlementBalance.timeless =
    (s'.balances.lookup userId).map SettlementBalance.timeless
  poolLocks : ∀ lockId, (s.poolLocks.lookup lockId).map PoolFundingLock.timeless =
    (s'.poolLocks.lookup lockId).map PoolFundingLock.timeless
  bondLocks : ∀ lockId, (s.bondLocks.lookup lockId).map BondLock.timeless =
    (s'.bondLocks.lookup lockId).map BondLock.timeless
  transfers : ∀ transferId, (s.transfers.lookup transferId).map SettlementTransfer.timeless =
    (s'.transfers.lookup transferId).map SettlementTransfer.timeless

namespace FundingStore

theorem Agree.trans {s s' s'' : FundingStore} (h : s.Agree s') (h' : s'.Agree s'') :
    s.Agree s'' :=
  ⟨fun k => (h.balances k).trans (h'.balances k), fun k => (h.poolLocks k).trans (h'.poolLocks k),
    fun k => (h.bondLocks k).trans (h'.bondLocks k),
    fun k => (h.transfers k).trans (h'.transfers k)⟩

/-- Stores with the same rows agree. -/
theorem SameRows.agree {s s' : FundingStore} (h : s.SameRows s') : s.Agree s' := by
  constructor
  · intro k
    rw [h.balances]
  · intro k
    rw [h.poolLocks]
  · intro k
    rw [h.bondLocks]
  · intro k
    rw [h.transfers]

private theorem map_lookup_insert {β γ : Type} {f : β → γ} {m m' : Table String β}
    (hm : ∀ k, (m.lookup k).map f = (m'.lookup k).map f) {key : String} {v v' : β}
    (hv : f v = f v') (k : String) :
    (Finmap.lookup k (m.insert key v)).map f = (Finmap.lookup k (m'.insert key v')).map f := by
  rw [Table.lookup_insert, Table.lookup_insert]
  split_ifs
  · rw [Option.map_some, Option.map_some, hv]
  · exact hm k

variable {s s' : FundingStore} (h : s.Agree s')

include h

theorem Agree.putBalance {b b' : SettlementBalance} (ht : b.timeless = b'.timeless)
    (hb : b.Valid) (hb' : b'.Valid) : (s.putBalance b hb).Agree (s'.putBalance b' hb') := by
  have hid := (SettlementBalance.timeless_inj.mp ht).1
  refine ⟨?_, h.poolLocks, h.bondLocks, h.transfers⟩
  simp only [FundingStore.putBalance, hid]
  exact map_lookup_insert h.balances ht

omit h

/-- Saving a balance makes no difference exactly when the stored one is the same already. -/
theorem agree_putBalance_iff {b : SettlementBalance} (hb : b.Valid) :
    s.Agree (s.putBalance b hb) ↔
      (s.balances.lookup b.userId).map SettlementBalance.timeless = some b.timeless := by
  constructor
  · intro hagree
    rw [hagree.balances b.userId, putBalance, Table.lookup_insert, if_pos rfl, Option.map_some]
  · intro hrow
    refine ⟨fun userId => ?_, fun _ => rfl, fun _ => rfl, fun _ => rfl⟩
    rw [putBalance, Table.lookup_insert]
    split_ifs with hid
    · rw [hid, hrow, Option.map_some]
    · rfl

/-- Writing a lock with other timestamps succeeds alike. -/
private theorem writePoolLock_alike {l l' : PoolFundingLock} (ht : l.timeless = l'.timeless)
    {s₁ : FundingStore} (hw : s.writePoolLock l = (.ok (), s₁)) :
    ∃ s₁', s.writePoolLock l' = (.ok (), s₁') ∧ s₁.Agree s₁' := by
  obtain ⟨hl, hfree, rfl⟩ := writePoolLock_eq_ok.mp hw
  obtain ⟨hid, hpool, hentry, -, hamount, -, hpayout⟩ := PoolFundingLock.timeless_inj.mp ht
  have hl' : l'.Valid := ⟨hamount ▸ hl.amount, hpayout ▸ hl.payout⟩
  have hfree' : ¬s.EntryTaken l' := by
    unfold EntryTaken at hfree ⊢
    rwa [← hid, ← hpool, ← hentry]
  refine ⟨_, writePoolLock_eq_ok.mpr ⟨hl', hfree', rfl⟩, fun _ => rfl, ?_, fun _ => rfl, fun _ =>
    rfl⟩
  simp only [putPoolLock, hid]
  exact map_lookup_insert (fun _ => rfl) ht

private theorem writeBondLock_alike {l l' : BondLock} (ht : l.timeless = l'.timeless)
    {s₁ : FundingStore} (hw : s.writeBondLock l = (.ok (), s₁)) :
    ∃ s₁', s.writeBondLock l' = (.ok (), s₁') ∧ s₁.Agree s₁' := by
  obtain ⟨hl, rfl⟩ := writeBondLock_eq_ok.mp hw
  obtain ⟨hid, -, -, -, -, -, -, -, hamount, -, hcredit⟩ := BondLock.timeless_inj.mp ht
  have hl' : l'.Valid := ⟨hamount ▸ hl.amount, hcredit ▸ hl.credit⟩
  refine ⟨_, writeBondLock_eq_ok.mpr ⟨hl', rfl⟩, fun _ => rfl, fun _ => rfl, ?_, fun _ => rfl⟩
  simp only [putBondLock, hid]
  exact map_lookup_insert (fun _ => rfl) ht

private theorem writeTransfer_alike {t t' : SettlementTransfer} (ht : t.timeless = t'.timeless)
    {s₁ : FundingStore} (hw : s.writeTransfer t = (.ok (), s₁)) :
    ∃ s₁', s.writeTransfer t' = (.ok (), s₁') ∧ s₁.Agree s₁' := by
  obtain ⟨hamount, hfree, rfl⟩ := writeTransfer_eq_ok.mp hw
  obtain ⟨hid, -, hkind, -, -, -, -, heq, href, -⟩ := SettlementTransfer.timeless_inj.mp ht
  have hfree' : ¬s.DepositTaken t' := by
    unfold DepositTaken at hfree ⊢
    rwa [← hid, ← hkind, ← href]
  refine ⟨_, writeTransfer_eq_ok.mpr ⟨heq ▸ hamount, hfree', rfl⟩, fun _ => rfl, fun _ => rfl,
    fun _ => rfl, ?_⟩
  simp only [putTransfer, hid]
  exact map_lookup_insert (fun _ => rfl) ht

end FundingStore

/-! ## Transactions that differ in their timestamps -/

/-- The same write with other timestamps. -/
inductive RecordWrite.Alike : RecordWrite → RecordWrite → Prop
  | insertPoolLock {l l'} (h : l.timeless = l'.timeless) :
    Alike (.insertPoolLock l) (.insertPoolLock l')
  | updatePoolLock {l l'} (h : l.timeless = l'.timeless) :
    Alike (.updatePoolLock l) (.updatePoolLock l')
  | insertBondLock {l l'} (h : l.timeless = l'.timeless) :
    Alike (.insertBondLock l) (.insertBondLock l')
  | updateBondLock {l l'} (h : l.timeless = l'.timeless) :
    Alike (.updateBondLock l) (.updateBondLock l')
  | insertTransfer {t t'} (h : t.timeless = t'.timeless) :
    Alike (.insertTransfer t) (.insertTransfer t')
  | updateTransfer {t t'} (h : t.timeless = t'.timeless) :
    Alike (.updateTransfer t) (.updateTransfer t')

/-- Writes that differ in their timestamps succeed together and leave stores that agree. -/
theorem RecordWrite.Alike.apply {w w' : RecordWrite} (h : w.Alike w') {s s₁ : FundingStore}
    (hw : w.apply s = (.ok (), s₁)) : ∃ s₁', w'.apply s = (.ok (), s₁') ∧ s₁.Agree s₁' := by
  cases h with
  | insertPoolLock ht =>
    have hid := (PoolFundingLock.timeless_inj.mp ht).1
    obtain ⟨hnone, hwrite⟩ := apply_insertPoolLock.mp hw
    obtain ⟨s₁', hwrite', hagree⟩ := FundingStore.writePoolLock_alike ht hwrite
    exact ⟨s₁', apply_insertPoolLock.mpr ⟨hid ▸ hnone, hwrite'⟩, hagree⟩
  | @updatePoolLock l l' ht =>
    obtain ⟨hid, -, -, -, -, hstatus, hpayout⟩ := PoolFundingLock.timeless_inj.mp ht
    rw [apply_updatePoolLock] at hw ⊢
    rw [← hid]
    cases hrow : s.poolLocks.lookup l.lockId with
    | none =>
      simp only [hrow] at hw ⊢
      exact ⟨s, rfl, (Prod.mk.inj hw).2 ▸ (FundingStore.SameRows.refl s).agree⟩
    | some row =>
      simp only [hrow] at hw ⊢
      refine FundingStore.writePoolLock_alike ?_ hw
      simp only [updatedPoolLock, PoolFundingLock.timeless, hstatus, hpayout]
  | insertBondLock ht =>
    have hid := (BondLock.timeless_inj.mp ht).1
    obtain ⟨hnone, hwrite⟩ := apply_insertBondLock.mp hw
    obtain ⟨s₁', hwrite', hagree⟩ := FundingStore.writeBondLock_alike ht hwrite
    exact ⟨s₁', apply_insertBondLock.mpr ⟨hid ▸ hnone, hwrite'⟩, hagree⟩
  | @updateBondLock l l' ht =>
    obtain ⟨hid, -, -, -, -, -, -, -, -, hstatus, hcredit⟩ := BondLock.timeless_inj.mp ht
    rw [apply_updateBondLock] at hw ⊢
    rw [← hid]
    cases hrow : s.bondLocks.lookup l.lockId with
    | none =>
      simp only [hrow] at hw ⊢
      exact ⟨s, rfl, (Prod.mk.inj hw).2 ▸ (FundingStore.SameRows.refl s).agree⟩
    | some row =>
      simp only [hrow] at hw ⊢
      refine FundingStore.writeBondLock_alike ?_ hw
      simp only [updatedBondLock, BondLock.timeless, hstatus, hcredit]
  | insertTransfer ht =>
    have hid := (SettlementTransfer.timeless_inj.mp ht).1
    obtain ⟨hnone, hwrite⟩ := apply_insertTransfer.mp hw
    obtain ⟨s₁', hwrite', hagree⟩ := FundingStore.writeTransfer_alike ht hwrite
    exact ⟨s₁', apply_insertTransfer.mpr ⟨hid ▸ hnone, hwrite'⟩, hagree⟩
  | @updateTransfer t t' ht =>
    obtain ⟨hid, -, -, hstatus, -, -, -, -, href, hdestination, hsigner, hsignature⟩ :=
      SettlementTransfer.timeless_inj.mp ht
    rw [apply_updateTransfer] at hw ⊢
    rw [← hid]
    cases hrow : s.transfers.lookup t.transferId with
    | none =>
      simp only [hrow] at hw ⊢
      exact ⟨s, rfl, (Prod.mk.inj hw).2 ▸ (FundingStore.SameRows.refl s).agree⟩
    | some row =>
      simp only [hrow] at hw ⊢
      refine FundingStore.writeTransfer_alike ?_ hw
      simp only [updatedTransfer, SettlementTransfer.timeless, hstatus, href, hdestination,
        hsigner, hsignature]

/-- The same transaction at another time. -/
structure Transaction.Alike (t t' : Transaction ρ) : Prop where
  userId : t.userId = t'.userId
  write : t.write.Alike t'.write
  refuse : ∀ b b', b.timeless = b'.timeless → t.refuse b = t'.refuse b'
  next : ∀ b b', b.timeless = b'.timeless → (t.next b).timeless = (t'.next b').timeless

private theorem FundingStore.balanceAt_timeless (s : FundingStore) (userId now now' : String) :
    (s.balanceAt userId now).timeless = (s.balanceAt userId now').timeless := by
  unfold FundingStore.balanceAt
  cases s.balances.lookup userId with
  | none => rfl
  | some row => rfl

/-- Whatever record is found, the operation decides the same at any time. -/
def FundingOperation.Steady (op : FundingOperation ρ) : Prop :=
  ∀ clock clock' found t, op.decide clock found = .transact t →
    ∃ t', op.decide clock' found = .transact t' ∧ t.Alike t'

/-- What a steady operation commits at one time it commits at any other. -/
theorem FundingOperation.Steady.commits {op : FundingOperation ρ} (hop : op.Steady)
    {clock : String} (clock' : String) {s s₁ : FundingStore} {t : Transaction ρ}
    (h : op.Commits clock s t s₁) :
    ∃ t' s₁', op.Commits clock' s t' s₁' ∧ s₁.Agree s₁' ∧
      (t.saved s).timeless = (t'.saved s).timeless := by
  obtain ⟨t', hdecided, halike⟩ := hop clock clock' _ t h.decided
  obtain ⟨s₁', hwritten, hagree⟩ := halike.write.apply h.written
  have hb : (s.balanceAt t.userId t.now).timeless = (s.balanceAt t'.userId t'.now).timeless := by
    rw [← halike.userId]
    exact s.balanceAt_timeless t.userId t.now t'.now
  exact ⟨t', s₁', ⟨hdecided, (halike.refuse _ _ hb) ▸ h.funded, hwritten⟩, hagree,
    halike.next _ _ hb⟩

end Yevow.DotCast
