import Mathlib.Order.Lattice.Nat
import Yevow.Core.Effect.Program
import Yevow.Models.DotCast.Types

/-!
# The funding store

Settlement balances, the locks of stakes and bonds, and the transfers of the rail, each a
table with the checks of its schema. A store carries the proof that its rows pass them; a
write that would break one is refused and changes nothing. Every call is atomic.
-/

namespace Yevow.DotCast

/-- An error with the code and HTTP status some of its classes carry. -/
structure Fault where
  message : String
  code : Option String
  status : Option ℕ
  deriving DecidableEq

/-- A plain `Error`. -/
def Fault.plain (message : String) : Fault := ⟨message, none, none⟩

/-! ## Rows -/

/-- The money of a user. -/
structure SettlementBalance where
  userId : String
  availableUsdc : ℤ
  pendingDepositUsdc : ℤ
  pendingWithdrawalUsdc : ℤ
  lockedPoolUsdc : ℤ
  lockedBondUsdc : ℤ
  updatedAt : String
  deriving DecidableEq

/-- No part of a balance is negative. -/
structure SettlementBalance.Valid (b : SettlementBalance) : Prop where
  available : 0 ≤ b.availableUsdc
  pendingDeposit : 0 ≤ b.pendingDepositUsdc
  pendingWithdrawal : 0 ≤ b.pendingWithdrawalUsdc
  lockedPool : 0 ≤ b.lockedPoolUsdc
  lockedBond : 0 ≤ b.lockedBondUsdc

instance (b : SettlementBalance) : Decidable b.Valid :=
  decidable_of_iff (0 ≤ b.availableUsdc ∧ 0 ≤ b.pendingDepositUsdc ∧ 0 ≤ b.pendingWithdrawalUsdc ∧
    0 ≤ b.lockedPoolUsdc ∧ 0 ≤ b.lockedBondUsdc)
    ⟨fun ⟨h₁, h₂, h₃, h₄, h₅⟩ => ⟨h₁, h₂, h₃, h₄, h₅⟩, fun ⟨h₁, h₂, h₃, h₄, h₅⟩ =>
      ⟨h₁, h₂, h₃, h₄, h₅⟩⟩

/-- What became of a pool lock. -/
inductive PoolFundingLockStatus
  | locked
  | released
  | settled
  | refunded
  deriving DecidableEq, Repr

/-- Money locked for an entry. -/
structure PoolFundingLock where
  lockId : String
  poolId : String
  entryId : String
  userId : String
  amount : ℤ
  status : PoolFundingLockStatus
  payout : Option ℤ
  createdAt : String
  updatedAt : String
  deriving DecidableEq

/-- A pool lock passes the checks of its table. -/
structure PoolFundingLock.Valid (l : PoolFundingLock) : Prop where
  amount : 0 < l.amount
  payout : 0 ≤ l.payout.getD 0

instance (l : PoolFundingLock) : Decidable l.Valid :=
  decidable_of_iff (0 < l.amount ∧ 0 ≤ l.payout.getD 0)
    ⟨fun ⟨h₁, h₂⟩ => ⟨h₁, h₂⟩, fun ⟨h₁, h₂⟩ => ⟨h₁, h₂⟩⟩

/-- What a bond stands for. -/
inductive BondPurpose
  | resolutionChallenge
  | resolverAssignment
  deriving DecidableEq, Repr

/-- What became of a bond. -/
inductive BondLockStatus
  | locked
  | released
  | slashed
  deriving DecidableEq, Repr

/-- Money locked as a bond. -/
structure BondLock where
  lockId : String
  purpose : BondPurpose
  ownerId : String
  routeId : Option String
  poolId : Option String
  panelId : Option String
  assignmentId : Option String
  challengeId : Option String
  amount : ℤ
  status : BondLockStatus
  credit : ℤ
  createdAt : String
  updatedAt : String
  deriving DecidableEq

/-- A bond lock passes the checks of its table. -/
structure BondLock.Valid (l : BondLock) : Prop where
  amount : 0 < l.amount
  credit : 0 ≤ l.credit

instance (l : BondLock) : Decidable l.Valid :=
  decidable_of_iff (0 < l.amount ∧ 0 ≤ l.credit)
    ⟨fun ⟨h₁, h₂⟩ => ⟨h₁, h₂⟩, fun ⟨h₁, h₂⟩ => ⟨h₁, h₂⟩⟩

inductive Network
  | solanaDevnet
  | solanaMainnetBeta
  deriving DecidableEq, Repr

inductive Cluster
  | devnet
  | mainnetBeta
  deriving DecidableEq, Repr

inductive SignerMode
  | mock
  | external
  | unknown
  deriving DecidableEq, Repr

/-- Whether money comes or goes. -/
inductive TransferKind
  | deposit
  | withdrawal
  deriving DecidableEq, Repr

/-- How far a transfer has come. -/
inductive TransferStatus
  | observed
  | credited
  | reorged
  | requested
  | signed
  | confirmed
  | failed
  deriving DecidableEq, Repr

/-- A deposit or a withdrawal. -/
structure SettlementTransfer where
  transferId : String
  userId : String
  kind : TransferKind
  status : TransferStatus
  network : Network
  cluster : Cluster
  mint : String
  amount : ℤ
  txRef : Option String
  destination : Option String
  signerMode : SignerMode
  mockSignature : Option String
  requestedAt : String
  updatedAt : String
  deriving DecidableEq

/-- The append-only tables events go to. -/
inductive EventTable
  | rail
  | pool
  | bond
  deriving DecidableEq, Repr

/-- An event in the ledger. -/
structure FundingEvent where
  table : EventTable
  eventId : String
  userId : String
  eventType : String
  amount : ℤ
  createdAt : String
  deriving DecidableEq

/-! ## Calls -/

/-- The calls of the funding functions. -/
inductive FundingOp
  | getBalance (userId : String)
  | saveBalance (balance : SettlementBalance)
  | getPoolFundingLock (lockId : String)
  | insertPoolFundingLock (lock : PoolFundingLock)
  | updatePoolFundingLock (lock : PoolFundingLock)
  | getBondLock (lockId : String)
  | insertBondLock (lock : BondLock)
  | updateBondLock (lock : BondLock)
  | getTransfer (transferId : String)
  | getTransferByTxRef (txRef : String)
  | insertTransfer (transfer : SettlementTransfer)
  | updateTransfer (transfer : SettlementTransfer)
  | appendEvent (event : FundingEvent)
  deriving DecidableEq

/-- What a call returns. -/
abbrev FundingOp.Ret : FundingOp → Type
  | .getBalance _ => Option SettlementBalance
  | .getPoolFundingLock _ => Option PoolFundingLock
  | .getBondLock _ => Option BondLock
  | .getTransfer _ => Option SettlementTransfer
  | .getTransferByTxRef _ => Option SettlementTransfer
  | _ => Unit

/-- A program over the funding store. -/
abbrev Funding (α : Type) : Type := Program FundingOp FundingOp.Ret Fault α

namespace Funding

abbrev getBalance (userId : String) : Funding (Option SettlementBalance) :=
  Program.perform (FundingOp.getBalance userId)

abbrev saveBalance (balance : SettlementBalance) : Funding Unit :=
  Program.perform (FundingOp.saveBalance balance)

abbrev getPoolFundingLock (lockId : String) : Funding (Option PoolFundingLock) :=
  Program.perform (FundingOp.getPoolFundingLock lockId)

abbrev insertPoolFundingLock (lock : PoolFundingLock) : Funding Unit :=
  Program.perform (FundingOp.insertPoolFundingLock lock)

abbrev updatePoolFundingLock (lock : PoolFundingLock) : Funding Unit :=
  Program.perform (FundingOp.updatePoolFundingLock lock)

abbrev getBondLock (lockId : String) : Funding (Option BondLock) :=
  Program.perform (FundingOp.getBondLock lockId)

abbrev insertBondLock (lock : BondLock) : Funding Unit :=
  Program.perform (FundingOp.insertBondLock lock)

abbrev updateBondLock (lock : BondLock) : Funding Unit :=
  Program.perform (FundingOp.updateBondLock lock)

abbrev getTransfer (transferId : String) : Funding (Option SettlementTransfer) :=
  Program.perform (FundingOp.getTransfer transferId)

abbrev getTransferByTxRef (txRef : String) : Funding (Option SettlementTransfer) :=
  Program.perform (FundingOp.getTransferByTxRef txRef)

abbrev insertTransfer (transfer : SettlementTransfer) : Funding Unit :=
  Program.perform (FundingOp.insertTransfer transfer)

abbrev updateTransfer (transfer : SettlementTransfer) : Funding Unit :=
  Program.perform (FundingOp.updateTransfer transfer)

abbrev appendEvent (event : FundingEvent) : Funding Unit :=
  Program.perform (FundingOp.appendEvent event)

/-- A check that may throw before any call is made. -/
abbrev check {α : Type} (result : Except Fault α) : Funding α := .done result

/-- `throw`. -/
abbrev fail {α : Type} (fault : Fault) : Funding α := .done (.error fault)

end Funding

/-! ## Stores -/

/-- A key is taken. -/
def uniqueFault : Fault := .plain "UNIQUE constraint failed"

/-- A row breaks its check. -/
def checkFault : Fault := .plain "CHECK constraint failed"

/-- The tables of funding. -/
structure FundingStore where
  balances : Table String SettlementBalance
  poolLocks : Table String PoolFundingLock
  bondLocks : Table String BondLock
  transfers : Table String SettlementTransfer
  events : Table (EventTable × String) FundingEvent
  balances_ok : ∀ userId b, balances.lookup userId = some b → b.userId = userId ∧ b.Valid
  poolLocks_ok : ∀ lockId l, poolLocks.lookup lockId = some l → l.lockId = lockId ∧ l.Valid
  bondLocks_ok : ∀ lockId l, bondLocks.lookup lockId = some l → l.lockId = lockId ∧ l.Valid
  transfers_ok : ∀ transferId t, transfers.lookup transferId = some t →
    t.transferId = transferId ∧ 0 < t.amount
  entries_unique : ∀ lockId l lockId' l', poolLocks.lookup lockId = some l →
    poolLocks.lookup lockId' = some l' → l.poolId = l'.poolId → l.entryId = l'.entryId →
      lockId = lockId'
  deposits_unique : ∀ transferId t transferId' t', transfers.lookup transferId = some t →
    transfers.lookup transferId' = some t' → t.kind = .deposit → t'.kind = .deposit →
      t.txRef ≠ none → t.txRef = t'.txRef → transferId = transferId'

namespace FundingStore

/-- The store with no rows. -/
def empty : FundingStore where
  balances := ∅
  poolLocks := ∅
  bondLocks := ∅
  transfers := ∅
  events := ∅
  balances_ok := by simp
  poolLocks_ok := by simp
  bondLocks_ok := by simp
  transfers_ok := by simp
  entries_unique := by simp
  deposits_unique := by simp

/-- Another lock is stored for the same pool entry. -/
def EntryTaken (s : FundingStore) (l : PoolFundingLock) : Prop :=
  ∃ row ∈ s.poolLocks.entries,
    row.1 ≠ l.lockId ∧ row.2.poolId = l.poolId ∧ row.2.entryId = l.entryId

instance (s : FundingStore) (l : PoolFundingLock) : Decidable (s.EntryTaken l) :=
  Multiset.decidableExistsMultiset

/-- The transfer is a deposit and another deposit is stored with its reference. -/
def DepositTaken (s : FundingStore) (t : SettlementTransfer) : Prop :=
  t.kind = .deposit ∧ t.txRef ≠ none ∧ ∃ row ∈ s.transfers.entries,
    row.1 ≠ t.transferId ∧ row.2.kind = .deposit ∧ row.2.txRef = t.txRef

instance (s : FundingStore) (t : SettlementTransfer) : Decidable (s.DepositTaken t) :=
  have : Decidable (∃ row ∈ s.transfers.entries,
      row.1 ≠ t.transferId ∧ row.2.kind = .deposit ∧ row.2.txRef = t.txRef) :=
    Multiset.decidableExistsMultiset
  instDecidableAnd

private theorem not_entryTaken {s : FundingStore} {l : PoolFundingLock} (h : ¬s.EntryTaken l)
    {lockId : String} {row : PoolFundingLock} (hrow : s.poolLocks.lookup lockId = some row)
    (hpool : row.poolId = l.poolId) (hentry : row.entryId = l.entryId) : lockId = l.lockId := by
  by_contra hne
  exact h ⟨⟨lockId, row⟩, Finmap.lookup_eq_some_iff.mp hrow, hne, hpool, hentry⟩

private theorem not_depositTaken {s : FundingStore} {t : SettlementTransfer}
    (h : ¬s.DepositTaken t) (hkind : t.kind = .deposit) (href : t.txRef ≠ none)
    {transferId : String} {row : SettlementTransfer}
    (hrow : s.transfers.lookup transferId = some row) (hrowKind : row.kind = .deposit)
    (heq : row.txRef = t.txRef) : transferId = t.transferId := by
  by_contra hne
  exact h ⟨hkind, href, ⟨transferId, row⟩, Finmap.lookup_eq_some_iff.mp hrow, hne, hrowKind, heq⟩

private theorem insert_ok {β : Type} {m : Table String β} {P : String → β → Prop}
    (hm : ∀ k v, m.lookup k = some v → P k v) {key : String} {row : β} (hrow : P key row) :
    ∀ k v, Finmap.lookup k (m.insert key row) = some v → P k v := by
  intro k v hk
  rw [Table.lookup_insert] at hk
  split_ifs at hk with he
  · obtain rfl := Option.some.inj hk
    rw [he]
    exact hrow
  · exact hm k v hk

/-- A key that only one row of a table may have stays so under a row that takes no other's. -/
private theorem insert_unique {β : Type} {m : Table String β} {R : β → β → Prop}
    (hsymm : ∀ v v', R v v' → R v' v)
    (hm : ∀ k v k' v', m.lookup k = some v → m.lookup k' = some v' → R v v' → k = k')
    {key : String} {row : β} (hrow : ∀ k v, m.lookup k = some v → R v row → k = key) :
    ∀ k v k' v', Finmap.lookup k (m.insert key row) = some v →
      Finmap.lookup k' (m.insert key row) = some v' → R v v' → k = k' := by
  intro k v k' v' hk hk' hR
  rw [Table.lookup_insert] at hk hk'
  split_ifs at hk hk' with he he'
  · rw [he, he']
  · obtain rfl := Option.some.inj hk
    rw [he]
    exact (hrow k' v' hk' (hsymm _ _ hR)).symm
  · obtain rfl := Option.some.inj hk'
    rw [‹k' = key›]
    exact hrow k v hk hR
  · exact hm k v k' v' hk hk' hR

def putBalance (s : FundingStore) (b : SettlementBalance) (hb : b.Valid) : FundingStore :=
  { s with
    balances := s.balances.insert b.userId b
    balances_ok := insert_ok s.balances_ok ⟨rfl, hb⟩ }

def putPoolLock (s : FundingStore) (l : PoolFundingLock) (hl : l.Valid) (hfree : ¬s.EntryTaken l) :
    FundingStore :=
  { s with
    poolLocks := s.poolLocks.insert l.lockId l
    poolLocks_ok := insert_ok s.poolLocks_ok ⟨rfl, hl⟩
    entries_unique := by
      have h := insert_unique (R := fun v v' => v.poolId = v'.poolId ∧ v.entryId = v'.entryId)
        (fun _ _ h => ⟨h.1.symm, h.2.symm⟩)
        (fun k v k' v' hk hk' hR => s.entries_unique k v k' v' hk hk' hR.1 hR.2)
        (fun k v hk hR => not_entryTaken hfree hk hR.1 hR.2)
      exact fun k v k' v' hk hk' hpool hentry => h k v k' v' hk hk' ⟨hpool, hentry⟩ }

def putBondLock (s : FundingStore) (l : BondLock) (hl : l.Valid) : FundingStore :=
  { s with
    bondLocks := s.bondLocks.insert l.lockId l
    bondLocks_ok := insert_ok s.bondLocks_ok ⟨rfl, hl⟩ }

def putTransfer (s : FundingStore) (t : SettlementTransfer) (ht : 0 < t.amount)
    (hfree : ¬s.DepositTaken t) : FundingStore :=
  { s with
    transfers := s.transfers.insert t.transferId t
    transfers_ok := insert_ok s.transfers_ok ⟨rfl, ht⟩
    deposits_unique := by
      have h := insert_unique (R := fun v v' => v.kind = .deposit ∧ v'.kind = .deposit ∧
          v.txRef ≠ none ∧ v.txRef = v'.txRef)
        (fun _ _ h => ⟨h.2.1, h.1, h.2.2.2 ▸ h.2.2.1, h.2.2.2.symm⟩)
        (fun k v k' v' hk hk' hR =>
          s.deposits_unique k v k' v' hk hk' hR.1 hR.2.1 hR.2.2.1 hR.2.2.2)
        (fun k v hk hR => not_depositTaken hfree hR.2.1 (hR.2.2.2 ▸ hR.2.2.1) hk hR.1 hR.2.2.2)
      exact fun k v k' v' hk hk' h₁ h₂ h₃ h₄ => h k v k' v' hk hk' ⟨h₁, h₂, h₃, h₄⟩ }

/-! ### Writes with the checks of the schema -/

/-- A balance is written if it is valid. -/
def writeBalance (s : FundingStore) (b : SettlementBalance) : Except Fault Unit × FundingStore :=
  if hb : b.Valid then (.ok (), s.putBalance b hb) else (.error checkFault, s)

/-- A pool lock is written if it is valid. -/
def writePoolLock (s : FundingStore) (l : PoolFundingLock) : Except Fault Unit × FundingStore :=
  if hfree : s.EntryTaken l then (.error uniqueFault, s)
  else if hl : l.Valid then (.ok (), s.putPoolLock l hl hfree)
  else (.error checkFault, s)

/-- A bond lock is written if it is valid. -/
def writeBondLock (s : FundingStore) (l : BondLock) : Except Fault Unit × FundingStore :=
  if hl : l.Valid then (.ok (), s.putBondLock l hl) else (.error checkFault, s)

/-- A transfer is written if it is valid. -/
def writeTransfer (s : FundingStore) (t : SettlementTransfer) :
    Except Fault Unit × FundingStore :=
  if hfree : s.DepositTaken t then (.error uniqueFault, s)
  else if ht : 0 < t.amount then (.ok (), s.putTransfer t ht hfree)
  else (.error checkFault, s)

/-- `INSERT OR IGNORE`: an event already recorded stays. -/
def addEvent (s : FundingStore) (e : FundingEvent) : FundingStore :=
  { s with
    events := if (s.events.lookup (e.table, e.eventId)).isSome then s.events
      else s.events.insert (e.table, e.eventId) e }

/-- The transfer last updated among those with a reference. -/
def transferByTxRef (s : FundingStore) (txRef : String) : Option SettlementTransfer :=
  s.transfers.greatest fun t => if t.txRef = some txRef then some t.updatedAt else none

end FundingStore

/-- The row `UPDATE … WHERE lock_id = ?` leaves: the columns it sets are the lock's. -/
def updatedPoolLock (row l : PoolFundingLock) : PoolFundingLock :=
  { row with status := l.status, payout := l.payout, updatedAt := l.updatedAt }

def updatedBondLock (row l : BondLock) : BondLock :=
  { row with status := l.status, credit := l.credit, updatedAt := l.updatedAt }

def updatedTransfer (row t : SettlementTransfer) : SettlementTransfer :=
  { row with
    status := t.status
    txRef := t.txRef
    destination := t.destination
    signerMode := t.signerMode
    mockSignature := t.mockSignature
    updatedAt := t.updatedAt }

/-- What each call does to the store; an `UPDATE` of a row that is not there does nothing. -/
def fundingHandler : Handler FundingOp FundingOp.Ret Fault FundingStore
  | .getBalance userId, s => (.ok (s.balances.lookup userId), s)
  | .saveBalance b, s => s.writeBalance b
  | .getPoolFundingLock lockId, s => (.ok (s.poolLocks.lookup lockId), s)
  | .insertPoolFundingLock l, s =>
    if (s.poolLocks.lookup l.lockId).isSome then (.error uniqueFault, s) else s.writePoolLock l
  | .updatePoolFundingLock l, s =>
    match s.poolLocks.lookup l.lockId with
    | none => (.ok (), s)
    | some row => s.writePoolLock (updatedPoolLock row l)
  | .getBondLock lockId, s => (.ok (s.bondLocks.lookup lockId), s)
  | .insertBondLock l, s =>
    if (s.bondLocks.lookup l.lockId).isSome then (.error uniqueFault, s) else s.writeBondLock l
  | .updateBondLock l, s =>
    match s.bondLocks.lookup l.lockId with
    | none => (.ok (), s)
    | some row => s.writeBondLock (updatedBondLock row l)
  | .getTransfer transferId, s => (.ok (s.transfers.lookup transferId), s)
  | .getTransferByTxRef txRef, s => (.ok (s.transferByTxRef txRef), s)
  | .insertTransfer t, s =>
    if (s.transfers.lookup t.transferId).isSome then (.error uniqueFault, s) else s.writeTransfer t
  | .updateTransfer t, s =>
    match s.transfers.lookup t.transferId with
    | none => (.ok (), s)
    | some row => s.writeTransfer (updatedTransfer row t)
  | .appendEvent e, s => (.ok (), s.addEvent e)

end Yevow.DotCast
