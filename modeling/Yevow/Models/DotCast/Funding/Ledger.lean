import Yevow.Core.JavaScript.Reference
import Yevow.Models.DotCast.Funding.Accounting

/-!
# The books of a run

Requests are served one after the other. As long as every balance they save is a safe
integer and every settled pool agrees with its locks, the balances are what the locks and
transfers say they are: nothing is debited twice, and no clamp at zero hides a debit.
-/

namespace Yevow.DotCast

open JavaScript (Runtime)

variable (js : Runtime)

/-! ## Operations that keep the books -/

/-- Every transaction the operation commits in a store keeps the books if it saves a safe
balance. -/
def FundingOperation.Accounts {ρ : Type} (op : FundingOperation ρ) (s : FundingStore) : Prop :=
  ∀ clock t s₁, op.Commits clock s t s₁ → (t.saved s).Safe js → t.Accounted s s₁

section Operations

variable {js} {s : FundingStore} (hinv : FundingInvariant s)

include hinv

private theorem depositOperation_accounts {env : SettlementRailEnv}
    {input : CreditDevnetDepositInput} {op : FundingOperation TransferResult}
    (h : depositOperation js env input = .ok op) : op.Accounts js s := by
  obtain ⟨checked, -, hok⟩ := Except.bind_eq_ok.mp h
  obtain rfl := Except.ok.inj hok
  rintro clock t s₁ ⟨hdecided, -, hwritten⟩ hsafe
  rcases depositDecision_eq_transact js hdecided with
    ⟨-, rfl⟩ | ⟨existing, hfound, hkind, huser, hamount, hstatus, -, rfl⟩
  · exact deposit_accounted js hinv hwritten hsafe
  · have hrow := (FundingStore.transferByTxRef_eq_some hfound).1
    exact credit_accounted js hinv hrow hkind huser hamount hstatus hwritten hsafe

private theorem withdrawalOperation_accounts {env : SettlementRailEnv}
    {input : RequestDevnetWithdrawalInput} {op : FundingOperation TransferResult}
    (h : withdrawalOperation js env input = .ok op) : op.Accounts js s := by
  obtain ⟨checked, -, hok⟩ := Except.bind_eq_ok.mp h
  obtain rfl := Except.ok.inj hok
  rintro clock t s₁ ⟨hdecided, -, hwritten⟩ hsafe
  obtain ⟨-, rfl⟩ := withdrawalDecision_eq_transact js hdecided
  exact withdrawal_accounted js hinv hwritten hsafe

private theorem confirmationOperation_accounts {env : SettlementRailEnv}
    {input : ConfirmMockWithdrawalInput} {op : FundingOperation TransferResult}
    (h : confirmationOperation js env input = .ok op) : op.Accounts js s := by
  obtain ⟨rail, -, hrest⟩ := Except.bind_eq_ok.mp h
  obtain ⟨transferId, -, hok⟩ := Except.bind_eq_ok.mp hrest
  obtain rfl := Except.ok.inj hok
  rintro clock t s₁ ⟨hdecided, -, hwritten⟩ hsafe
  obtain ⟨transfer, hfound, hkind, hstatus, rfl⟩ := confirmationDecision_eq_transact js hdecided
  have hrow : s.transfers.lookup transfer.transferId = some transfer := by
    rw [(s.transfers_ok _ _ hfound).1]
    exact hfound
  exact confirmation_accounted js hinv hrow hkind hstatus hwritten hsafe

private theorem reservationOperation_accounts {env : UsdcPoolFundingEnv}
    {input : ReserveUsdcPoolEntryInput} {op : FundingOperation PoolFundingResult}
    (h : reservationOperation js env input = .ok op) : op.Accounts js s := by
  obtain ⟨checked, -, hok⟩ := Except.bind_eq_ok.mp h
  obtain rfl := Except.ok.inj hok
  rintro clock t s₁ ⟨hdecided, -, hwritten⟩ hsafe
  obtain ⟨-, rfl⟩ := reservationDecision_eq_transact js hdecided
  exact reservation_accounted js hinv hwritten hsafe

private theorem releaseOperation_accounts {env : UsdcPoolFundingEnv}
    {input : ReleaseUsdcPoolEntryReservationInput} {op : FundingOperation PoolFundingResult}
    (h : releaseOperation js env input = .ok op) : op.Accounts js s := by
  obtain ⟨checked, -, hok⟩ := Except.bind_eq_ok.mp h
  obtain rfl := Except.ok.inj hok
  rintro clock t s₁ ⟨hdecided, -, hwritten⟩ hsafe
  obtain ⟨lock, hfound, huser, hstatus, rfl⟩ := releaseDecision_eq_transact js hdecided
  have hrow : s.poolLocks.lookup lock.lockId = some lock := by
    rw [(s.poolLocks_ok _ _ hfound).1]
    exact hfound
  exact release_accounted js hinv hrow huser hstatus hwritten hsafe

private theorem bondOperation_accounts {env : UsdcPoolFundingEnv} {input : ReserveUsdcBondInput}
    {op : FundingOperation ReserveBondResult} (h : bondOperation js env input = .ok op) :
    op.Accounts js s := by
  obtain ⟨checked, -, hok⟩ := Except.bind_eq_ok.mp h
  obtain rfl := Except.ok.inj hok
  rintro clock t s₁ ⟨hdecided, -, hwritten⟩ hsafe
  obtain ⟨-, rfl⟩ := bondDecision_eq_transact js hdecided
  exact bond_accounted js hinv hwritten hsafe

private theorem bondSettlementOperation_accounts {env : UsdcPoolFundingEnv}
    {input : SettleUsdcBondInput} {op : FundingOperation SettleBondResult}
    (h : bondSettlementOperation js env input = .ok op) : op.Accounts js s := by
  obtain ⟨checked, -, hok⟩ := Except.bind_eq_ok.mp h
  obtain rfl := Except.ok.inj hok
  rintro clock t s₁ ⟨hdecided, -, hwritten⟩ hsafe
  obtain ⟨lock, hfound, hstatus, -, rfl⟩ := bondSettlementDecision_eq_transact js hdecided
  have hrow : s.bondLocks.lookup lock.lockId = some lock := by
    rw [(s.bondLocks_ok _ _ hfound).1]
    exact hfound
  exact bondSettlement_accounted js hinv hrow hstatus hwritten hsafe

end Operations

/-- An entry agrees with the lock stored for it, if there is one. -/
def FundingStore.MatchesEntry (s : FundingStore) (poolId : String) (entry : Entry) : Prop :=
  ∀ lock ∈ s.poolLocks.lookup (poolFundingLockId poolId entry.id),
    lock.userId = entry.userId ∧ lock.amount = entry.amount

instance (s : FundingStore) (poolId : String) (entry : Entry) :
    Decidable (s.MatchesEntry poolId entry) :=
  inferInstanceAs (Decidable (∀ lock ∈ s.poolLocks.lookup (poolFundingLockId poolId entry.id),
    lock.userId = entry.userId ∧ lock.amount = entry.amount))

private theorem fundedEntryOperation_accounts {s : FundingStore} (hinv : FundingInvariant s)
    {poolId now : String} {entry : Entry} (hmatches : s.MatchesEntry poolId entry) :
    (fundedEntryOperation js poolId now entry).Accounts js s := by
  rintro clock t s₁ ⟨hdecided, -, hwritten⟩ hsafe
  obtain ⟨lock, hfound, hstatus, rfl⟩ := fundedEntryDecision_eq_transact js hdecided
  have hrow : s.poolLocks.lookup lock.lockId = some lock := by
    rw [(s.poolLocks_ok _ _ hfound).1]
    exact hfound
  obtain ⟨huser, hamount⟩ := hmatches lock hfound
  exact fundedEntry_accounted js hinv hrow huser hamount hstatus hwritten hsafe

/-! ## Programs that keep the books -/

/-- Every balance a run of a program saves is safe. -/
def SavesSafe {α : Type} (p : Funding α) (s : FundingStore) : Prop :=
  ∀ n b, SavesAt n p s b → b.Safe js

variable {js}

/-- A run of an operation keeps the books. -/
theorem FundingInvariant.operation {ρ : Type} {s : FundingStore} (hinv : FundingInvariant s)
    {op : FundingOperation ρ} (hop : op.SavesValid) (haccounts : op.Accounts js s)
    {clock : String} (hsafe : SavesSafe js (op.program clock) s) :
    FundingInvariant (Program.run fundingHandler (op.program clock) s).2 := by
  rcases FundingOperation.run_cases hop clock s with ⟨-, hrun⟩ | ⟨t, s₁, hb, hcommits, hrun⟩
  · rw [hrun]
    exact hinv
  · have haccounted := haccounts clock t s₁ hcommits (hsafe 3 _ hcommits.savesAt)
    rw [hrun]
    exact hinv.commit hcommits.written haccounted hb t.events

section Sequence

variable {α β : Type} {p : Funding α} {f : α → Funding β} {s s' : FundingStore} {a : α}

private theorem SavesSafe.left (h : SavesSafe js (p >>= f) s) : SavesSafe js p s := by
  intro n b hb
  apply h n b
  have hn : n < Program.calls fundingHandler p s := by
    by_contra hnot
    rw [SavesAt, Program.callAt_eq_none_iff.mpr (not_lt.mp hnot)] at hb
    exact absurd hb (by simp)
  rw [SavesAt, Program.callAt_bind, if_pos hn]
  exact hb

private theorem SavesSafe.right (h : SavesSafe js (p >>= f) s)
    (hrun : Program.run fundingHandler p s = (.ok a, s')) : SavesSafe js (f a) s' := by
  intro n b hb
  apply h (Program.calls fundingHandler p s + n) b
  rw [SavesAt, Program.callAt_bind, if_neg (by omega), hrun, Nat.add_sub_cancel_left]
  exact hb

end Sequence

instance (b : SettlementBalance) : Decidable (b.Safe js) :=
  decidable_of_iff (∀ field ∈ [BalanceField.available, .pendingDeposit, .pendingWithdrawal,
      .lockedPool, .lockedBond], js.arithmetic.isSafeInteger (b.get field) = true)
    ⟨fun h field => h field (by cases field <;> simp), fun h field _ => h field⟩

/-- Only the calls a run makes matter. -/
private theorem savesSafe_iff {α : Type} {p : Funding α} {s : FundingStore} :
    (∀ n < Program.calls fundingHandler p s, ∀ op ∈ Program.callAt fundingHandler n p s,
      match op with
      | .saveBalance b => b.Safe js
      | _ => True) ↔ SavesSafe js p s := by
  constructor
  · intro h n b hb
    have hn : n < Program.calls fundingHandler p s := by
      by_contra hnot
      rw [SavesAt, Program.callAt_eq_none_iff.mpr (not_lt.mp hnot)] at hb
      exact absurd hb (by simp)
    exact h n hn _ hb
  · intro h n _ op hop
    cases op with
    | saveBalance b => exact h n b hop
    | _ => trivial

instance (op : FundingOp) : Decidable (match op with
    | .saveBalance b => b.Safe js
    | _ => True) := by
  cases op <;> infer_instance

instance {α : Type} (p : Funding α) (s : FundingStore) : Decidable (SavesSafe js p s) :=
  decidable_of_iff _ savesSafe_iff

/-! ## The settlement of a pool -/

section Loop

variable {poolId now : String}

/-- Finalizing a lock leaves its user and its amount alone. -/
private theorem matchesEntry_turn {s : FundingStore} (entry : Entry) {other : Entry}
    (h : s.MatchesEntry poolId other) :
    (Program.run fundingHandler (settleFundedEntry js poolId now entry) s).2.MatchesEntry poolId
      other := by
  have hop := fundedEntry_replayable js poolId now entry
  rw [settleFundedEntry_eq js poolId now ""]
  rcases FundingOperation.run_cases hop.savesValid "" s with
    ⟨-, hrun⟩ | ⟨t, s₁, hb, ⟨hdecided, -, hwritten⟩, hrun⟩
  · rw [hrun]
    exact h
  · obtain ⟨lock, hfound, -, rfl⟩ := fundedEntryDecision_eq_transact js hdecided
    have hid := (s.poolLocks_ok _ _ hfound).1
    have hrow : s.poolLocks.lookup lock.lockId = some lock := by
      rw [hid]
      exact hfound
    have hlookup := (updatePoolLock_lookup hwritten hrow).2
    intro lock' hlock'
    rw [hrun, ← (FundingStore.sameRows_addEvents _ _).poolLocks, FundingStore.putBalance, hlookup,
      Option.mem_def, Table.lookup_insert] at hlock'
    split_ifs at hlock' with hother
    · obtain rfl := Option.some.inj hlock'
      exact h lock (by rw [Option.mem_def, hother]; exact hrow)
    · exact h lock' hlock'

/-- A turn keeps the books. -/
private theorem FundingInvariant.turn {s : FundingStore} (hinv : FundingInvariant s)
    {entry : Entry} (hmatches : s.MatchesEntry poolId entry)
    (hsafe : SavesSafe js (settleFundedEntry js poolId now entry) s) :
    FundingInvariant (Program.run fundingHandler (settleFundedEntry js poolId now entry) s).2 := by
  rw [settleFundedEntry_eq js poolId now ""] at hsafe ⊢
  exact hinv.operation (fundedEntry_replayable js poolId now entry).savesValid
    (fundedEntryOperation_accounts js hinv hmatches) hsafe

/-- The loop keeps the books, whether it comes to its end or stops at a throw. -/
private theorem FundingInvariant.loop {s : FundingStore} (hinv : FundingInvariant s)
    (entries : List Entry) (counts : ℕ × ℕ)
    (hmatches : ∀ entry ∈ entries, entry.funding = .user → s.MatchesEntry poolId entry)
    (hsafe : SavesSafe js (settleFundedEntries js poolId now entries counts) s) :
    FundingInvariant
      (Program.run fundingHandler (settleFundedEntries js poolId now entries counts) s).2 := by
  induction entries generalizing counts s with
  | nil => exact hinv
  | cons entry rest ih =>
    obtain ⟨applied, idempotent⟩ := counts
    by_cases huser : entry.funding ≠ .user
    · simp only [settleFundedEntries, if_pos huser] at hsafe ⊢
      exact ih hinv _ (fun e he => hmatches e (List.mem_cons_of_mem entry he)) hsafe
    · have hentry := hmatches entry (List.mem_cons_self ..) (not_not.mp huser)
      simp only [settleFundedEntries, if_neg huser] at hsafe ⊢
      have hturn := hinv.turn hentry hsafe.left
      have hrest : ∀ e ∈ rest, e.funding = .user →
          (Program.run fundingHandler (settleFundedEntry js poolId now entry) s).2.MatchesEntry
            poolId e :=
        fun e he hfunding => matchesEntry_turn entry (hmatches e (List.mem_cons_of_mem entry he)
          hfunding)
      cases hrun : Program.run fundingHandler (settleFundedEntry js poolId now entry) s with
      | mk answer s' =>
        rw [hrun] at hturn hrest
        cases answer with
        | ok finalized =>
          rw [Program.run_bind_of_ok hrun]
          exact ih hturn _ hrest (hsafe.right hrun)
        | error e =>
          rw [Program.run_bind_of_error hrun]
          exact hturn

end Loop

/-! ## Requests -/

/-- The entries a request settles agree with their locks. -/
def FundingRequest.Matches (s : FundingStore) : FundingRequest → Prop
  | .settlePool snapshot _ =>
    ∀ entry ∈ snapshot.entries, entry.funding = .user → s.MatchesEntry snapshot.pool.id entry
  | .settleEntry poolId _ entry => s.MatchesEntry poolId entry
  | _ => True

private theorem FundingInvariant.checked {ρ : Type} {s : FundingStore} (hinv : FundingInvariant s)
    {op : Except Fault (FundingOperation ρ)} {clock : String}
    (hop : ∀ {checked}, op = .ok checked → checked.Replayable ∧ checked.Accounts js s)
    (hsafe : SavesSafe js (checkedProgram op clock >>= fun _ => Program.done (.ok ())) s) :
    FundingInvariant (Program.run fundingHandler
      (checkedProgram op clock >>= fun _ => Program.done (.ok ())) s).2 := by
  rw [Program.run_bind_done]
  cases op with
  | error e => exact hinv
  | ok checked =>
    obtain ⟨hreplayable, haccounts⟩ := hop rfl
    exact hinv.operation hreplayable.savesValid haccounts hsafe.left

/-- A request keeps the books. -/
theorem FundingInvariant.request {s : FundingStore} (hinv : FundingInvariant s)
    {env : UsdcPoolFundingEnv} {clock : String} {request : FundingRequest}
    (hmatches : request.Matches s) (hsafe : SavesSafe js (request.program js env clock) s) :
    FundingInvariant (Program.run fundingHandler (request.program js env clock) s).2 := by
  cases request with
  | creditDeposit input =>
    simp only [FundingRequest.program, creditDevnetDeposit_eq] at hsafe ⊢
    exact hinv.checked
      (fun h => ⟨depositOperation_replayable h, depositOperation_accounts hinv h⟩) hsafe
  | requestWithdrawal input =>
    simp only [FundingRequest.program, requestDevnetWithdrawal_eq] at hsafe ⊢
    exact hinv.checked
      (fun h => ⟨withdrawalOperation_replayable h, withdrawalOperation_accounts hinv h⟩) hsafe
  | confirmWithdrawal input =>
    simp only [FundingRequest.program, confirmMockWithdrawal_eq] at hsafe ⊢
    exact hinv.checked
      (fun h => ⟨confirmationOperation_replayable h, confirmationOperation_accounts hinv h⟩) hsafe
  | reserveEntry input =>
    simp only [FundingRequest.program, reserveUsdcPoolEntry_eq] at hsafe ⊢
    exact hinv.checked
      (fun h => ⟨reservationOperation_replayable h, reservationOperation_accounts hinv h⟩) hsafe
  | releaseEntry input =>
    simp only [FundingRequest.program, releaseUsdcPoolEntryReservation_eq] at hsafe ⊢
    exact hinv.checked
      (fun h => ⟨releaseOperation_replayable h, releaseOperation_accounts hinv h⟩) hsafe
  | reserveBond input =>
    simp only [FundingRequest.program, reserveUsdcBond_eq] at hsafe ⊢
    exact hinv.checked
      (fun h => ⟨bondOperation_replayable h, bondOperation_accounts hinv h⟩) hsafe
  | settleBond input =>
    simp only [FundingRequest.program, settleUsdcBond_eq] at hsafe ⊢
    exact hinv.checked
      (fun h => ⟨bondSettlementOperation_replayable h, bondSettlementOperation_accounts hinv h⟩)
      hsafe
  | settleEntry poolId now entry =>
    simp only [FundingRequest.program, Program.pure_eq, Program.run_bind_done] at hsafe ⊢
    exact hinv.turn hmatches hsafe.left
  | settlePool snapshot now =>
    simp only [FundingRequest.program, applyUsdcPoolTerminalSettlement, Program.pure_eq,
      Program.run_bind_done] at hsafe ⊢
    cases hfunding : assertUsdcPoolFundingReady js env with
    | error e => exact hinv
    | ok funding =>
      rw [hfunding] at hsafe
      simp only [Funding.check, Program.ok_bind] at hsafe ⊢
      split_ifs at hsafe ⊢
      · exact hinv
      · rw [Program.run_bind_done]
        exact hinv.loop snapshot.entries (0, 0) hmatches hsafe.left.left
      · exact hinv

/-! ## Runs -/

/-- The stores sequential requests lead to from an empty one, each request allowed in the
store it is made in. -/
inductive FundingStore.Reachable (js : Runtime)
    (Allowed : UsdcPoolFundingEnv → String → FundingRequest → FundingStore → Prop) :
    FundingStore → Prop
  | empty : Reachable js Allowed .empty
  | step {s : FundingStore} (env : UsdcPoolFundingEnv) (clock : String)
      (request : FundingRequest) : Reachable js Allowed s → Allowed env clock request s →
      Reachable js Allowed (Program.run fundingHandler (request.program js env clock) s).2

/-- Settled entries agree with their locks. -/
def AllowsMatching (_ : UsdcPoolFundingEnv) (_ : String) (request : FundingRequest)
    (s : FundingStore) : Prop :=
  request.Matches s

/-- Settled entries agree with their locks and every balance saved is safe. -/
def AllowsSafe (js : Runtime) (env : UsdcPoolFundingEnv) (clock : String)
    (request : FundingRequest) (s : FundingStore) : Prop :=
  request.Matches s ∧ SavesSafe js (request.program js env clock) s

/-- Every run of safe requests keeps the books. -/
theorem FundingStore.Reachable.invariant {s : FundingStore} (h : s.Reachable js (AllowsSafe js)) :
    FundingInvariant s := by
  induction h with
  | empty => exact .empty
  | step env clock request _ hallowed ih => exact ih.request hallowed.1 hallowed.2

/-! ## Totals of a user's records -/

namespace FundingStore

variable (s : FundingStore) (userId : String)

/-- A quantity summed over a user's pool locks. -/
def poolLockTotal (f : PoolFundingLock → ℤ) : ℤ :=
  Table.total (fun _ l => if l.userId = userId then f l else 0) s.poolLocks

/-- A total over the bonds of a user. -/
def bondLockTotal (f : BondLock → ℤ) : ℤ :=
  Table.total (fun _ l => if l.ownerId = userId then f l else 0) s.bondLocks

/-- A total over the transfers of a user. -/
def transferTotal (f : SettlementTransfer → ℤ) : ℤ :=
  Table.total (fun _ t => if t.userId = userId then f t else 0) s.transfers

/-- What a user has locked in pools. -/
def lockedPoolTotal : ℤ :=
  s.poolLockTotal userId fun l => if l.status = .locked then l.amount else 0

/-- What a user has locked in bonds. -/
def lockedBondTotal : ℤ :=
  s.bondLockTotal userId fun l => if l.status = .locked then l.amount else 0

/-- The sum of a user's transfers of a kind in a status. -/
def transferred (kind : TransferKind) (status : TransferStatus) : ℤ :=
  s.transferTotal userId fun t => if t.kind = kind ∧ t.status = status then t.amount else 0

/-- What ended pools paid a user beyond the stakes. -/
def poolGain : ℤ :=
  s.poolLockTotal userId fun l =>
    if l.status = .settled ∨ l.status = .refunded then l.payout.getD 0 - l.amount else 0

/-- What ended bonds returned to a user beyond the amounts locked. -/
def bondGain : ℤ :=
  s.bondLockTotal userId fun l => if l.status ≠ .locked then l.credit - l.amount else 0

private theorem poolShares_eq_zero {field : BalanceField} (havailable : field ≠ .available)
    (hlocked : field ≠ .lockedPool) :
    Table.total (fun _ => PoolFundingLock.share userId field) s.poolLocks = 0 := by
  refine Table.total_eq_zero fun lockId l _ => ?_
  cases field <;> simp_all [PoolFundingLock.share, PoolFundingLock.contribution]

private theorem bondShares_eq_zero {field : BalanceField} (havailable : field ≠ .available)
    (hlocked : field ≠ .lockedBond) :
    Table.total (fun _ => BondLock.share userId field) s.bondLocks = 0 := by
  refine Table.total_eq_zero fun lockId l _ => ?_
  cases field <;> simp_all [BondLock.share, BondLock.contribution]

private theorem transferShares_eq_zero {field : BalanceField}
    (hlocked : field = .lockedPool ∨ field = .lockedBond) :
    Table.total (fun _ => SettlementTransfer.share userId field) s.transfers = 0 := by
  refine Table.total_eq_zero fun transferId t _ => ?_
  rcases hlocked with rfl | rfl <;>
    simp [SettlementTransfer.share, SettlementTransfer.contribution]

private theorem ledger_lockedPool : s.ledger userId .lockedPool = s.lockedPoolTotal userId := by
  rw [ledger, bondShares_eq_zero s userId (by simp) (by simp),
    transferShares_eq_zero s userId (Or.inl rfl), add_zero, add_zero]
  rfl

private theorem ledger_lockedBond : s.ledger userId .lockedBond = s.lockedBondTotal userId := by
  rw [ledger, poolShares_eq_zero s userId (by simp) (by simp),
    transferShares_eq_zero s userId (Or.inr rfl), add_zero, zero_add]
  rfl

private theorem ledger_pendingDeposit :
    s.ledger userId .pendingDeposit = s.transferred userId .deposit .observed := by
  rw [ledger, poolShares_eq_zero s userId (by simp) (by simp),
    bondShares_eq_zero s userId (by simp) (by simp), add_zero, zero_add]
  rfl

private theorem ledger_pendingWithdrawal :
    s.ledger userId .pendingWithdrawal = s.transferred userId .withdrawal .signed := by
  rw [ledger, poolShares_eq_zero s userId (by simp) (by simp),
    bondShares_eq_zero s userId (by simp) (by simp), add_zero, zero_add]
  rfl

private theorem poolShares_available :
    Table.total (fun _ => PoolFundingLock.share userId .available) s.poolLocks =
      s.poolGain userId - s.lockedPoolTotal userId := by
  rw [poolGain, lockedPoolTotal, poolLockTotal, poolLockTotal, ← Table.total_sub]
  refine Table.total_congr fun lockId l _ => ?_
  unfold PoolFundingLock.share PoolFundingLock.contribution
  by_cases huser : l.userId = userId
  · cases hstatus : l.status <;> simp [huser]
  · simp [huser]

private theorem bondShares_available :
    Table.total (fun _ => BondLock.share userId .available) s.bondLocks =
      s.bondGain userId - s.lockedBondTotal userId := by
  rw [bondGain, lockedBondTotal, bondLockTotal, bondLockTotal, ← Table.total_sub]
  refine Table.total_congr fun lockId l _ => ?_
  unfold BondLock.share BondLock.contribution
  by_cases huser : l.ownerId = userId
  · by_cases hlocked : l.status = .locked <;> simp [huser, hlocked]
  · simp [huser]

private theorem transferShares_available
    (hregular : ∀ transferId t, s.transfers.lookup transferId = some t → t.Regular) :
    Table.total (fun _ => SettlementTransfer.share userId .available) s.transfers =
      s.transferred userId .deposit .credited - s.transferred userId .withdrawal .confirmed -
        s.transferred userId .withdrawal .signed := by
  rw [transferred, transferred, transferred, transferTotal, transferTotal, transferTotal,
    ← Table.total_sub, ← Table.total_sub]
  refine Table.total_congr fun transferId t ht => ?_
  unfold SettlementTransfer.share SettlementTransfer.contribution
  by_cases huser : t.userId = userId
  · rcases hregular transferId t ht with ⟨hkind, hstatus | hstatus⟩ | ⟨hkind, hstatus | hstatus⟩
    all_goals simp [huser, hkind, hstatus]
  · simp [huser]

end FundingStore

/-! ## The balances of a run -/

/-- The balances of every run are what the records of their users say, all of their fields are
non-negative, and no clamp at zero ever hides a debit: it is the value that is clamped. -/
theorem reachable_balances_account {s : FundingStore} (h : s.Reachable js (AllowsSafe js))
    (userId now : String) :
    let balance := s.balanceAt userId now
    balance.lockedPoolUsdc = s.lockedPoolTotal userId ∧
    balance.lockedBondUsdc = s.lockedBondTotal userId ∧
    balance.pendingWithdrawalUsdc = s.transferred userId .withdrawal .signed ∧
    balance.pendingDepositUsdc = s.transferred userId .deposit .observed ∧
    (0 ≤ balance.availableUsdc ∧ 0 ≤ balance.pendingDepositUsdc ∧
      0 ≤ balance.pendingWithdrawalUsdc ∧ 0 ≤ balance.lockedPoolUsdc ∧
        0 ≤ balance.lockedBondUsdc) ∧
    ((∀ lockId l, s.poolLocks.lookup lockId = some l → l.userId = userId → l.status = .locked →
        max 0 (js.arithmetic.integer (balance.lockedPoolUsdc - l.amount)) =
          js.arithmetic.integer (balance.lockedPoolUsdc - l.amount)) ∧
      (∀ lockId l, s.bondLocks.lookup lockId = some l → l.ownerId = userId → l.status = .locked →
        max 0 (js.arithmetic.integer (balance.lockedBondUsdc - l.amount)) =
          js.arithmetic.integer (balance.lockedBondUsdc - l.amount)) ∧
      (∀ transferId t, s.transfers.lookup transferId = some t → t.userId = userId →
        t.kind = .deposit → t.status ≠ .credited →
          max 0 (js.arithmetic.integer (balance.pendingDepositUsdc - t.amount)) =
            js.arithmetic.integer (balance.pendingDepositUsdc - t.amount)) ∧
      (∀ transferId t, s.transfers.lookup transferId = some t → t.userId = userId →
        t.kind = .withdrawal → t.status ≠ .confirmed →
          max 0 (js.arithmetic.integer (balance.pendingWithdrawalUsdc - t.amount)) =
            js.arithmetic.integer (balance.pendingWithdrawalUsdc - t.amount))) ∧
    balance.availableUsdc + balance.pendingWithdrawalUsdc + balance.lockedPoolUsdc +
        balance.lockedBondUsdc =
      s.transferred userId .deposit .credited - s.transferred userId .withdrawal .confirmed +
        s.poolGain userId + s.bondGain userId := by
  have hinv := h.invariant
  have hvalid := s.balanceAt_valid userId now
  have hbalanced := hinv.balanced userId now
  have hpool : (s.balanceAt userId now).lockedPoolUsdc = s.lockedPoolTotal userId :=
    (hbalanced .lockedPool).trans (s.ledger_lockedPool userId)
  have hbond : (s.balanceAt userId now).lockedBondUsdc = s.lockedBondTotal userId :=
    (hbalanced .lockedBond).trans (s.ledger_lockedBond userId)
  have hwithdrawal : (s.balanceAt userId now).pendingWithdrawalUsdc =
      s.transferred userId .withdrawal .signed :=
    (hbalanced .pendingWithdrawal).trans (s.ledger_pendingWithdrawal userId)
  have hdeposit : (s.balanceAt userId now).pendingDepositUsdc =
      s.transferred userId .deposit .observed :=
    (hbalanced .pendingDeposit).trans (s.ledger_pendingDeposit userId)
  have havailable : (s.balanceAt userId now).availableUsdc = s.ledger userId .available :=
    hbalanced .available
  rw [FundingStore.ledger, s.poolShares_available, s.bondShares_available,
    s.transferShares_available userId hinv.regular] at havailable
  -- a share is part of a non-negative sum, so what is clamped is not negative
  have hclamp : ∀ (field : BalanceField) (amount : ℤ), amount ≤ s.ledger userId field →
      max 0 (js.arithmetic.integer ((s.balanceAt userId now).get field - amount)) =
        js.arithmetic.integer ((s.balanceAt userId now).get field - amount) := by
    intro field amount hle
    rw [hbalanced field]
    exact max_eq_right (js.arithmetic.integer_nonneg (sub_nonneg.mpr hle))
  refine ⟨hpool, hbond, hwithdrawal, hdeposit, ⟨hvalid.available, hvalid.pendingDeposit,
    hvalid.pendingWithdrawal, hvalid.lockedPool, hvalid.lockedBond⟩, ⟨?_, ?_, ?_, ?_⟩, ?_⟩
  · intro lockId l hl huser hstatus
    refine hclamp .lockedPool _ ?_
    have hle :=
      s.poolLock_share_le_ledger userId (show BalanceField.lockedPool ≠ .available by simp) hl
    rwa [PoolFundingLock.share, if_pos huser, PoolFundingLock.contribution, if_pos hstatus] at hle
  · intro lockId l hl huser hstatus
    refine hclamp .lockedBond _ ?_
    have hle :=
      s.bondLock_share_le_ledger userId (show BalanceField.lockedBond ≠ .available by simp) hl
    rwa [BondLock.share, if_pos huser, BondLock.contribution, if_pos hstatus] at hle
  · intro transferId t ht huser hkind hstatus
    refine hclamp .pendingDeposit _ ?_
    have hle :=
      s.transfer_share_le_ledger userId (show BalanceField.pendingDeposit ≠ .available by simp) ht
    have hobserved : t.status = .observed := by
      have hregular := hinv.regular transferId t ht
      simp_all [SettlementTransfer.Regular]
    rwa [SettlementTransfer.share, if_pos huser, SettlementTransfer.contribution,
      if_pos ⟨hkind, hobserved⟩] at hle
  · intro transferId t ht huser hkind hstatus
    refine hclamp .pendingWithdrawal _ ?_
    have hle := s.transfer_share_le_ledger userId
      (show BalanceField.pendingWithdrawal ≠ .available by simp) ht
    have hsigned : t.status = .signed := by
      have hregular := hinv.regular transferId t ht
      simp_all [SettlementTransfer.Regular]
    rwa [SettlementTransfer.share, if_pos huser, SettlementTransfer.contribution,
      if_pos ⟨hkind, hsigned⟩] at hle
  · omega

private def depositOfHundred : FundingRequest := .creditDeposit ⟨"u", 100, "a", 64, none⟩

private def stakeOfForty : FundingRequest := .reserveEntry ⟨"p", "e", "u", 40, none⟩

private def depositedStore : FundingStore :=
  (Program.run fundingHandler
    (depositOfHundred.program (JavaScript.reference .double) devnetEnv "t") .empty).2

/-- A user with 100 units who has put 40 of them in a pool. -/
private def stakedStore : FundingStore :=
  (Program.run fundingHandler
    (stakeOfForty.program (JavaScript.reference .double) devnetEnv "t") depositedStore).2

theorem reachable_balances_account_reserved :
    (stakedStore.balanceAt "u" "t").lockedPoolUsdc = stakedStore.lockedPoolTotal "u" ∧
      stakedStore.lockedPoolTotal "u" = 40 := by
  have hcredited : depositedStore.Reachable (JavaScript.reference .double)
      (AllowsSafe (JavaScript.reference .double)) := by
    refine .step devnetEnv "t" depositOfHundred .empty ⟨trivial, ?_⟩
    decide +kernel
  have hreserved : stakedStore.Reachable (JavaScript.reference .double)
      (AllowsSafe (JavaScript.reference .double)) := by
    refine .step devnetEnv "t" stakeOfForty hcredited ⟨trivial, ?_⟩
    decide +kernel
  exact ⟨(reachable_balances_account hreserved "u" "t").1, by decide +kernel⟩

/-! ## Two runs that do not add up -/

/-- The store a list of requests leads to from an empty one. -/
private def served (requests : List FundingRequest) : FundingStore :=
  requests.foldl (fun s request => (Program.run fundingHandler
    (request.program (JavaScript.reference .double) devnetEnv "t") s).2) .empty

private theorem served_reachable {requests : List FundingRequest} {s : FundingStore}
    {Allowed : UsdcPoolFundingEnv → String → FundingRequest → FundingStore → Prop}
    (hs : s.Reachable (JavaScript.reference .double) Allowed)
    (hallowed : ∀ request ∈ requests, ∀ s, Allowed devnetEnv "t" request s) :
    (requests.foldl (fun s request => (Program.run fundingHandler
      (request.program (JavaScript.reference .double) devnetEnv "t") s).2) s).Reachable
        (JavaScript.reference .double) Allowed := by
  induction requests generalizing s with
  | nil => exact hs
  | cons request rest ih =>
    exact ih (.step devnetEnv "t" request hs (hallowed request (List.mem_cons_self ..) s))
      fun r hr => hallowed r (List.mem_cons_of_mem request hr)

/-- Deposits whose sum no double holds. -/
private def hugeDeposits : List FundingRequest :=
  [.creditDeposit ⟨"u", 9007199254740991, "a", 0, none⟩,
    .creditDeposit ⟨"u", 9007199254740991, "b", 0, none⟩, .creditDeposit ⟨"u", 3, "c", 0, none⟩]

private def slashedBond : List FundingRequest :=
  [.creditDeposit ⟨"u", 100, "a", 64, none⟩,
    .reserveBond ⟨"b", .resolutionChallenge, "u", 40, none, none, none, none, none, none⟩,
    .settleBond ⟨"b", .slash, "late", none, none, false⟩]

/-- A pending balance is a rounded sum once the deposits pass the safe integers, and a slashed
bond leaves its owner with less than was deposited and not withdrawn. -/
theorem balances_not_deposits :
    (¬∀ s : FundingStore, s.Reachable (JavaScript.reference .double) AllowsMatching →
      ∀ userId now, (s.balanceAt userId now).pendingDepositUsdc =
        s.transferred userId .deposit .observed) ∧
    ¬∀ s : FundingStore, s.Reachable (JavaScript.reference .double) AllowsMatching →
      ∀ userId now, (s.balanceAt userId now).availableUsdc +
          (s.balanceAt userId now).pendingWithdrawalUsdc +
          (s.balanceAt userId now).lockedPoolUsdc + (s.balanceAt userId now).lockedBondUsdc =
        s.transferred userId .deposit .credited - s.transferred userId .withdrawal .confirmed := by
  constructor
  · intro h
    have hreachable : (served hugeDeposits).Reachable (JavaScript.reference .double)
        AllowsMatching :=
      served_reachable .empty fun request hrequest s => by
        simp only [hugeDeposits, List.mem_cons, List.not_mem_nil, or_false] at hrequest
        rcases hrequest with rfl | rfl | rfl <;> trivial
    have hsum := h _ hreachable "u" "t"
    revert hsum
    decide +kernel
  · intro h
    have hreachable : (served slashedBond).Reachable (JavaScript.reference .double)
        AllowsMatching :=
      served_reachable .empty fun request hrequest s => by
        simp only [slashedBond, List.mem_cons, List.not_mem_nil, or_false] at hrequest
        rcases hrequest with rfl | rfl | rfl <;> trivial
    have hsum := h _ hreachable "u" "t"
    revert hsum
    decide +kernel

end Yevow.DotCast
