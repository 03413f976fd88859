import Yevow.Core.JavaScript.Reference
import Yevow.Models.DotCast.Funding.Recovery

/-!
# Retrying a request

A request that fails at one store call is made again. The retry ends as an undisturbed run
would have, timestamps aside, unless the call that failed was the save of a balance: then
the record says the transaction was made, and the retry only replays it.
-/

namespace Yevow.DotCast

open JavaScript (Runtime)

variable (js : Runtime)

/-! ## The settlement of a whole pool -/

section Loop

variable (poolId now : String)

/-- The lock of an entry is final. -/
def FundingStore.Finalized (poolId : String) (s : FundingStore) (entry : Entry) : Prop :=
  ∃ lock, s.poolLocks.lookup (poolFundingLockId poolId entry.id) = some lock ∧
    lock.status ≠ .locked

private theorem FundingStore.SameRecords.finalized {poolId : String} {s s' : FundingStore}
    (h : s.SameRecords s') {entry : Entry} (hs : s.Finalized poolId entry) :
    s'.Finalized poolId entry := by
  obtain ⟨lock, hlock, hstatus⟩ := hs
  exact ⟨lock, h.poolLocks ▸ hlock, hstatus⟩

/-- A turn for an entry whose lock is final does nothing. -/
theorem run_settleFundedEntry_of_finalized {poolId : String} {s : FundingStore} {entry : Entry}
    (h : s.Finalized poolId entry) :
    Program.run fundingHandler (settleFundedEntry js poolId now entry) s = (.ok false, s) := by
  obtain ⟨lock, hlock, hstatus⟩ := h
  rw [settleFundedEntry_eq js poolId now ""]
  simp [fundedEntryOperation, FundingOperation.program, RecordLookup.perform,
    Program.run_perform_bind, fundingHandler, hlock, fundedEntryDecision, hstatus,
    Decision.program]

/-- The record a turn writes is final, and no final lock is written. -/
private theorem Commits.finalized {poolId now clock : String} {s s₁ : FundingStore}
    {t : Transaction Bool}
    {entry : Entry} (h : (fundedEntryOperation js poolId now entry).Commits clock s t s₁) :
    s₁.Finalized poolId entry ∧
      ∀ other, s.Finalized poolId other → s₁.Finalized poolId other := by
  obtain ⟨hdecided, -, hwritten⟩ := h
  obtain ⟨lock, hfound, hlocked, rfl⟩ := fundedEntryDecision_eq_transact js hdecided
  change s.poolLocks.lookup (poolFundingLockId poolId entry.id) = some lock at hfound
  have hid := (s.poolLocks_ok _ _ hfound).1
  rw [← hid] at hfound
  have hlookup := (updatePoolLock_lookup hwritten hfound).2
  have hfinal : (updatedPoolLock lock (finalizedLock lock entry now)).status ≠ .locked := by
    simp only [updatedPoolLock, finalizedLock]
    split_ifs <;> simp
  constructor
  · refine ⟨_, ?_, hfinal⟩
    rw [hlookup, ← hid]
    exact Finmap.lookup_insert _
  · rintro other ⟨lock', hlock', hstatus⟩
    by_cases hother : poolFundingLockId poolId other.id = lock.lockId
    · rw [hother, hfound] at hlock'
      obtain rfl := Option.some.inj hlock'
      exact absurd hlocked hstatus
    · refine ⟨lock', ?_, hstatus⟩
      rw [hlookup, Table.lookup_insert]
      exact (if_neg hother).trans hlock'

private theorem requirePoolFundingLock_propagates (poolId entryId : String) :
    (requirePoolFundingLock poolId entryId).Propagates := by
  refine (Program.propagates_perform _).bind fun found => ?_
  cases found with
  | none => trivial
  | some lock => trivial

private theorem readSettlementBalance_propagates (userId now : String) :
    (readSettlementBalance userId now).Propagates :=
  (Program.propagates_perform (FundingOp.getBalance userId)).bind fun _ => trivial

private theorem settleFundedEntry_propagates (entry : Entry) :
    (settleFundedEntry js poolId now entry).Propagates := by
  refine (requirePoolFundingLock_propagates _ _).bind fun lock => ?_
  by_cases hstatus : lock.status ≠ .locked
  · rw [if_pos hstatus]
    trivial
  · rw [if_neg hstatus]
    refine (readSettlementBalance_propagates _ _).bind fun balance => ?_
    refine (Program.propagates_perform _).bind fun _ => ?_
    refine (Program.propagates_perform _).bind fun _ => ?_
    exact (Program.propagates_perform _).bind fun _ => trivial

/-- Where a fault in a turn leaves the store: as it was, or, past the save, as the whole turn
leaves it. -/
private theorem runFault_settleFundedEntry {entry : Entry} (fault : Fault) {n : ℕ}
    {s : FundingStore} (hnosave : ∀ b, ¬SavesAt n (settleFundedEntry js poolId now entry) s b) :
    (Program.runFault fundingHandler fault n (settleFundedEntry js poolId now entry) s).2 = s ∨
    ((Program.run fundingHandler (settleFundedEntry js poolId now entry) s).1 = .ok true ∧
      (Program.runFault fundingHandler fault n (settleFundedEntry js poolId now entry) s).2.SameRows
        (Program.run fundingHandler (settleFundedEntry js poolId now entry) s).2) := by
  have hop := fundedEntry_replayable js poolId now entry
  rw [settleFundedEntry_eq js poolId now ""] at hnosave ⊢
  rcases FundingOperation.runFault_cases hop.savesValid "" fault n s with
    ⟨-, hstate⟩ | ⟨t, s₁, hb, hcommits, ⟨hsave, -⟩ | ⟨-, hstate⟩⟩
  · exact Or.inl hstate
  · exact absurd hsave (hnosave _)
  · refine Or.inr ?_
    rcases FundingOperation.run_cases hop.savesValid "" s with
      ⟨hnone, -⟩ | ⟨t', s₁', hb', hcommits', hrun⟩
    · exact absurd ⟨t, s₁, hcommits⟩ hnone
    · obtain rfl := Decision.transact.inj (hcommits.decided.symm.trans hcommits'.decided)
      obtain rfl := (Prod.mk.inj (hcommits.written.symm.trans hcommits'.written)).2
      obtain ⟨lock, -, -, rfl⟩ := fundedEntryDecision_eq_transact js hcommits.decided
      rw [hrun]
      exact ⟨rfl, hstate.trans (FundingStore.sameRows_addEvents _ _)⟩

/-- A turn that throws leaves the store alone; one that ends leaves the entry's lock final. -/
private theorem run_settleFundedEntry_cases (entry : Entry) (s : FundingStore) :
    (∃ e, Program.run fundingHandler (settleFundedEntry js poolId now entry) s = (.error e, s)) ∨
    ∃ finalized s', Program.run fundingHandler (settleFundedEntry js poolId now entry) s =
      (.ok finalized, s') ∧ s'.Finalized poolId entry := by
  have hop := fundedEntry_replayable js poolId now entry
  cases hlock : s.poolLocks.lookup (poolFundingLockId poolId entry.id) with
  | none =>
    refine Or.inl ⟨poolLockNotFound, ?_⟩
    rw [settleFundedEntry_eq js poolId now ""]
    simp [fundedEntryOperation, FundingOperation.program, RecordLookup.perform,
      Program.run_perform_bind, fundingHandler, hlock, fundedEntryDecision, Decision.program]
  | some lock =>
    by_cases hstatus : lock.status = .locked
    · have hdecided : (fundedEntryOperation js poolId now entry).decide ""
          ((fundedEntryOperation js poolId now entry).lookup.find s) =
          .transact (fundedEntryTransaction js lock entry now) := by
        change fundedEntryDecision js entry now (s.poolLocks.lookup _) = _
        rw [hlock]
        simp only [fundedEntryDecision, hstatus, ne_eq, not_true, if_false]
      rw [settleFundedEntry_eq js poolId now ""]
      rcases FundingOperation.run_cases hop.savesValid "" s with
        ⟨hnone, -⟩ | ⟨t, s₁, hb, hcommits, hrun⟩
      · refine Or.inl (FundingOperation.run_of_not_commits hdecided ?_)
        rintro ⟨s₁, hcommits⟩
        exact hnone ⟨_, s₁, hcommits⟩
      · refine Or.inr ⟨_, _, hrun, ?_⟩
        have hs₁ := (Commits.finalized js hcommits).1
        exact (FundingStore.sameRows_addEvents _ _).toSameRecords.finalized hs₁
    · have hfinal : s.Finalized poolId entry := ⟨lock, hlock, hstatus⟩
      exact Or.inr ⟨false, s, run_settleFundedEntry_of_finalized js now hfinal, hfinal⟩

/-- No fault in a turn makes a final lock anything else. -/
private theorem runFault_finalized {poolId : String} (entry other : Entry) (fault : Fault) (n : ℕ)
    {s : FundingStore} (h : s.Finalized poolId other) :
    (Program.runFault fundingHandler fault n (settleFundedEntry js poolId now entry) s).2.Finalized
      poolId other := by
  rw [settleFundedEntry_eq js poolId now ""]
  rcases FundingOperation.runFault_cases (fundedEntry_replayable js poolId now entry).savesValid ""
    fault n s with ⟨-, hstate⟩ | ⟨t, s₁, hb, hcommits, ⟨-, hstate⟩ | ⟨-, hstate⟩⟩
  · rw [hstate]
    exact h
  · rw [hstate]
    exact (Commits.finalized js hcommits).2 other h
  · have hs₁ := (Commits.finalized js hcommits).2 other h
    exact hstate.symm.toSameRecords.finalized hs₁

/-- What the loop does to the store, and whether it ends, do not depend on its counts. -/
private theorem run_settleFundedEntries_counts (entries : List Entry) (counts counts' : ℕ × ℕ)
    (s : FundingStore) :
    (Program.run fundingHandler (settleFundedEntries js poolId now entries counts) s).2 =
      (Program.run fundingHandler (settleFundedEntries js poolId now entries counts') s).2 := by
  induction entries generalizing counts counts' s with
  | nil => rfl
  | cons entry rest ih =>
    obtain ⟨applied, idempotent⟩ := counts
    obtain ⟨applied', idempotent'⟩ := counts'
    by_cases huser : entry.funding ≠ .user
    · simp only [settleFundedEntries, if_pos huser]
      exact ih _ _ s
    · simp only [settleFundedEntries, if_neg huser, Program.run_bind]
      rcases run_settleFundedEntry_cases js poolId now entry s with ⟨e, hrun⟩ |
        ⟨finalized, s', hrun, -⟩
      · rw [hrun]
      · rw [hrun]
        exact ih _ _ s'

/-- No fault in the loop makes a final lock anything else. -/
private theorem runFault_settleFundedEntries_finalized {poolId : String} (entries : List Entry)
    (counts : ℕ × ℕ)
    (fault : Fault) (n : ℕ) {s : FundingStore} {other : Entry} (h : s.Finalized poolId other) :
    (Program.runFault fundingHandler fault n
      (settleFundedEntries js poolId now entries counts) s).2.Finalized poolId other := by
  induction entries generalizing counts n s with
  | nil => simpa [settleFundedEntries] using h
  | cons entry rest ih =>
    obtain ⟨applied, idempotent⟩ := counts
    by_cases huser : entry.funding ≠ .user
    · simp only [settleFundedEntries, if_pos huser]
      exact ih _ n h
    · simp only [settleFundedEntries, if_neg huser, Program.runFault_bind]
      have hturn := fun n => runFault_finalized js now entry other fault n h
      split_ifs with hn
      · cases hfault : Program.runFault fundingHandler fault n
            (settleFundedEntry js poolId now entry) s with
        | mk answer s' =>
          have hs' := hturn n
          have herror := (settleFundedEntry_propagates js poolId now entry).runFault fault hn
          simp only [hfault] at hs' herror ⊢
          rw [herror]
          exact hs'
      · have hs' := hturn (Program.calls fundingHandler (settleFundedEntry js poolId now entry) s)
        rw [Program.runFault_of_callAt_eq_none (Program.callAt_eq_none_iff.mpr le_rfl)] at hs'
        cases hrun : Program.run fundingHandler (settleFundedEntry js poolId now entry) s with
        | mk answer s' =>
          rw [hrun] at hs'
          cases answer with
          | ok finalized => exact ih _ _ hs'
          | error e => exact hs'

/-- A turn that ends hands the store to the rest of the loop. -/
private theorem run_settleFundedEntries_cons {entry : Entry} (rest : List Entry)
    (huser : ¬entry.funding ≠ .user) {s s' : FundingStore} {finalized : Bool}
    (hrun : Program.run fundingHandler (settleFundedEntry js poolId now entry) s =
      (.ok finalized, s')) (counts : ℕ × ℕ) :
    ∃ next,
      Program.run fundingHandler (settleFundedEntries js poolId now (entry :: rest) counts) s =
      Program.run fundingHandler (settleFundedEntries js poolId now rest next) s' := by
  obtain ⟨applied, idempotent⟩ := counts
  refine ⟨if finalized then (applied + 1, idempotent) else (applied, idempotent + 1), ?_⟩
  simp only [settleFundedEntries, if_neg huser]
  exact Program.run_bind_of_ok hrun _

/-- A fault within the first turn. -/
private theorem runFault_settleFundedEntries_turn {entry : Entry} (rest : List Entry)
    (huser : ¬entry.funding ≠ .user) (fault : Fault) {n : ℕ} {s : FundingStore}
    (hn : n < Program.calls fundingHandler (settleFundedEntry js poolId now entry) s)
    (counts : ℕ × ℕ) :
    (Program.runFault fundingHandler fault n
        (settleFundedEntries js poolId now (entry :: rest) counts) s).2 =
      (Program.runFault fundingHandler fault n (settleFundedEntry js poolId now entry) s).2 ∧
    ∀ b, SavesAt n (settleFundedEntry js poolId now entry) s b →
      SavesAt n (settleFundedEntries js poolId now (entry :: rest) counts) s b := by
  obtain ⟨applied, idempotent⟩ := counts
  have herror := (settleFundedEntry_propagates js poolId now entry).runFault fault hn
  simp only [SavesAt, settleFundedEntries, if_neg huser, Program.runFault_bind,
    Program.callAt_bind, if_pos hn]
  cases hfault : Program.runFault fundingHandler fault n
      (settleFundedEntry js poolId now entry) s with
  | mk answer s' =>
    rw [hfault] at herror
    simp only at herror
    rw [herror]
    exact ⟨rfl, fun b hb => hb⟩

/-- A fault past the first turn. -/
private theorem runFault_settleFundedEntries_rest {entry : Entry} (rest : List Entry)
    (huser : ¬entry.funding ≠ .user) (fault : Fault) {n : ℕ} {s s' : FundingStore}
    {finalized : Bool}
    (hrun : Program.run fundingHandler (settleFundedEntry js poolId now entry) s =
      (.ok finalized, s'))
    (hn : ¬n < Program.calls fundingHandler (settleFundedEntry js poolId now entry) s)
    (counts : ℕ × ℕ) :
    ∃ next m, (Program.runFault fundingHandler fault n
        (settleFundedEntries js poolId now (entry :: rest) counts) s).2 =
      (Program.runFault fundingHandler fault m (settleFundedEntries js poolId now rest next) s').2 ∧
    ∀ b, SavesAt m (settleFundedEntries js poolId now rest next) s' b →
      SavesAt n (settleFundedEntries js poolId now (entry :: rest) counts) s b := by
  obtain ⟨applied, idempotent⟩ := counts
  refine ⟨if finalized then (applied + 1, idempotent) else (applied, idempotent + 1),
    n - Program.calls fundingHandler (settleFundedEntry js poolId now entry) s, ?_⟩
  simp only [SavesAt, settleFundedEntries, if_neg huser, Program.runFault_bind,
    Program.callAt_bind, if_neg hn, hrun]
  exact ⟨trivial, fun b hb => hb⟩

/-- A retry of the loop after a fault that spared the saves ends with the rows of an
undisturbed run. -/
private theorem retry_settleFundedEntries {poolId now : String} {entries : List Entry}
    {counts : ℕ × ℕ} {fault : Fault}
    {n : ℕ} {s : FundingStore}
    (hnosave : ∀ b, ¬SavesAt n (settleFundedEntries js poolId now entries counts) s b)
    {counts' : ℕ × ℕ} {result : ℕ × ℕ} {s'' : FundingStore}
    (hretry : Program.run fundingHandler (settleFundedEntries js poolId now entries counts')
      (Program.runFault fundingHandler fault n
        (settleFundedEntries js poolId now entries counts) s).2 = (.ok result, s'')) :
    s''.SameRows
      (Program.run fundingHandler (settleFundedEntries js poolId now entries counts) s).2 := by
  induction entries generalizing counts counts' n s with
  | nil =>
    simp only [settleFundedEntries, Program.pure_eq, Program.runFault_done,
      Program.run_done] at hretry ⊢
    rw [(Prod.mk.inj hretry).2]
    exact FundingStore.SameRows.refl _
  | cons entry rest ih =>
    by_cases huser : entry.funding ≠ .user
    · obtain ⟨applied, idempotent⟩ := counts
      obtain ⟨applied', idempotent'⟩ := counts'
      simp only [settleFundedEntries, if_pos huser] at hnosave hretry ⊢
      exact ih hnosave hretry
    · -- the retry passes the first turn again, which replays once its lock is final
      by_cases hn : n < Program.calls fundingHandler (settleFundedEntry js poolId now entry) s
      · obtain ⟨hstate, hsaves⟩ :=
          runFault_settleFundedEntries_turn js poolId now rest huser fault hn
          counts
        rw [hstate] at hretry
        rcases runFault_settleFundedEntry js poolId now fault
            fun b hb => hnosave b (hsaves b hb) with hsame | ⟨htrue, hrows⟩
        · rw [hsame] at hretry
          rw [run_settleFundedEntries_counts js poolId now (entry :: rest) counts counts' s, hretry]
          exact FundingStore.SameRows.refl _
        · rcases run_settleFundedEntry_cases js poolId now entry s with ⟨e, hrun⟩ |
            ⟨finalized, sT, hrun, hfinal⟩
          · rw [hrun] at htrue
            exact absurd htrue (by simp)
          · rw [hrun] at hrows
            have hreplay := run_settleFundedEntry_of_finalized js now
              (hrows.symm.toSameRecords.finalized hfinal)
            obtain ⟨next, hnext⟩ :=
              run_settleFundedEntries_cons js poolId now rest huser hrun counts
            obtain ⟨next', hnext'⟩ :=
              run_settleFundedEntries_cons js poolId now rest huser hreplay counts'
            have hcongr := (Program.run_congr (h := fundingHandler)
              (fun op s s' h => fundingHandler_sameRows h op)
              (settleFundedEntries js poolId now rest next') hrows).2
            rw [hnext, run_settleFundedEntries_counts js poolId now rest next next']
            rw [← hnext', hretry] at hcongr
            exact hcongr
      · rcases run_settleFundedEntry_cases js poolId now entry s with ⟨e, hrun⟩ |
          ⟨finalized, sT, hrun, hfinal⟩
        · obtain ⟨applied, idempotent⟩ := counts
          obtain ⟨applied', idempotent'⟩ := counts'
          have hstate : (Program.runFault fundingHandler fault n
              (settleFundedEntries js poolId now (entry :: rest) (applied, idempotent)) s).2 =
                s := by
            simp only [settleFundedEntries, if_neg huser, Program.runFault_bind, if_neg hn, hrun]
          rw [hstate] at hretry
          simp only [settleFundedEntries, if_neg huser] at hretry
          rw [Program.run_bind_of_error hrun] at hretry
          exact absurd (Prod.mk.inj hretry).1 (by simp)
        · obtain ⟨next, m, hstate, hsaves⟩ :=
            runFault_settleFundedEntries_rest js poolId now rest huser fault hrun hn counts
          obtain ⟨next', hnext'⟩ :=
            run_settleFundedEntries_cons js poolId now rest huser hrun counts
          have hreplay := run_settleFundedEntry_of_finalized js now
            (runFault_settleFundedEntries_finalized js now rest next fault m hfinal)
          obtain ⟨next'', hnext''⟩ :=
            run_settleFundedEntries_cons js poolId now rest huser hreplay counts'
          rw [hstate, hnext''] at hretry
          rw [hnext', run_settleFundedEntries_counts js poolId now rest next' next]
          exact ih (fun b hb => hnosave b (hsaves b hb)) hretry

end Loop

/-! ## Requests -/

variable (env : UsdcPoolFundingEnv)

private theorem cases_of_checked {ρ : Type} {op : Except Fault (FundingOperation ρ)}
    {p : String → Funding ρ} (hp : ∀ clock, p clock = checkedProgram op clock)
    {request : FundingRequest} (hrequest : ∀ clock, request.program js env clock =
      p clock >>= fun _ => Program.done (.ok ()))
    (hop : ∀ {checked}, op = .ok checked → checked.Replayable) :
    (∃ e, ∀ clock, request.program js env clock = Program.done (.error e)) ∨
    ∃ (ρ : Type) (op : FundingOperation ρ), op.Replayable ∧
      ∀ clock, request.program js env clock =
        op.program clock >>= fun _ => Program.done (.ok ()) := by
  simp only [hp] at hrequest
  cases op with
  | error e => exact Or.inl ⟨e, hrequest⟩
  | ok checked => exact Or.inr ⟨ρ, checked, hop rfl, hrequest⟩

/-- The shape of a request about one record: refused at once, or a replayable operation. -/
private theorem FundingRequest.single_cases (request : FundingRequest) (h : request.Single) :
    (∃ e, ∀ clock, request.program js env clock = Program.done (.error e)) ∨
    ∃ (ρ : Type) (op : FundingOperation ρ), op.Replayable ∧
      ∀ clock, request.program js env clock =
        op.program clock >>= fun _ => Program.done (.ok ()) := by
  cases request with
  | creditDeposit input =>
    exact cases_of_checked js env (fun clock => creditDevnetDeposit_eq js _ clock input)
      (fun _ => rfl)
      depositOperation_replayable
  | requestWithdrawal input =>
    exact cases_of_checked js env (fun clock => requestDevnetWithdrawal_eq js _ clock input)
      (fun _ => rfl)
      withdrawalOperation_replayable
  | confirmWithdrawal input =>
    exact cases_of_checked js env (fun clock => confirmMockWithdrawal_eq js _ clock input)
      (fun _ => rfl)
      confirmationOperation_replayable
  | reserveEntry input =>
    exact cases_of_checked js env (fun clock => reserveUsdcPoolEntry_eq js env clock input)
      (fun _ => rfl)
      reservationOperation_replayable
  | releaseEntry input =>
    exact cases_of_checked js env
      (fun clock => releaseUsdcPoolEntryReservation_eq js env clock input) (fun _ => rfl)
      releaseOperation_replayable
  | reserveBond input =>
    exact cases_of_checked js env (fun clock => reserveUsdcBond_eq js env clock input)
      (fun _ => rfl)
      bondOperation_replayable
  | settleBond input =>
    exact cases_of_checked js env (fun clock => settleUsdcBond_eq js env clock input) (fun _ => rfl)
      bondSettlementOperation_replayable
  | settleEntry poolId now entry =>
    refine Or.inr ⟨_, _, fundedEntry_replayable js poolId now entry, fun clock => ?_⟩
    rw [program, settleFundedEntry_eq js poolId now clock]
    rfl
  | settlePool snapshot now => exact absurd h id

/-- The settlement of a pool: decided at once, or the loop over its entries. -/
private theorem FundingRequest.settlePool_cases (snapshot : PoolSnapshot) (now : Option String) :
    (∃ r, ∀ clock, (settlePool snapshot now).program js env clock = Program.done r) ∨
    ∃ funding, ∀ clock, (settlePool snapshot now).program js env clock =
      (settleFundedEntries js snapshot.pool.id (now.getD snapshot.updatedAt) snapshot.entries (0, 0)
        >>= fun counts => Program.done
          (.ok (⟨counts.1, counts.2, funding⟩ : TerminalSettlementResult)))
        >>= fun _ => Program.done (.ok ()) := by
  simp only [program, applyUsdcPoolTerminalSettlement]
  cases assertUsdcPoolFundingReady js env with
  | error e => exact Or.inl ⟨.error e, fun _ => rfl⟩
  | ok funding =>
    simp only [Program.ok_bind]
    split_ifs
    · exact Or.inl ⟨.ok (), fun _ => rfl⟩
    · exact Or.inr ⟨funding, fun _ => rfl⟩
    · exact Or.inl ⟨.ok (), fun _ => rfl⟩

/-- A request made again after one of its store calls threw: what the retry answers and the
store it leaves. -/
def FundingRequest.retry (request : FundingRequest) (clock clock' : String) (fault : Fault)
    (n : ℕ) (s : FundingStore) : Except Fault Unit × FundingStore :=
  Program.run fundingHandler (request.program js env clock')
    (Program.runFault fundingHandler fault n (request.program js env clock) s).2

/-- A retry that succeeds leaves the balances, locks and transfers of an undisturbed run. -/
def FundingRequest.Recovers (request : FundingRequest) (clock clock' : String) (fault : Fault)
    (n : ℕ) (s : FundingStore) : Prop :=
  (request.retry js env clock clock' fault n s).1 = .ok () →
    (request.retry js env clock clock' fault n s).2.Agree
      (Program.run fundingHandler (request.program js env clock) s).2

variable {js env} {clock clock' : String} {fault : Fault} {n : ℕ} {s : FundingStore}

/-- A retried request about one record ends as an undisturbed one unless the fault struck
the save of a balance that differs from the stored one. -/
theorem FundingRequest.retry_agree_iff {request : FundingRequest} (h : request.Single) :
    (request.retry js env clock clock' fault n s).2.Agree
        (Program.run fundingHandler (request.program js env clock) s).2 ↔
      ∀ b, SavesAt n (request.program js env clock) s b →
        (s.balances.lookup b.userId).map SettlementBalance.timeless = some b.timeless := by
  unfold retry
  rcases FundingRequest.single_cases js env request h with ⟨e, hprogram⟩ | ⟨ρ, op, hop, hprogram⟩
  · simp [hprogram, SavesAt, (FundingStore.SameRows.refl s).agree]
  · simp only [hprogram, SavesAt, Program.run_bind_done, Program.runFault_bind_done,
      Program.callAt_bind_done]
    exact hop.retry_agree_iff clock clock' fault n s

/-- The settlement of a pool recovers from every fault that spares the saves. -/
private theorem FundingRequest.settlePool_recovers {snapshot : PoolSnapshot} {now : Option String}
    (hnosave : ∀ b, ¬SavesAt n ((settlePool snapshot now).program js env clock) s b) :
    (settlePool snapshot now).Recovers js env clock clock' fault n s := by
  unfold Recovers retry
  rcases settlePool_cases js env snapshot now with ⟨r, hprogram⟩ | ⟨funding, hprogram⟩
  · simp [hprogram, (FundingStore.SameRows.refl s).agree]
  · simp only [hprogram, SavesAt, Program.run_bind_done, Program.runFault_bind_done,
      Program.callAt_bind_done] at hnosave ⊢
    intro hok
    cases hretry : Program.run fundingHandler
        (settleFundedEntries js snapshot.pool.id (now.getD snapshot.updatedAt) snapshot.entries
          (0, 0))
        (Program.runFault fundingHandler fault n
          (settleFundedEntries js snapshot.pool.id (now.getD snapshot.updatedAt) snapshot.entries
            (0, 0)) s).2 with
    | mk answer s'' =>
      rw [hretry] at hok
      cases answer with
      | error e => simp [Except.map] at hok
      | ok result => exact (retry_settleFundedEntries js hnosave hretry).agree

/-- A user with 100 available units. -/
private def creditedStore : FundingStore :=
  FundingStore.empty.putBalance ⟨"u", 100, 0, 0, 0, 0, "t"⟩ (by decide)

private def reserveForty : FundingRequest := .reserveEntry ⟨"p", "e", "u", 40, none⟩

/-- A reservation whose save throws is never debited: the retry replays the lock. -/
theorem reservation_not_debited :
    ¬∀ (request : FundingRequest) (clock clock' : String) (fault : Fault) (n : ℕ)
      (s : FundingStore),
      request.Recovers (JavaScript.reference .double) devnetEnv clock clock' fault n s := by
  intro h
  have hok : (reserveForty.retry (JavaScript.reference .double) devnetEnv "t" "t" uniqueFault 3
      creditedStore).1 = .ok () := by
    decide +kernel
  have hrow := (h reserveForty "t" "t" uniqueFault 3 creditedStore hok).balances "u"
  revert hrow
  decide +kernel

/-- A retry makes good every fault but one that strikes the save of a balance. For a request
about one record that is the whole truth: a struck save is lost for good unless it would have
changed nothing, or no retry succeeds. -/
theorem retry_recovers (js : Runtime) (env : UsdcPoolFundingEnv) (request : FundingRequest)
    (clock clock' : String) (fault : Fault) (n : ℕ) (s : FundingStore) :
    ((∀ b, ¬SavesAt n (request.program js env clock) s b) →
      request.Recovers js env clock clock' fault n s) ∧
    (request.Single → (request.Recovers js env clock clock' fault n s ↔
      ∀ b, SavesAt n (request.program js env clock) s b →
        (s.balances.lookup b.userId).map SettlementBalance.timeless = some b.timeless ∨
          (request.retry js env clock clock' fault n s).1 ≠ .ok ())) := by
  have hsingle : request.Single → (request.Recovers js env clock clock' fault n s ↔
      ∀ b, SavesAt n (request.program js env clock) s b →
        (s.balances.lookup b.userId).map SettlementBalance.timeless = some b.timeless ∨
          (request.retry js env clock clock' fault n s).1 ≠ .ok ()) := by
    intro h
    rw [FundingRequest.Recovers, FundingRequest.retry_agree_iff h]
    by_cases hok : (request.retry js env clock clock' fault n s).1 = .ok ()
    · simp [hok]
    · simp [hok]
  refine ⟨fun hnosave => ?_, hsingle⟩
  by_cases h : request.Single
  · exact (hsingle h).mpr fun b hb => absurd hb (hnosave b)
  · cases request with
    | settlePool snapshot now => exact FundingRequest.settlePool_recovers hnosave
    | _ => exact absurd trivial h

theorem retry_recovers_unreadBalance :
    reserveForty.Recovers (JavaScript.reference .double) devnetEnv "t" "t'" uniqueFault 1
      creditedStore := by
  refine (retry_recovers _ _ _ _ _ _ _ _).1 fun b hb => ?_
  have hcall : Program.callAt fundingHandler 1
      (reserveForty.program (JavaScript.reference .double) devnetEnv "t") creditedStore =
        some (.getBalance "u") := by
    decide +kernel
  rw [SavesAt, hcall] at hb
  simp at hb

end Yevow.DotCast
