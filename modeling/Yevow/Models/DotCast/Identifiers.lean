import Yevow.Core.JavaScript.Reference
import Yevow.Core.Text.Separator
import Yevow.Models.DotCast.Funding.Execution

/-!
# Identifiers joined by colons

A funding lock, a withdrawal and a ledger row are filed under their parts joined by colons, and
the parts may contain colons themselves. Two requests meet under one identifier exactly when one
text is split at two of its colons.
-/

namespace Yevow.DotCast

open JavaScript (Runtime)

/-! ## The points ledger -/

/-- Why points are credited. -/
inductive PointsLedgerReason
  | predictCorrect
  | predictIncorrect
  | streakBonus
  | freeEntryGrant
  | freeEntryRedeem
  | rewardedStream
  | adjustment
  deriving DecidableEq

def PointsLedgerReason.text : PointsLedgerReason → String
  | .predictCorrect => "predict_correct"
  | .predictIncorrect => "predict_incorrect"
  | .streakBonus => "streak_bonus"
  | .freeEntryGrant => "free_entry_grant"
  | .freeEntryRedeem => "free_entry_redeem"
  | .rewardedStream => "rewarded_stream"
  | .adjustment => "adjustment"

/-- A credit of points. -/
structure PointsLedgerEntry where
  id : String
  userId : String
  delta : ℤ
  reason : PointsLedgerReason
  poolId : Option String
  entryId : Option String
  balanceAfter : ℤ
  createdAt : String
  deriving DecidableEq

/-- The identifier of a credit. -/
def ledgerId (poolId : String) (entryId : String) (reason : PointsLedgerReason) : String :=
  "dotcast:e8:points:" ++ poolId ++ ":" ++ entryId ++ ":" ++ reason.text

/-- The row a settlement plan holds for one entry and reason. -/
def plannedRow (poolId : String) (entry : Entry) (reason : PointsLedgerReason)
    (delta balanceAfter : ℤ) (now : String) : PointsLedgerEntry where
  id := ledgerId poolId entry.id reason
  userId := entry.userId
  delta := delta
  reason := reason
  poolId := some poolId
  entryId := some entry.id
  balanceAfter := balanceAfter
  createdAt := now

/-- `INSERT OR IGNORE`: a row whose id is taken, or that fails the check of its balance, is
dropped. -/
def addLedgerRow (ledger : Table String PointsLedgerEntry) (row : PointsLedgerEntry) :
    Table String PointsLedgerEntry :=
  if (ledger.lookup row.id).isSome ∨ row.balanceAfter < 0 then ledger else ledger.insert row.id row

/-! ## What an operation answers with -/

variable {js : Runtime}

/-- A sequence that returns has run its first part. -/
private theorem exists_of_run_bind {α β : Type} {p : Funding α} {f : α → Funding β}
    {s s' : FundingStore} {b : β} (h : Program.run fundingHandler (p >>= f) s = (.ok b, s')) :
    ∃ a s₁, Program.run fundingHandler (f a) s₁ = (.ok b, s') := by
  rw [Program.run_bind] at h
  rcases hp : Program.run fundingHandler p s with ⟨answer, s₁⟩
  rw [hp] at h
  cases answer with
  | error fault =>
    obtain ⟨hfault, -⟩ := Prod.mk.inj h
    cases hfault
  | ok a => exact ⟨a, s₁, h⟩

private theorem lockId_of_makeReservation {checked : CheckedPoolEntry} {amount : ℤ} {now : String}
    {s s' : FundingStore} {result : PoolFundingResult}
    (h : Program.run fundingHandler (makeReservation js checked amount now) s =
      (.ok result, s')) :
    result.lock.lockId = poolFundingLockId checked.poolId checked.entryId := by
  unfold makeReservation at h
  obtain ⟨balance, s₁, h⟩ := exists_of_run_bind h
  split_ifs at h
  · cases h
  · obtain ⟨_, s₂, h⟩ := exists_of_run_bind h
    obtain ⟨_, s₃, h⟩ := exists_of_run_bind h
    obtain ⟨_, s₄, h⟩ := exists_of_run_bind h
    obtain ⟨hresult, -⟩ := Prod.mk.inj h
    obtain rfl := Except.ok.inj hresult
    rfl

/-- A checked reservation replays the lock that is filed under its pool and entry, or makes it. -/
private theorem run_reserve {env : UsdcPoolFundingEnv} {clock : String}
    {input : ReserveUsdcPoolEntryInput} {checked : CheckedPoolEntry}
    (hcheck : checkReservation js env input = .ok checked) (s : FundingStore) :
    Program.run fundingHandler (reserveUsdcPoolEntry js env clock input) s =
      Program.run fundingHandler (match s.poolLocks.lookup
          (poolFundingLockId checked.poolId checked.entryId) with
        | some existing => reuseReservation checked existing input.amount (input.now.getD clock)
        | none => makeReservation js checked input.amount (input.now.getD clock)) s := by
  unfold reserveUsdcPoolEntry
  rw [hcheck]
  rfl

/-- A reservation answers with the lock filed under its own pool and entry. -/
theorem lockId_of_reserve {env : UsdcPoolFundingEnv} {clock : String}
    {input : ReserveUsdcPoolEntryInput} {s s' : FundingStore} {result : PoolFundingResult}
    (h : Program.run fundingHandler (reserveUsdcPoolEntry js env clock input) s =
      (.ok result, s')) :
    result.lock.lockId =
      poolFundingLockId (JavaScript.trim input.poolId) (JavaScript.trim input.entryId) := by
  cases hcheck : checkReservation js env input with
  | error fault =>
    unfold reserveUsdcPoolEntry at h
    rw [hcheck] at h
    cases h
  | ok checked =>
    have hparts : checked.poolId = JavaScript.trim input.poolId ∧
        checked.entryId = JavaScript.trim input.entryId := by
      simp only [checkReservation, Except.bind_eq_ok, requireText_eq_ok] at hcheck
      obtain ⟨_, -, _, ⟨-, rfl⟩, _, ⟨-, rfl⟩, _, -, _, -, hcheck⟩ := hcheck
      obtain rfl := Except.ok.inj hcheck
      exact ⟨rfl, rfl⟩
    rw [← hparts.1, ← hparts.2]
    rw [run_reserve hcheck] at h
    cases hlock : s.poolLocks.lookup (poolFundingLockId checked.poolId checked.entryId) with
    | some existing =>
      rw [hlock] at h
      dsimp only [reuseReservation] at h
      split_ifs at h
      · cases h
      · obtain ⟨balance, s₁, h⟩ := exists_of_run_bind h
        obtain ⟨hresult, -⟩ := Prod.mk.inj h
        obtain rfl := Except.ok.inj hresult
        exact (s.poolLocks_ok _ _ hlock).1
    | none =>
      rw [hlock] at h
      exact lockId_of_makeReservation h

private theorem transferId_of_signWithdrawal {checked : CheckedWithdrawal} {amount : ℤ}
    {now : String} {s s' : FundingStore} {result : TransferResult}
    (h : Program.run fundingHandler (signWithdrawal js checked amount now) s = (.ok result, s')) :
    result.transfer.transferId = withdrawalId checked.userId checked.idempotencyKey := by
  unfold signWithdrawal at h
  dsimp only at h
  obtain ⟨balance, s₁, h⟩ := exists_of_run_bind h
  split_ifs at h
  · cases h
  · obtain ⟨_, s₂, h⟩ := exists_of_run_bind h
    obtain ⟨_, s₃, h⟩ := exists_of_run_bind h
    obtain ⟨_, s₄, h⟩ := exists_of_run_bind h
    obtain ⟨_, s₅, h⟩ := exists_of_run_bind h
    obtain ⟨hresult, -⟩ := Prod.mk.inj h
    obtain rfl := Except.ok.inj hresult
    rfl

/-- A checked withdrawal replays the transfer that is filed under its user and key, or signs. -/
private theorem run_withdrawal {env : SettlementRailEnv} {clock : String}
    {input : RequestDevnetWithdrawalInput} {checked : CheckedWithdrawal}
    (hcheck : checkWithdrawal js env input = .ok checked) (s : FundingStore) :
    Program.run fundingHandler (requestDevnetWithdrawal js env clock input) s =
      Program.run fundingHandler (match s.transfers.lookup
          (withdrawalId checked.userId checked.idempotencyKey) with
        | some existing => readSettlementBalance checked.userId (input.now.getD clock) >>=
            fun balance => pure ⟨.signed, true, existing, balance, checked.rail⟩
        | none => signWithdrawal js checked input.amount (input.now.getD clock)) s := by
  unfold requestDevnetWithdrawal
  rw [hcheck]
  rfl

/-- A withdrawal answers with the transfer filed under its own user and key. -/
theorem transferId_of_withdrawal {env : SettlementRailEnv} {clock : String}
    {input : RequestDevnetWithdrawalInput} {s s' : FundingStore} {result : TransferResult}
    (h : Program.run fundingHandler (requestDevnetWithdrawal js env clock input) s =
      (.ok result, s')) :
    result.transfer.transferId =
      withdrawalId (JavaScript.trim input.userId) (JavaScript.trim input.idempotencyKey) := by
  cases hcheck : checkWithdrawal js env input with
  | error fault =>
    unfold requestDevnetWithdrawal at h
    rw [hcheck] at h
    cases h
  | ok checked =>
    have hparts : checked.userId = JavaScript.trim input.userId ∧
        checked.idempotencyKey = JavaScript.trim input.idempotencyKey := by
      simp only [checkWithdrawal, Except.bind_eq_ok, requireText_eq_ok] at hcheck
      obtain ⟨_, -, _, ⟨-, rfl⟩, _, -, _, ⟨-, rfl⟩, _, -, _, -, _, -, hcheck⟩ := hcheck
      obtain rfl := Except.ok.inj hcheck
      exact ⟨rfl, rfl⟩
    rw [← hparts.1, ← hparts.2]
    rw [run_withdrawal hcheck] at h
    cases htransfer : s.transfers.lookup (withdrawalId checked.userId checked.idempotencyKey) with
    | some existing =>
      rw [htransfer] at h
      obtain ⟨balance, s₁, h⟩ := exists_of_run_bind h
      obtain ⟨hresult, -⟩ := Prod.mk.inj h
      obtain rfl := Except.ok.inj hresult
      exact (s.transfers_ok _ _ htransfer).1
    | none =>
      rw [htransfer] at h
      exact transferId_of_signWithdrawal h

/-! ## Two requests under one identifier -/

private theorem colon : (":" : String).toList = [':'] := by decide

/-- The prefix of an identifier is no part of the question. -/
private theorem prefixed_join_inj_iff (kind a b c d : String) :
    (kind ++ a ++ ":" ++ b = kind ++ c ++ ":" ++ d → a = c ∧ b = d) ↔
      ¬Text.Shifted ":" a b c d := by
  have hkind : kind ++ a ++ ":" ++ b = kind ++ c ++ ":" ++ d ↔ a ++ ":" ++ b = c ++ ":" ++ d := by
    rw [Text.append_assoc₃, Text.append_assoc₃]
    exact ⟨Text.append_left_inj, fun h => by rw [h]⟩
  rw [hkind]
  exact Text.join_inj_iff colon

private theorem poolFundingLockId_inj_iff (p e p' e' : String) :
    (poolFundingLockId p e = poolFundingLockId p' e' → p = p' ∧ e = e') ↔
      ¬Text.Shifted ":" p e p' e' :=
  prefixed_join_inj_iff _ p e p' e'

private theorem withdrawalId_inj_iff (u k u' k' : String) :
    (withdrawalId u k = withdrawalId u' k' → u = u' ∧ k = k') ↔ ¬Text.Shifted ":" u k u' k' :=
  prefixed_join_inj_iff _ u k u' k'

private theorem text_injective {r r' : PointsLedgerReason} (h : r.text = r'.text) : r = r' := by
  cases r <;> cases r' <;> first | rfl | exact absurd h (by decide)

/-- No reason contains a colon, so that it can be read off a ledger id. -/
theorem ledgerId_eq_iff (p e p' e' : String) (r r' : PointsLedgerReason) :
    ledgerId p e r = ledgerId p' e' r' ↔
      (p ++ ":" ++ e = p' ++ ":" ++ e') ∧ r = r' := by
  have hfree : ∀ r : PointsLedgerReason, Text.Free ':' r.text := by
    intro r
    cases r <;> decide
  constructor
  · intro h
    unfold ledgerId at h
    obtain ⟨hjoin, hreason⟩ := Text.append_sep_inj colon (hfree r) (hfree r') h
    refine ⟨?_, text_injective hreason⟩
    rw [Text.append_assoc₃, Text.append_assoc₃] at hjoin
    exact Text.append_left_inj hjoin
  · rintro ⟨h, rfl⟩
    unfold ledgerId
    rw [Text.append_assoc₃ _ p, Text.append_assoc₃ _ p', h]

private theorem ledgerId_inj_iff (p e p' e' : String) (r r' : PointsLedgerReason) :
    (ledgerId p e r = ledgerId p' e' r' → p = p' ∧ e = e' ∧ r = r') ↔
      ¬(r = r' ∧ Text.Shifted ":" p e p' e') := by
  rw [ledgerId_eq_iff, Text.join_eq_iff colon]
  constructor
  · rintro h ⟨hreason, hshifted⟩
    exact hshifted.ne colon (h ⟨Or.inr hshifted, hreason⟩).1
  · rintro hnot ⟨⟨hpool, hentry⟩ | hshifted, hreason⟩
    · exact ⟨hpool, hentry, hreason⟩
    · exact absurd ⟨hreason, hshifted⟩ hnot

/-- Of two rows added one after the other the second is dropped under the first one's id. -/
theorem lookup_addLedgerRow_iff {ledger : Table String PointsLedgerEntry}
    {row row' : PointsLedgerEntry} (hne : row ≠ row') (hfree : ledger.lookup row'.id = none)
    (hrow : 0 ≤ row.balanceAfter) (hrow' : 0 ≤ row'.balanceAfter) :
    (addLedgerRow (addLedgerRow ledger row) row').lookup row'.id = some row' ↔
      row.id ≠ row'.id := by
  constructor
  · intro hkept hid
    have hfirst : addLedgerRow ledger row = ledger.insert row.id row := by
      unfold addLedgerRow
      rw [if_neg (by rw [hid, hfree]; simp; omega)]
    have hfound : (ledger.insert row.id row).lookup row'.id = some row := by
      rw [Table.lookup_insert, if_pos hid.symm]
    rw [hfirst, addLedgerRow, if_pos (by rw [hfound]; simp), hfound] at hkept
    exact hne (Option.some.inj hkept)
  · intro hid
    have hstill : (addLedgerRow ledger row).lookup row'.id = none := by
      unfold addLedgerRow
      split_ifs
      · exact hfree
      · rw [Table.lookup_insert, if_neg hid.symm]
        exact hfree
    rw [addLedgerRow, if_neg (by rw [hstill]; simp; omega), Table.lookup_insert, if_pos rfl]

/-- A lock, a withdrawal and a ledger row belong to one request each exactly as long as no two
requests split one text at different colons. -/
theorem joined_identifiers_iff :
    (∀ p e p' e', (poolFundingLockId p e = poolFundingLockId p' e' → p = p' ∧ e = e') ↔
      ¬Text.Shifted ":" p e p' e') ∧
    (∀ u k u' k', (withdrawalId u k = withdrawalId u' k' → u = u' ∧ k = k') ↔
      ¬Text.Shifted ":" u k u' k') ∧
    (∀ p e p' e' r r', (ledgerId p e r = ledgerId p' e' r' → p = p' ∧ e = e' ∧ r = r') ↔
      ¬(r = r' ∧ Text.Shifted ":" p e p' e')) ∧
    (∀ env clock input s s₁ result env' clock' input' s' s₁' result',
      Program.run fundingHandler (reserveUsdcPoolEntry js env clock input) s = (.ok result, s₁) →
      Program.run fundingHandler (reserveUsdcPoolEntry js env' clock' input') s' =
        (.ok result', s₁') →
      ((result.lock.lockId = result'.lock.lockId →
          JavaScript.trim input.poolId = JavaScript.trim input'.poolId ∧
          JavaScript.trim input.entryId = JavaScript.trim input'.entryId) ↔
        ¬Text.Shifted ":" (JavaScript.trim input.poolId) (JavaScript.trim input.entryId)
          (JavaScript.trim input'.poolId) (JavaScript.trim input'.entryId))) ∧
    (∀ env clock input s s₁ result env' clock' input' s' s₁' result',
      Program.run fundingHandler (requestDevnetWithdrawal js env clock input) s =
        (.ok result, s₁) →
      Program.run fundingHandler (requestDevnetWithdrawal js env' clock' input') s' =
        (.ok result', s₁') →
      ((result.transfer.transferId = result'.transfer.transferId →
          JavaScript.trim input.userId = JavaScript.trim input'.userId ∧
          JavaScript.trim input.idempotencyKey = JavaScript.trim input'.idempotencyKey) ↔
        ¬Text.Shifted ":" (JavaScript.trim input.userId) (JavaScript.trim input.idempotencyKey)
          (JavaScript.trim input'.userId) (JavaScript.trim input'.idempotencyKey))) ∧
    ∀ (ledger : Table String PointsLedgerEntry) (p p' : String) (entry entry' : Entry)
      (r r' : PointsLedgerReason) (delta delta' balance balance' : ℤ) (now now' : String),
      ¬(p = p' ∧ entry.id = entry'.id ∧ r = r') →
      ledger.lookup (ledgerId p' entry'.id r') = none → 0 ≤ balance → 0 ≤ balance' →
      ((addLedgerRow (addLedgerRow ledger (plannedRow p entry r delta balance now))
          (plannedRow p' entry' r' delta' balance' now')).lookup (ledgerId p' entry'.id r') =
        some (plannedRow p' entry' r' delta' balance' now') ↔
          ¬(r = r' ∧ Text.Shifted ":" p entry.id p' entry'.id)) := by
  refine ⟨poolFundingLockId_inj_iff, withdrawalId_inj_iff, ledgerId_inj_iff, ?_, ?_, ?_⟩
  · intro env clock input s s₁ result env' clock' input' s' s₁' result' h h'
    rw [lockId_of_reserve h, lockId_of_reserve h']
    exact poolFundingLockId_inj_iff _ _ _ _
  · intro env clock input s s₁ result env' clock' input' s' s₁' result' h h'
    rw [transferId_of_withdrawal h, transferId_of_withdrawal h']
    exact withdrawalId_inj_iff _ _ _ _
  · intro ledger p p' entry entry' r r' delta delta' balance balance' now now' hne hfree hb hb'
    have hrows : plannedRow p entry r delta balance now ≠
        plannedRow p' entry' r' delta' balance' now' := by
      intro h
      apply hne
      refine ⟨?_, ?_, congrArg PointsLedgerEntry.reason h⟩
      · exact Option.some.inj (congrArg PointsLedgerEntry.poolId h)
      · exact Option.some.inj (congrArg PointsLedgerEntry.entryId h)
    rw [← ledgerId_inj_iff]
    refine (lookup_addLedgerRow_iff hrows hfree hb hb').trans ?_
    constructor
    · intro hids heq
      exact absurd heq hids
    · intro hinj heq
      exact hne (hinj heq)

/-- A pool id with a colon of its own is told apart where the entry ids have none. -/
theorem joined_identifiers_iff_default_pool :
    poolFundingLockId "pool:m1" "e1" = poolFundingLockId "pool:m2" "e1" →
      "pool:m1" = "pool:m2" ∧ "e1" = "e1" :=
  ((@joined_identifiers_iff (JavaScript.reference .double)).1 "pool:m1" "e1" "pool:m2" "e1").mpr (by
    rintro ⟨w, ⟨-, h⟩ | ⟨-, h⟩⟩ <;>
    · have hcolon := congrArg (fun s => s.toList.count ':') h
      simp only [String.toList_append, List.count_append] at hcolon
      have hsep : (":" : String).toList.count ':' = 1 := by decide
      have hfree : ("e1" : String).toList.count ':' = 0 := by decide
      omega)

private def aliceStore : FundingStore :=
  (Program.run fundingHandler (Funding.saveBalance ⟨"alice", 100, 0, 0, 0, 0, "t"⟩) .empty).2

private def aliceWithdrawal : RequestDevnetWithdrawalInput :=
  ⟨"alice", 40, "4zMMC9srt5Ri5X14GAgXhaHii3GnPAEERYPJgZJDncDU", "bob:1", none⟩

private def bobWithdrawal : RequestDevnetWithdrawalInput :=
  ⟨"alice:bob", 7, "EPjFWdd5AufqSSqeM2qN1xzybapC8G4wEGGkZwyTDt1v", "1", none⟩

/-- Another user with another key, amount and destination is answered with the first user's
withdrawal; two entries of two pools share a lock and a ledger id. -/
theorem colon_in_parts_meets :
    poolFundingLockId "pool:a" "b:e" = poolFundingLockId "pool:a:b" "e" ∧
    ledgerId "pool:a" "b:e" .streakBonus = ledgerId "pool:a:b" "e" .streakBonus ∧
    ((Program.run fundingHandler (requestDevnetWithdrawal (JavaScript.reference .double)
        devnetEnv.toSettlementRailEnv "t" bobWithdrawal)
      (Program.run fundingHandler (requestDevnetWithdrawal (JavaScript.reference .double)
        devnetEnv.toSettlementRailEnv "t" aliceWithdrawal) aliceStore).2).1.map fun result =>
          (result.idempotent, result.transfer.userId, result.transfer.amount)) =
      .ok (true, "alice", 40) := by
  refine ⟨by decide +kernel, by decide +kernel, by decide +kernel⟩

end Yevow.DotCast
