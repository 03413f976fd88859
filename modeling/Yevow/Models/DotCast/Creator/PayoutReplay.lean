import Mathlib.Logic.Relation
import Yevow.Core.JavaScript.Reference
import Yevow.Models.DotCast.Creator.PayoutIsolation

/-!
# Requests under one key

A request looks for a payout under its key before anything else. Requests of one creator
leave rows behind that no other creator's request reads, or store a payout that every later
request under the key finds, whoever makes it.
-/

namespace Yevow.DotCast

open JavaScript (Runtime)
open Program (EndsIn)

private theorem requireText_blank {value : String} (h : JavaScript.trim value = "")
    (label : String) :
    Creator.requireText value label =
      .error ⟨label ++ " is required", some "INVALID_CREATOR_INPUT", some 400⟩ := by
  unfold Creator.requireText DotCast.requireText
  rw [if_neg (not_not.mpr h)]

/-- A call of `requestDotCastCreatorPayout`. -/
structure CreatorPayoutCall where
  env : DotCastCreatorEconomyEnv
  clock : String
  input : RequestCreatorPayoutInput
  hasDatabase : Bool

namespace CreatorPayoutCall

def key (c : CreatorPayoutCall) : PayoutKey :=
  ⟨JavaScript.trim c.input.creatorId, JavaScript.trim c.input.idempotencyKey⟩

variable (js : Runtime) (c : CreatorPayoutCall)

/-- The function that a call starts. -/
def program : Crediting CreatorPayoutResult :=
  requestDotCastCreatorPayout js c.env c.clock c.input c.hasDatabase

/-- What the call returns and leaves when no call to the stores fails. -/
def run (s : CreatorStore) : Except Fault CreatorPayoutResult × CreatorStore :=
  Program.run (creatorHandler js) (c.program js) s

/-- The rest of the call once its key has been looked up. -/
def afterLookup (status : DotCastCreatorEconomyStatus) :
    Option DotCastCreatorPayout → Crediting CreatorPayoutResult
  | some existing => replayPayout status existing
  | none =>
    makePayout js c.env status c.input c.key.idempotencyKey c.clock (c.input.now.getD c.clock)

variable {js} {c}

private theorem program_eq {status : DotCastCreatorEconomyStatus}
    (hready : assertCreatorEconomyReady js c.env c.hasDatabase = .ok status)
    (hkey : c.key.idempotencyKey ≠ "") : c.program js =
      Crediting.getPayoutByIdempotencyKey c.key.idempotencyKey >>= c.afterLookup js status := by
  have htext : Creator.requireText c.input.idempotencyKey "idempotencyKey" =
      .ok c.key.idempotencyKey := requireText_eq_ok.mpr ⟨hkey, rfl⟩
  unfold program requestDotCastCreatorPayout
  rw [hready, htext]
  simp only [Program.ok_bind]
  congr 1

/-- A call fails at once, or it looks its key up. -/
theorem program_cases (js : Runtime) (c : CreatorPayoutCall) :
    (∃ e, c.program js = .done (.error e)) ∨ ∃ status,
      assertCreatorEconomyReady js c.env c.hasDatabase = .ok status ∧ c.key.idempotencyKey ≠ "" ∧
        c.program js =
          Crediting.getPayoutByIdempotencyKey c.key.idempotencyKey >>= c.afterLookup js status := by
  rcases hready : assertCreatorEconomyReady js c.env c.hasDatabase with e | status
  · refine Or.inl ⟨e, ?_⟩
    unfold program requestDotCastCreatorPayout
    rw [hready]
    rfl
  by_cases hkey : c.key.idempotencyKey = ""
  · have hprogram : c.program js =
        .done (.error ⟨"idempotencyKey is required", some "INVALID_CREATOR_INPUT", some 400⟩) := by
      unfold program requestDotCastCreatorPayout
      rw [hready, requireText_blank hkey]
      rfl
    exact Or.inl ⟨_, hprogram⟩
  · exact Or.inr ⟨status, rfl, hkey, program_eq hready hkey⟩

end CreatorPayoutCall

/-- A payout of the key is stored, with the earnings it was taken from. -/
structure PayoutKey.Stored (js : Runtime) (key : PayoutKey) (t : CreatorStore) : Prop where
  creator : key.creatorId ≠ ""
  named : key.idempotencyKey ≠ ""
  ready : ∃ env hasDatabase status, assertCreatorEconomyReady js env hasDatabase = .ok status
  payout : ∃ p row, t.payoutByKey key.idempotencyKey = some p ∧ p.creatorId = key.creatorId ∧
    p.requestedAt = p.updatedAt ∧ t.balances.get? (key.creatorId, .usdc) = some row ∧
      row.updatedAt = p.updatedAt

section Requests

variable {js : Runtime} {key : PayoutKey} {s t : CreatorStore}

private theorem replayPayout_endsIn {status : DotCastCreatorEconomyStatus}
    {existing : DotCastCreatorPayout}
    (hend : EndsIn (creatorHandler js) (replayPayout status existing) s t) : t = s := by
  unfold replayPayout requireCreatorBalance at hend
  rw [Program.bind_assoc, Program.perform_bind] at hend
  cases hend with
  | served hrest =>
    simp only [creatorHandler] at hrest
    rcases hread : readRow (Creator.balanceFromRow js)
      (s.balances.get? (existing.creatorId, .usdc)) with e | _ | row
    all_goals
      rw [hread] at hrest
      cases hrest
      rfl
  | failed e hrest =>
    cases hrest
    rfl

/-- A request under a key with a payout leaves everything as it is. -/
theorem request_endsIn_of_stored {c : CreatorPayoutCall} {p : DotCastCreatorPayout}
    (hp : s.payoutByKey c.key.idempotencyKey = some p)
    (hend : EndsIn (creatorHandler js) (c.program js) s t) : t = s := by
  rcases c.program_cases js with ⟨e, hprogram⟩ | ⟨status, -, -, hprogram⟩
  · rw [hprogram] at hend
    cases hend
    rfl
  rw [hprogram, Program.perform_bind] at hend
  cases hend with
  | failed e hrest =>
    cases hrest
    rfl
  | served hrest =>
    simp only [creatorHandler, hp, readRow] at hrest
    rcases hrow : Creator.payoutFromRow js p with e | existing
    · rw [hrow] at hrest
      cases hrest
      rfl
    · rw [hrow] at hrest
      exact replayPayout_endsIn hrest

/-- What the calls of a payout make of the stores. -/
def Progress (js : Runtime) (key : PayoutKey) (s : CreatorStore) :
    PayoutPhase → CreatorStore → Prop
  | .drawing, t => s.LeftBehind js key t
  | .drawn, t => s.LeftBehind js key t ∨ key.Stored js t

/-- Storing the payout either leaves no payout behind or one of the key. -/
theorem insertPayout_progress {p : DotCastCreatorPayout}
    {row : DotCastCreatorEarningsBalance} {e : DotCastCreatorEvent} (h : s.LeftBehind js key t)
    (hne : key.creatorId ≠ "") (hnamed : key.idempotencyKey ≠ "")
    (hready : ∃ env hasDatabase status, assertCreatorEconomyReady js env hasDatabase = .ok status)
    (hmay : PayoutPhase.drawing.May js key (.insertPayout p row e)) :
    s.LeftBehind js key (creatorHandler js (.insertPayout p row e) t).2 ∨
      key.Stored js (creatorHandler js (.insertPayout p row e) t).2 := by
  have hapart := h.toAgreeApart.trans (CreatorStore.AgreeApart.call (s := t) hmay)
  obtain ⟨-, hcreator, hkey, htime, hrow, hunit, hrowTime, -⟩ := hmay
  simp only [creatorHandler, CreatorStore.batch] at hapart ⊢
  split_ifs with hvalid
  · by_cases hfree : p.Valid ∧ ¬t.PayoutTaken p
    · refine Or.inr ⟨hne, hnamed, hready, p, row, ?_, hcreator, htime, ?_, hrowTime⟩
      · refine CreatorStore.payoutByKey_eq_some.mpr ⟨hkey, p.payoutId, ?_⟩
        simp only [CreatorStore.payouts_insertEventRow, CreatorStore.putBalance,
          CreatorStore.payouts_insertPayoutRow, if_pos hfree, Rows.get?_set_self]
      · simp only [CreatorStore.balances_insertEventRow, CreatorStore.putBalance]
        rw [hrow, hunit, Rows.get?_set_self]
    · refine Or.inl { toAgreeApart := ?_, samePayouts := ?_ }
      · rwa [dif_pos hvalid] at hapart
      · simp only [CreatorStore.payouts_insertEventRow, CreatorStore.putBalance,
          CreatorStore.payouts_insertPayoutRow, if_neg hfree]
        exact h.samePayouts
  · exact Or.inl h

/-- A call that does not store the payout leaves none behind. -/
theorem LeftBehind.other {k : PayoutPhase} {op : CreatorOp} (h : s.LeftBehind js key t)
    (hmay : k.May js key op) (hop : (creatorHandler js op t).2.payouts = t.payouts) :
    s.LeftBehind js key (creatorHandler js op t).2 where
  toAgreeApart := h.toAgreeApart.trans (CreatorStore.AgreeApart.call hmay)
  samePayouts := by rw [hop, h.samePayouts]

private theorem progress_served {k : PayoutPhase} {op : CreatorOp} (hne : key.creatorId ≠ "")
    (hnamed : key.idempotencyKey ≠ "")
    (hready : ∃ env hasDatabase status, assertCreatorEconomyReady js env hasDatabase = .ok status)
    (hmay : k.May js key op) (h : Progress js key s k t) :
    Progress js key s (k.after op (creatorHandler js op t).1) (creatorHandler js op t).2 := by
  cases k with
  | drawn => cases op <;> cases hmay
  | drawing =>
    cases op with
    | rail op => exact LeftBehind.other h hmay rfl
    | getCreator id => exact LeftBehind.other h hmay rfl
    | getBalance id unit => exact LeftBehind.other h hmay rfl
    | insertPayout p row e =>
      have hprogress := insertPayout_progress h hne hnamed hready hmay
      rcases hanswer : (creatorHandler js (.insertPayout p row e) t).1 with error | answer
      · have hrefused : (creatorHandler js (.insertPayout p row e) t).2 = t := by
          simp only [creatorHandler, CreatorStore.batch] at hanswer ⊢
          split_ifs at hanswer ⊢ with hvalid
          rfl
        rw [hrefused]
        exact h
      · exact hprogress
    | _ => cases hmay

seal Program.Follows in
private theorem afterLookup_follows (c : CreatorPayoutCall) (js : Runtime)
    (status : DotCastCreatorEconomyStatus) (hkey : c.key.idempotencyKey ≠ "") :
    (c.afterLookup js status none).Follows (payoutDiscipline js c.key) (ReturnsOwn c.key)
      .drawing :=
  makePayout_follows rfl (JavaScript.trim_trim _) hkey

seal Program.Follows in
/-- A request under a key without a payout leaves no payout behind or one of the key. -/
theorem request_endsIn {c : CreatorPayoutCall} (hnone : s.payoutByKey c.key.idempotencyKey = none)
    (hend : EndsIn (creatorHandler js) (c.program js) s t) :
    s.LeftBehind js c.key t ∨ c.key.Stored js t := by
  have hrefl : s.LeftBehind js c.key s := ⟨.refl js c.key s, rfl⟩
  rcases c.program_cases js with ⟨e, hprogram⟩ | ⟨status, hready, hkey, hprogram⟩
  · rw [hprogram] at hend
    cases hend
    exact Or.inl hrefl
  rw [hprogram, Program.perform_bind] at hend
  cases hend with
  | failed e hrest =>
    cases hrest
    exact Or.inl hrefl
  | served hrest =>
    simp only [creatorHandler, hnone, readRow, Program.ok_bind] at hrest
    by_cases hne : c.key.creatorId = ""
    · unfold CreatorPayoutCall.afterLookup makePayout requireActiveCreator at hrest
      rw [requireText_blank hne] at hrest
      cases hrest
      exact Or.inl hrefl
    have hfollows := afterLookup_follows c js status hkey
    have hserved : ∀ k op u, k.May js c.key op → Progress js c.key s k u →
        ExpectsRows op (creatorHandler js op u).1 ∧
          ∀ k', k' = k.after op (creatorHandler js op u).1 →
            Progress js c.key s k' (creatorHandler js op u).2 := by
      intro k op u hmay hu
      refine ⟨expectsRows js op u, ?_⟩
      rintro _ rfl
      exact progress_served hne hkey ⟨_, _, _, hready⟩ hmay hu
    have hfailed : ∀ k op u (e : Fault), k.May js c.key op → Progress js c.key s k u →
        ExpectsRows op (.error e) ∧
          ∀ k', k' = k.after op (.error e) → Progress js c.key s k' u := by
      intro k op u e hmay hu
      refine ⟨expectsRows_error op e, ?_⟩
      rintro _ rfl
      have hk : k.after op (.error e) = k := by cases op <;> rfl
      rwa [hk]
    obtain ⟨k, hk⟩ := hfollows.endsIn hserved hfailed hrefl hrest
    cases k with
    | drawing => exact Or.inl hk
    | drawn => exact hk

/-! ## Histories -/

/-- What requests of a creator under a key may lead to when any of their calls may fail. -/
def PayoutRequests (js : Runtime) (key : PayoutKey) : CreatorStore → CreatorStore → Prop :=
  Relation.ReflTransGen fun s t =>
    ∃ c : CreatorPayoutCall, c.key = key ∧ EndsIn (creatorHandler js) (c.program js) s t

private theorem LeftBehind.trans {r : CreatorStore} (h : r.LeftBehind js key s)
    (h' : s.LeftBehind js key t) : r.LeftBehind js key t where
  toAgreeApart := h.toAgreeApart.trans h'.toAgreeApart
  samePayouts := h'.samePayouts.trans h.samePayouts

/-- Requests of a creator change nothing, leave no payout behind, or store the first payout
under their key. -/
theorem PayoutRequests.cases (h : PayoutRequests js key s t) :
    t = s ∨ s.payoutByKey key.idempotencyKey = none ∧
      (s.LeftBehind js key t ∨ key.Stored js t) := by
  induction h with
  | refl => exact Or.inl rfl
  | tail _ hlast ih =>
    obtain ⟨c, rfl, hend⟩ := hlast
    rcases ih with heq | ⟨hnone, hleft | hstored⟩
    · rw [heq] at hend
      cases hp : s.payoutByKey c.key.idempotencyKey with
      | some p => exact Or.inl (request_endsIn_of_stored hp hend)
      | none => exact Or.inr ⟨rfl, request_endsIn hp hend⟩
    · have hstill := CreatorStore.payoutByKey_congr hleft.samePayouts c.key.idempotencyKey
      rcases request_endsIn (hstill.trans hnone) hend with hmore | hstored
      · exact Or.inr ⟨hnone, Or.inl (LeftBehind.trans hleft hmore)⟩
      · exact Or.inr ⟨hnone, Or.inr hstored⟩
    · obtain ⟨p, row, hp, -⟩ := hstored.payout
      obtain rfl := request_endsIn_of_stored hp hend
      exact Or.inr ⟨hnone, Or.inr hstored⟩

end Requests

/-! ## What a request is refused for -/

/-- A row of a stored payout may be refused for these. -/
def replayRefusals : List String :=
  ["payout_id is required", "amount must be a safe integer", "destination is required",
    "idempotency_key is required", "rail_transfer_id is required", "rail_tx_ref is required",
    "mock_signature is required", "requested_at is required", "available must be a safe integer",
    "pending_payout must be a safe integer", "lifetime_accrued must be a safe integer",
    "lifetime_paid must be a safe integer"]

/-- A request without a payout and without an amount may be refused for these. -/
def requestRefusals : List String :=
  ["creatorId is required", "creator_id is required", "display_name is required",
    "payout_destination is required", "accuracy_bps must be a safe integer",
    "retention_bps must be a safe integer", "volume_score must be a safe integer",
    "created_at is required", "updated_at is required",
    "creator is not active or has not been onboarded",
    "creator payout requires a KYC-verified creator identity",
    "manual creator payout schedule requires operator approval",
    "amount must be a positive integer minor-unit amount"]

private theorem notMem_requestRefusals {message : String} (h : message ∈ replayRefusals) :
    message ∉ requestRefusals := by
  revert message
  decide

section Refusals

open Except (ThrowsOnly throwsOnly_ok throwsOnly_error)

variable {js : Runtime} {refusals : List String}

private abbrev RefusedFor (refusals : List String) {α : Type} (x : Except Fault α) : Prop :=
  x.ThrowsOnly fun e => e.message ∈ refusals

private theorem textColumn_refused {code value label : String}
    (h : value = "" → label ++ " is required" ∈ refusals) :
    RefusedFor refusals (textColumn code value label) := by
  unfold textColumn
  split_ifs with hvalue
  · exact throwsOnly_error (h hvalue)
  · exact throwsOnly_ok _

private theorem integerColumn_refused {code label : String} {value : ℤ}
    (h : label ++ " must be a safe integer" ∈ refusals) :
    RefusedFor refusals (integerColumn js code value label) := by
  unfold integerColumn
  split_ifs
  · exact throwsOnly_ok _
  · exact throwsOnly_error h

private theorem requireText_refused {value label : String}
    (h : label ++ " is required" ∈ refusals) :
    RefusedFor refusals (Creator.requireText value label) := by
  unfold Creator.requireText DotCast.requireText
  split_ifs
  · exact throwsOnly_ok _
  · exact throwsOnly_error h

private theorem parseNullableText_refused {value : Option String} {label : String}
    (h : label ++ " is required" ∈ refusals) :
    RefusedFor refusals (Creator.parseNullableText value label) := by
  unfold Creator.parseNullableText
  cases nullableText value with
  | none => exact throwsOnly_ok _
  | some text => exact (requireText_refused h).map

private theorem creatorFromRow_refused (row : DotCastCreatorProfile) :
    RefusedFor requestRefusals (Creator.creatorFromRow js row) := by
  unfold Creator.creatorFromRow
  refine (textColumn_refused fun _ => by decide).bind fun _ _ => ?_
  refine (textColumn_refused fun _ => by decide).bind fun _ _ => ?_
  refine (parseNullableText_refused (by decide)).bind fun _ _ => ?_
  refine (integerColumn_refused (by decide)).bind fun _ _ => ?_
  refine (integerColumn_refused (by decide)).bind fun _ _ => ?_
  refine (integerColumn_refused (by decide)).bind fun _ _ => ?_
  refine (textColumn_refused fun _ => by decide).bind fun _ _ => ?_
  refine (textColumn_refused fun _ => by decide).bind fun _ _ => ?_
  exact throwsOnly_ok _

private theorem payoutFromRow_refused {row : DotCastCreatorPayout} (hcreator : row.creatorId ≠ "")
    (htime : row.requestedAt = row.updatedAt) :
    RefusedFor replayRefusals (Creator.payoutFromRow js row) := by
  unfold Creator.payoutFromRow
  refine (textColumn_refused fun _ => by decide).bind fun _ _ => ?_
  refine (textColumn_refused fun h => absurd h hcreator).bind fun _ _ => ?_
  refine (integerColumn_refused (by decide)).bind fun _ _ => ?_
  refine (textColumn_refused fun _ => by decide).bind fun _ _ => ?_
  refine (textColumn_refused fun _ => by decide).bind fun _ _ => ?_
  refine (parseNullableText_refused (by decide)).bind fun _ _ => ?_
  refine (parseNullableText_refused (by decide)).bind fun _ _ => ?_
  refine (parseNullableText_refused (by decide)).bind fun _ _ => ?_
  refine (textColumn_refused fun _ => by decide).bind fun _ hrequested => ?_
  have hne := (textColumn_eq_ok.mp hrequested).1
  rw [htime] at hne
  refine (textColumn_refused fun h => absurd h hne).bind fun _ _ => ?_
  exact throwsOnly_ok _

private theorem balanceFromRow_refused {row : DotCastCreatorEarningsBalance}
    (hcreator : row.creatorId ≠ "")
    (htime : row.updatedAt ≠ "") :
    RefusedFor replayRefusals (Creator.balanceFromRow js row) := by
  unfold Creator.balanceFromRow
  refine (textColumn_refused fun h => absurd h hcreator).bind fun _ _ => ?_
  refine (integerColumn_refused (by decide)).bind fun _ _ => ?_
  refine (integerColumn_refused (by decide)).bind fun _ _ => ?_
  refine (integerColumn_refused (by decide)).bind fun _ _ => ?_
  refine (integerColumn_refused (by decide)).bind fun _ _ => ?_
  refine (textColumn_refused fun h => absurd h htime).bind fun _ _ => ?_
  exact throwsOnly_ok _

private theorem requireActiveCreator_refused {creatorId : String} {s : CreatorStore} :
    RefusedFor requestRefusals
      (Program.run (creatorHandler js) (requireActiveCreator creatorId) s).1 := by
  unfold requireActiveCreator
  rcases hid : Creator.requireText creatorId "creatorId" with e | id
  · exact throwsOnly_error (requireText_refused (by decide) e hid)
  simp only [Program.ok_bind]
  rw [Program.run_perform_bind]
  simp only [creatorHandler]
  rcases hread : readRow (Creator.creatorFromRow js) (s.creators.get? id) with e | found
  · apply throwsOnly_error
    cases hrow : s.creators.get? id with
    | none =>
      rw [hrow] at hread
      cases hread
    | some row =>
      rw [hrow] at hread
      exact (creatorFromRow_refused row).map e hread
  · dsimp only
    cases found.filter fun c => c.status = .active with
    | none =>
      apply throwsOnly_error
      decide
    | some creator => exact throwsOnly_ok creator

/-- No payout has this amount. -/
theorem checkPayout_nan {status : DotCastCreatorEconomyStatus} {creator : DotCastCreatorProfile}
    {input : RequestCreatorPayoutInput} (hamount : input.amount = .nan) :
    ∃ e, checkPayout js status creator input = .error e ∧ e.message ∈ requestRefusals := by
  unfold checkPayout
  by_cases hkyc : creator.kycStatus ≠ .verified
  · rw [Except.throwIf, if_pos hkyc]
    exact ⟨_, rfl, by decide⟩
  rw [Except.throwIf_of_not _ hkyc]
  by_cases happroved : status.payoutSchedule = .manual ∧ input.operatorApproved ≠ some true
  · rw [Except.throwIf, if_pos happroved]
    exact ⟨_, rfl, by decide⟩
  rw [Except.throwIf_of_not _ happroved, hamount]
  exact ⟨_, rfl, by decide⟩

/-- Where no payout is stored, a request without an amount is refused. -/
theorem run_of_none {c : CreatorPayoutCall} {status : DotCastCreatorEconomyStatus}
    (hready : assertCreatorEconomyReady js c.env c.hasDatabase = .ok status)
    (hkey : c.key.idempotencyKey ≠ "") (hamount : c.input.amount = .nan) {s : CreatorStore}
    (hnone : s.payoutByKey c.key.idempotencyKey = none) :
    ∃ e, (c.run js s).1 = .error e ∧ e.message ∈ requestRefusals := by
  unfold CreatorPayoutCall.run
  rw [CreatorPayoutCall.program_eq hready hkey, Program.run_perform_bind]
  simp only [creatorHandler, hnone, readRow, CreatorPayoutCall.afterLookup]
  unfold makePayout
  rw [Program.run_bind]
  have hrefused : RefusedFor requestRefusals
      (Program.run (creatorHandler js) (requireActiveCreator c.input.creatorId) s).1 :=
    requireActiveCreator_refused
  rcases hrun : Program.run (creatorHandler js) (requireActiveCreator c.input.creatorId) s with
    ⟨e | creator, s'⟩
  · rw [hrun] at hrefused
    exact ⟨e, rfl, hrefused e rfl⟩
  · have hcheck : ∃ e, checkPayout js status creator c.input = .error e ∧
        e.message ∈ requestRefusals := checkPayout_nan hamount
    obtain ⟨e, hcheck, he⟩ := hcheck
    simp only [hcheck]
    exact ⟨e, rfl, he⟩

/-- Where a payout is stored, it is returned, or its rows are refused. -/
theorem run_of_stored {a : PayoutKey} {c : CreatorPayoutCall} {status : DotCastCreatorEconomyStatus}
    (hready : assertCreatorEconomyReady js c.env c.hasDatabase = .ok status)
    (hkey : c.key.idempotencyKey ≠ "") {t : CreatorStore} (hstored : a.Stored js t)
    (hsame : a.idempotencyKey = c.key.idempotencyKey) {e : Fault} (he : (c.run js t).1 = .error e) :
    e.message ∈ replayRefusals := by
  obtain ⟨p, row, hp, hcreator, htime, hrow, hrowTime⟩ := hstored.payout
  unfold CreatorPayoutCall.run at he
  rw [CreatorPayoutCall.program_eq hready hkey, Program.run_perform_bind] at he
  simp only [creatorHandler, ← hsame, hp, readRow] at he
  rcases hread : Creator.payoutFromRow js p with error | existing
  · rw [hread] at he
    obtain rfl : error = e := by
      cases he
      rfl
    exact payoutFromRow_refused (by rw [hcreator]; exact hstored.creator) htime error hread
  obtain ⟨hexisting, hne⟩ := Creator.creatorId_of_payoutFromRow hread
  rw [hread] at he
  simp only [Except.map, CreatorPayoutCall.afterLookup, replayPayout, requireCreatorBalance] at he
  rw [Program.bind_assoc, Program.run_perform_bind] at he
  simp only [creatorHandler, hexisting, hcreator, hrow, readRow] at he
  rcases hbalance : Creator.balanceFromRow js row with error | balance
  · rw [hbalance] at he
    obtain rfl : error = e := by
      cases he
      rfl
    have hrowCreator : row.creatorId ≠ "" := by
      rw [(Prod.mk.inj (t.balances_ok _ _ hrow).1).1]
      exact hstored.creator
    exact balanceFromRow_refused hrowCreator (by rwa [hrowTime]) error hbalance
  · rw [hbalance] at he
    cases he

end Refusals

/-! ## Requests of another creator -/

section Independence

variable {js : Runtime} {a : PayoutKey} {s t : CreatorStore} {c : CreatorPayoutCall}

seal Program.Follows in
/-- A request under a key without a payout does the same with what another creator's requests
have left behind, and returns what is its own creator's. -/
theorem LeftBehind.run (hne : a.creatorId ≠ c.key.creatorId)
    (hkey : a.idempotencyKey = c.key.idempotencyKey) (h : s.LeftBehind js a t)
    (hnone : s.payoutByKey c.key.idempotencyKey = none) :
    (c.run js t).1 = (c.run js s).1 ∧ s.SameWrites (c.run js s).2 t (c.run js t).2 ∧
      ∀ r, (c.run js t).1 = .ok r →
        r.payout.creatorId = c.key.creatorId ∧ r.balance.creatorId = c.key.creatorId := by
  have hnone' : t.payoutByKey c.key.idempotencyKey = none := by
    rw [CreatorStore.payoutByKey_congr h.samePayouts]
    exact hnone
  unfold CreatorPayoutCall.run
  rcases c.program_cases js with ⟨e, hprogram⟩ | ⟨status, -, hkeyNe, hprogram⟩
  · rw [hprogram]
    refine ⟨rfl, .unchanged s t, ?_⟩
    rintro r ⟨⟩
  have hrun : ∀ u : CreatorStore, u.payoutByKey c.key.idempotencyKey = none →
      Program.run (creatorHandler js) (c.program js) u =
        Program.run (creatorHandler js) (c.afterLookup js status none) u := by
    intro u hu
    rw [hprogram, Program.run_perform_bind]
    simp only [creatorHandler, hu, readRow]
  have hfollows := afterLookup_follows c js status hkeyNe
  have hframe : ∀ u : CreatorStore, u.AgreeApart js c.key
      (Program.run (creatorHandler js) (c.afterLookup js status none) u).2 := by
    intro u
    have hserved : ∀ (k : PayoutPhase) op v, k.May js c.key op → u.AgreeApart js c.key v →
        ExpectsRows op (creatorHandler js op v).1 ∧
          ∀ k', k' = k.after op (creatorHandler js op v).1 →
            u.AgreeApart js c.key (creatorHandler js op v).2 :=
      fun k op v hmay hv => ⟨expectsRows js op v, fun _ _ => hv.trans (.call hmay)⟩
    have hfailed : ∀ (k : PayoutPhase) op v (e : Fault), k.May js c.key op →
        u.AgreeApart js c.key v → ExpectsRows op (.error e) ∧
          ∀ k', k' = k.after op (.error e) → u.AgreeApart js c.key v :=
      fun k op v e _ hv => ⟨expectsRows_error op e, fun _ _ => hv⟩
    obtain ⟨-, hu⟩ := hfollows.endsIn hserved hfailed (.refl js c.key u) (Program.endsIn_run _ u)
    exact hu
  have hcall : ∀ (k : PayoutPhase) op u v, k.May js c.key op → u.LeftBehind js a v →
      ExpectsRows op (creatorHandler js op u).1 ∧
        (creatorHandler js op v).1 = (creatorHandler js op u).1 ∧
          (creatorHandler js op u).2.LeftBehind js a (creatorHandler js op v).2 :=
    fun k op u v hmay huv => ⟨expectsRows js op u, huv.answers hne hkey hmay⟩
  obtain ⟨hresult, hrelated⟩ := hfollows.run_related hcall h
  rw [hrun s hnone, hrun t hnone']
  refine ⟨hresult, (hframe s).sameWrites hne hkey (hframe t) hrelated.toAgreeApart, ?_⟩
  have hown : ∃ k, ReturnsOwn c.key k
      (Program.run (creatorHandler js) (c.afterLookup js status none) t).1 :=
    hfollows.run_post fun _ op u _ => expectsRows js op u
  obtain ⟨_, hown⟩ := hown
  exact hown

/-- A request under a key with a payout returns that payout's creator's. -/
theorem run_of_payout {p : DotCastCreatorPayout}
    (hp : s.payoutByKey c.key.idempotencyKey = some p) {r : CreatorPayoutResult}
    (hr : (c.run js s).1 = .ok r) :
    r.payout.creatorId = p.creatorId ∧ r.balance.creatorId = p.creatorId := by
  unfold CreatorPayoutCall.run at hr
  rcases c.program_cases js with ⟨e, hprogram⟩ | ⟨status, -, -, hprogram⟩
  · rw [hprogram] at hr
    cases hr
  rw [hprogram, Program.run_perform_bind] at hr
  simp only [creatorHandler, hp, readRow] at hr
  rcases hread : Creator.payoutFromRow js p with e | existing
  · rw [hread] at hr
    cases hr
  obtain ⟨hexisting, -⟩ := Creator.creatorId_of_payoutFromRow hread
  rw [hread] at hr
  simp only [Except.map, CreatorPayoutCall.afterLookup, replayPayout, requireCreatorBalance] at hr
  rw [Program.bind_assoc, Program.run_perform_bind] at hr
  simp only [creatorHandler] at hr
  rcases hbalance : readRow (Creator.balanceFromRow js)
      (s.balances.get? (existing.creatorId, .usdc)) with e | _ | balance
  · rw [hbalance] at hr
    cases hr
  · rw [hbalance] at hr
    cases hr
  · rw [hbalance] at hr
    cases hr
    obtain ⟨row, hrow, hb⟩ := readRow_eq_ok_some.mp hbalance
    obtain rfl := Creator.eq_of_balanceFromRow hb
    exact ⟨hexisting, ((Prod.mk.inj (s.balances_ok _ _ hrow).1).1).trans hexisting⟩

/-- Requests of one creator under a key show in the requests of another creator under it exactly
when they have stored a payout: a later request then returns that payout instead of making its
own. -/
theorem requestDotCastCreatorPayout_independent_iff {creatorA creatorB idempotencyKey : String}
    (hne : JavaScript.trim creatorA ≠ JavaScript.trim creatorB)
    (hrequests :
      PayoutRequests js ⟨JavaScript.trim creatorA, JavaScript.trim idempotencyKey⟩ s t) :
    (∀ c : CreatorPayoutCall,
      c.key = ⟨JavaScript.trim creatorB, JavaScript.trim idempotencyKey⟩ →
        ((c.run js t).1 = (c.run js s).1 ∧ s.SameWrites (c.run js s).2 t (c.run js t).2) ∧
          ((∀ p, s.payoutByKey (JavaScript.trim idempotencyKey) = some p →
              p.creatorId ≠ JavaScript.trim creatorA) →
            ∀ r, (c.run js t).1 = .ok r → r.payout.creatorId ≠ JavaScript.trim creatorA ∧
              r.balance.creatorId ≠ JavaScript.trim creatorA)) ↔
      t.payoutByKey (JavaScript.trim idempotencyKey) =
        s.payoutByKey (JavaScript.trim idempotencyKey) := by
  set key := JavaScript.trim idempotencyKey with hkeyDef
  constructor
  · intro hindependent
    rcases PayoutRequests.cases hrequests with rfl | ⟨hnone, hleft | hstored⟩
    · rfl
    · exact CreatorStore.payoutByKey_congr hleft.samePayouts key
    exfalso
    obtain ⟨env, hasDatabase, status, hready⟩ := hstored.ready
    let c : CreatorPayoutCall :=
      ⟨env, "", ⟨creatorB, .nan, none, idempotencyKey, none, none⟩, hasDatabase⟩
    have hc : c.key = ⟨JavaScript.trim creatorB, key⟩ := rfl
    have hnamed : c.key.idempotencyKey ≠ "" := hstored.named
    obtain ⟨e, he, hmessage⟩ := run_of_none (c := c) hready hnamed rfl hnone
    have hsame := ((hindependent c hc).1.1).trans he
    exact notMem_requestRefusals (run_of_stored (c := c) hready hnamed hstored rfl hsame) hmessage
  · intro hsame c hc
    have hcreator : c.key.creatorId = JavaScript.trim creatorB := by rw [hc]
    have hcKey : c.key.idempotencyKey = key := by rw [hc]
    have hcNe : JavaScript.trim creatorA ≠ c.key.creatorId := by rwa [hcreator]
    have hown : ∀ {u : CreatorStore}, s.LeftBehind js ⟨JavaScript.trim creatorA, key⟩ u →
        s.payoutByKey key = none → ∀ r, (c.run js u).1 = .ok r →
          r.payout.creatorId ≠ JavaScript.trim creatorA ∧
            r.balance.creatorId ≠ JavaScript.trim creatorA := by
      intro u hu hnone r hr
      obtain ⟨-, -, hreturns⟩ := LeftBehind.run hcNe hcKey.symm hu (by rwa [hcKey])
      obtain ⟨hpayout, hbalance⟩ := hreturns r hr
      rw [hpayout, hbalance, hcreator]
      exact ⟨hne.symm, hne.symm⟩
    rcases PayoutRequests.cases hrequests with rfl | ⟨hnone, hleft | hstored⟩
    · refine ⟨⟨rfl, .refl _ _⟩, ?_⟩
      intro hother r hr
      cases hp : t.payoutByKey key with
      | none => exact hown ⟨.refl js _ t, rfl⟩ hp r hr
      | some p =>
        obtain ⟨hpayout, hbalance⟩ := run_of_payout (by rwa [hcKey]) hr
        rw [hpayout, hbalance]
        exact ⟨hother p hp, hother p hp⟩
    · obtain ⟨hresult, hwrites, -⟩ := LeftBehind.run hcNe hcKey.symm hleft (by rwa [hcKey])
      exact ⟨⟨hresult, hwrites⟩, fun _ => hown hleft hnone⟩
    · obtain ⟨p, row, hp, -⟩ := hstored.payout
      rw [show t.payoutByKey key = some p from hp, hnone] at hsame
      cases hsame

end Independence

/-! ## Two creators with one key -/

/-- A development network where payouts of any size need no approval. -/
def payoutEnv : DotCastCreatorEconomyEnv where
  settlementRailMode := some "devnet"
  solanaCluster := none
  solanaUsdcMint := none
  settlementSignerMode := none
  operatorWithdrawalsApproved := none
  withdrawalMaxMinorUnits := none
  depositConfirmationsRequired := none
  creatorEconomyEnabled := none
  rakeShareCasualBps := none
  rakeShareVerifiedBps := none
  rakeSharePartnerBps := none
  payoutMinMinorUnits := some "1"
  payoutMaxMinorUnits := none
  payoutSchedule := some "on_demand"
  minRetentionBps := none
  seedHandlingFeeBps := none

def verifiedCreator (creatorId : String) : DotCastCreatorProfile :=
  ⟨creatorId, creatorId, .verified, .active, .verified, none, 0, 0, 0, false, false, "t", "t"⟩

/-- Alice and Bob have earned 100 each. -/
def twoCreators : CreatorStore :=
  (((CreatorStore.empty.putCreator (verifiedCreator "alice")).putCreator
    (verifiedCreator "bob")).putBalance ⟨"alice", .usdc, 100, 0, 100, 0, "t"⟩
      (by decide)).putBalance
      ⟨"bob", .usdc, 100, 0, 100, 0, "t"⟩ (by decide)

def payoutCall (creatorId : String) (amount : ℚ) : CreatorPayoutCall :=
  ⟨payoutEnv, "t",
    ⟨creatorId, .finite amount, some "11111111111111111111111111111111", "k", none, none⟩,
    true⟩

/-- The store after Alice's payout. -/
def alicePaid : CreatorStore :=
  ((payoutCall "alice" 40).run (JavaScript.reference .double) twoCreators).2

private theorem alice_requests : PayoutRequests (JavaScript.reference .double)
    ⟨JavaScript.trim "alice", JavaScript.trim "k"⟩ twoCreators alicePaid :=
  .single ⟨payoutCall "alice" 40, rfl, Program.endsIn_run _ _⟩

/-- Bob's request under Alice's key is answered with her payout and her balance. -/
theorem bob_reads_payout_of_alice :
    ∃ s t, PayoutRequests (JavaScript.reference .double) ⟨"alice", "k"⟩ s t ∧
      s.payoutByKey "k" = none ∧
        (((payoutCall "bob" 60).run (JavaScript.reference .double) s).1.toOption.map fun r =>
          (r.payout.creatorId, r.payout.amount, r.balance.creatorId)) = some ("bob", 60, "bob") ∧
          (((payoutCall "bob" 60).run (JavaScript.reference .double) t).1.toOption.map fun r =>
            (r.payout.creatorId, r.payout.amount, r.balance.creatorId)) =
              some ("alice", 40, "alice") := by
  have htrim : JavaScript.trim "alice" = "alice" ∧ JavaScript.trim "k" = "k" := by decide
  have hrequests := alice_requests
  rw [htrim.1, htrim.2] at hrequests
  exact ⟨twoCreators, alicePaid, hrequests, by decide +kernel, by decide +kernel, by decide +kernel⟩

/-- Alice's payout shows in Bob's requests under its key. -/
theorem requestDotCastCreatorPayout_independent_iff_alice :
    ¬∀ c : CreatorPayoutCall, c.key = ⟨JavaScript.trim "bob", JavaScript.trim "k"⟩ →
      ((c.run (JavaScript.reference .double) alicePaid).1 =
          (c.run (JavaScript.reference .double) twoCreators).1 ∧
        twoCreators.SameWrites (c.run (JavaScript.reference .double) twoCreators).2 alicePaid
          (c.run (JavaScript.reference .double) alicePaid).2) ∧
        ((∀ p, twoCreators.payoutByKey (JavaScript.trim "k") = some p →
            p.creatorId ≠ JavaScript.trim "alice") →
          ∀ r, (c.run (JavaScript.reference .double) alicePaid).1 = .ok r →
            r.payout.creatorId ≠ JavaScript.trim "alice" ∧
              r.balance.creatorId ≠ JavaScript.trim "alice") := by
  rw [requestDotCastCreatorPayout_independent_iff (by decide) alice_requests]
  decide +kernel

end Yevow.DotCast
