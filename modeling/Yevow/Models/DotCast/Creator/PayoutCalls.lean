import Yevow.Core.Effect.Faults
import Yevow.Models.DotCast.Creator.Economy

/-!
# The calls of a payout

A payout that is made reads and writes the creator's own earnings, their balance on the
rail, one transfer of the rail and one payout, both under ids made of the creator's id and
the idempotency key, and events under such ids.
-/

namespace Yevow.DotCast

open JavaScript (Runtime EndsPlain)

/-- The creator and the key of a payout request. -/
structure PayoutKey where
  creatorId : String
  idempotencyKey : String
  deriving DecidableEq

namespace PayoutKey

variable (key : PayoutKey)

/-- The creator's user on the rail. -/
def railUserId : String := "creator:" ++ key.creatorId

/-- The withdrawal on the rail. -/
def transferId : String := withdrawalId key.railUserId ("creator:" ++ key.idempotencyKey)

/-- The identifier of a payout. -/
def payoutId : String := "dotcast:e11:payout:" ++ key.creatorId ++ ":" ++ key.idempotencyKey

/-- The ids of the events the rail records. -/
def RailEventId (eventId : String) : Prop :=
  eventId = key.transferId ++ ":" ++ RailEventType.withdrawalRequested.lower ∨
    eventId = key.transferId ++ ":" ++ RailEventType.withdrawalSigned.lower

/-- The events the creator store records. -/
def RequestEvent (js : Runtime) (event : DotCastCreatorEvent) : Prop :=
  ∃ creator amount clock, creator.creatorId = key.creatorId ∧
    event = creatorEvent js "CREATOR_PAYOUT_REQUESTED" creator none (some .usdc) (some amount) clock

end PayoutKey

/-- Whether the payout is stored yet. -/
inductive PayoutPhase
  | drawing
  | drawn

/-- The calls to the funding store before the payout is stored. -/
def PayoutPhase.MayFund (key : PayoutKey) : PayoutPhase → FundingOp → Prop
  | drawing, .getBalance userId => userId = key.railUserId
  | drawing, .saveBalance b => b.userId = key.railUserId
  | drawing, .getTransfer transferId => transferId = key.transferId
  | drawing, .insertTransfer t =>
    t.transferId = key.transferId ∧ t.userId = key.railUserId ∧ t.kind = .withdrawal
  | drawing, .appendEvent e => e.table = .rail ∧ key.RailEventId e.eventId
  | _, _ => False

/-- A balance is found under its own user. -/
def ExpectsFunds : (op : FundingOp) → Except Fault op.Ret → Prop
  | .getBalance userId, .ok (some b) => b.userId = userId
  | _, _ => True

/-- The calls before the payout is stored; storing it is the last one. -/
def PayoutPhase.May (js : Runtime) (key : PayoutKey) : PayoutPhase → CreatorOp → Prop
  | k, .rail op => k.MayFund key op
  | drawing, .getCreator id => id = key.creatorId
  | drawing, .getBalance id unit => id = key.creatorId ∧ unit = .usdc
  | drawing, .insertPayout p b e =>
    p.payoutId = key.payoutId ∧ p.creatorId = key.creatorId ∧
      p.idempotencyKey = key.idempotencyKey ∧ p.requestedAt = p.updatedAt ∧
      b.creatorId = key.creatorId ∧ b.unit = .usdc ∧ b.updatedAt = p.updatedAt ∧
      key.RequestEvent js e
  | _, _ => False

/-- Rows are found under their own keys. -/
def ExpectsRows : (op : CreatorOp) → Except Fault op.Ret → Prop
  | .rail op, answer => ExpectsFunds op answer
  | .getCreator id, .ok (some c) => c.creatorId = id
  | .getBalance id unit, .ok (some b) => b.creatorId = id ∧ b.unit = unit
  | _, _ => True

/-- What a call leads to. -/
def PayoutPhase.after : PayoutPhase → (op : CreatorOp) → Except Fault op.Ret → PayoutPhase
  | _, .insertPayout _ _ _, .ok _ => drawn
  | k, _, _ => k

def railDiscipline (key : PayoutKey) : Discipline FundingOp FundingOp.Ret Fault PayoutPhase where
  may := PayoutPhase.MayFund key
  expects _ := ExpectsFunds
  leads k _ _ k' := k' = k

/-- What the calls of a payout keep to. -/
def payoutDiscipline (js : Runtime) (key : PayoutKey) :
    Discipline CreatorOp CreatorOp.Ret Fault PayoutPhase where
  may := PayoutPhase.May js key
  expects _ := ExpectsRows
  leads k op answer k' := k' = k.after op answer

/-! ## The payout keeps to its calls -/

section Follows

open Program (Follows follows_perform_bind)

variable {js : Runtime} {key : PayoutKey} {α : Type}

/-- Whatever a program on the rail ends with, it does not store the payout. -/
def StaysDrawing (k : PayoutPhase) (_ : Except Fault α) : Prop := k = .drawing

private theorem readBalance_follows {now : String} {f : SettlementBalance → Funding α}
    (hf : ∀ balance, balance.userId = key.railUserId →
      (f balance).Follows (railDiscipline key) StaysDrawing .drawing) :
    (readSettlementBalance key.railUserId now >>= f).Follows (railDiscipline key) StaysDrawing
      .drawing := by
  unfold readSettlementBalance
  rw [Program.bind_assoc]
  apply follows_perform_bind rfl
  · intro stored hstored
    refine ⟨_, rfl, hf _ ?_⟩
    cases stored with
    | none => rfl
    | some b => exact hstored
  · exact fun e _ => ⟨_, rfl, rfl⟩

private theorem topUpRail_follows {available : ℤ} {now : String} :
    (topUpRail key.railUserId available now).Follows (railDiscipline key) StaysDrawing
      .drawing := by
  unfold topUpRail
  apply readBalance_follows
  intro balance huser
  split_ifs
  · exact ⟨huser, fun _ _ => ⟨_, rfl, rfl⟩⟩
  · exact rfl

private theorem signWithdrawal_follows {checked : CheckedWithdrawal} {amount : ℤ} {now : String}
    (huser : checked.userId = key.railUserId)
    (hkey : checked.idempotencyKey = "creator:" ++ key.idempotencyKey) :
    (signWithdrawal js checked amount now).Follows (railDiscipline key) StaysDrawing
      .drawing := by
  have hid : withdrawalId checked.userId checked.idempotencyKey = key.transferId := by
    rw [huser, hkey]
    rfl
  unfold signWithdrawal
  simp only [hid]
  simp only [huser]
  apply readBalance_follows
  intro balance hbalance
  split_ifs
  · exact rfl
  refine follows_perform_bind ?_ (fun _ _ => ⟨_, rfl, ?_⟩) fun e _ => ⟨_, rfl, rfl⟩
  · exact ⟨rfl, rfl, rfl⟩
  refine follows_perform_bind ?_ (fun _ _ => ⟨_, rfl, ?_⟩) fun e _ => ⟨_, rfl, rfl⟩
  · exact hbalance
  refine follows_perform_bind ?_ (fun _ _ => ⟨_, rfl, ?_⟩) fun e _ => ⟨_, rfl, rfl⟩
  · exact ⟨rfl, Or.inl rfl⟩
  refine follows_perform_bind ?_ (fun _ _ => ⟨_, rfl, rfl⟩) fun e _ => ⟨_, rfl, rfl⟩
  exact ⟨rfl, Or.inr rfl⟩

/-- A text made of a plain beginning and a trimmed rest is trimmed. -/
theorem trim_creator_append {s : String} (hs : JavaScript.trim s = s) (hne : s ≠ "") :
    JavaScript.trim ("creator:" ++ s) = "creator:" ++ s := by
  have hend : EndsPlain s := by
    rw [← hs]
    exact JavaScript.endsPlain_trim (by rwa [hs])
  have hlist : ("creator:" ++ s).toList = 'c' :: ("reator:".toList ++ s.toList) := by
    rw [String.toList_append]
    rfl
  exact JavaScript.trim_eq_self hlist (by decide) (hend.append _)

private theorem checkWithdrawal_eq_ok {env : SettlementRailEnv}
    {input : RequestDevnetWithdrawalInput}
    {checked : CheckedWithdrawal} (h : checkWithdrawal js env input = .ok checked) :
    checked.userId = JavaScript.trim input.userId ∧
      checked.destination = JavaScript.trim input.destination ∧
      checked.idempotencyKey = JavaScript.trim input.idempotencyKey ∧
      JavaScript.trim input.destination ≠ "" := by
  unfold checkWithdrawal at h
  simp only [Except.bind_eq_ok, Except.throwIf_eq_ok, Except.pure_eq_ok, Except.ok.injEq,
    requireText_eq_ok] at h
  obtain ⟨rail, -, userId, ⟨-, rfl⟩, destination, ⟨hdestination, rfl⟩, idempotencyKey, ⟨-, rfl⟩,
    _, -, _, -, _, -, rfl⟩ := h
  exact ⟨rfl, rfl, rfl, hdestination⟩

/-- A withdrawal for the payout keeps to the payout's calls. -/
theorem requestDevnetWithdrawal_follows {env : SettlementRailEnv} {clock : String}
    {input : RequestDevnetWithdrawalInput} (hc : JavaScript.trim key.creatorId = key.creatorId)
    (hne : key.creatorId ≠ "") (hk : JavaScript.trim key.idempotencyKey = key.idempotencyKey)
    (hkne : key.idempotencyKey ≠ "") (huser : input.userId = key.railUserId)
    (hkey : input.idempotencyKey = "creator:" ++ key.idempotencyKey) :
    (requestDevnetWithdrawal js env clock input).Follows (railDiscipline key) StaysDrawing
      .drawing := by
  unfold requestDevnetWithdrawal
  rcases hcheck : checkWithdrawal js env input with e | checked
  · exact rfl
  obtain ⟨huserId, -, hkeyId, -⟩ := checkWithdrawal_eq_ok hcheck
  replace huserId : checked.userId = key.railUserId := by
    rw [huserId, huser]
    exact trim_creator_append hc hne
  replace hkeyId : checked.idempotencyKey = "creator:" ++ key.idempotencyKey := by
    rw [hkeyId, hkey]
    exact trim_creator_append hk hkne
  have hid : withdrawalId checked.userId checked.idempotencyKey = key.transferId := by
    rw [huserId, hkeyId]
    rfl
  refine follows_perform_bind hid (fun found _ => ⟨_, rfl, ?_⟩) fun e _ => ⟨_, rfl, rfl⟩
  cases found with
  | none => exact signWithdrawal_follows huserId hkeyId
  | some existing =>
    simp only [huserId]
    exact readBalance_follows fun _ _ => rfl

private theorem rail_follows {p : Funding α} {post : PayoutPhase → Except Fault α → Prop}
    {k : PayoutPhase} (hp : p.Follows (railDiscipline key) post k) :
    (Crediting.rail p).Follows (payoutDiscipline js key) post k := by
  have hmap : ∀ (op : FundingOp) (answer : Except Fault op.Ret),
      answer.map (fun a => a) = answer := by
    intro op answer
    cases answer <;> rfl
  apply hp.embed
  · exact fun k op hmay => hmay
  · intro k op answer hexpects
    rw [hmap]
    exact hexpects
  · intro k op answer k' hk'
    exact hk'

private theorem requireActiveCreator_follows {creatorId : String} {post : PayoutPhase →
      Except Fault α → Prop} {f : DotCastCreatorProfile → Crediting α}
    (hid : JavaScript.trim creatorId = key.creatorId) (herror : ∀ e, post .drawing (.error e))
    (hf : key.creatorId ≠ "" → ∀ creator, creator.creatorId = key.creatorId →
      (f creator).Follows (payoutDiscipline js key) post .drawing) :
    (requireActiveCreator creatorId >>= f).Follows (payoutDiscipline js key) post .drawing := by
  unfold requireActiveCreator
  rcases hcheck : Creator.requireText creatorId "creatorId" with e | id
  · exact herror e
  obtain ⟨hne, htrim⟩ := requireText_eq_ok.mp hcheck
  rw [hid] at hne htrim
  subst htrim
  simp only [Program.ok_bind, Program.bind_assoc]
  apply follows_perform_bind
  · exact rfl
  · intro found hfound
    refine ⟨.drawing, rfl, ?_⟩
    rcases found with _ | creator
    · exact herror _
    by_cases hactive : creator.status = .active
    · simp only [Option.filter_some, hactive, decide_true, if_true, Program.pure_eq,
        Program.ok_bind]
      exact hf hne creator hfound
    · simp only [Option.filter_some, hactive, decide_false, Bool.false_eq_true, if_false]
      exact herror _
  · exact fun e _ => ⟨.drawing, rfl, herror e⟩

private theorem requireCreatorBalance_follows {post : PayoutPhase → Except Fault α → Prop}
    {f : DotCastCreatorEarningsBalance → Crediting α} (herror : ∀ e, post .drawing (.error e))
    (hf : ∀ balance, balance.creatorId = key.creatorId → balance.unit = .usdc →
      (f balance).Follows (payoutDiscipline js key) post .drawing) :
    (requireCreatorBalance key.creatorId .usdc >>= f).Follows (payoutDiscipline js key) post
      .drawing := by
  unfold requireCreatorBalance
  rw [Program.bind_assoc]
  apply follows_perform_bind
  · exact ⟨rfl, rfl⟩
  · intro found hfound
    refine ⟨.drawing, rfl, ?_⟩
    cases found with
    | none => exact herror _
    | some balance => exact hf balance hfound.1 hfound.2
  · exact fun e _ => ⟨.drawing, rfl, herror e⟩

/-- What a payout returns is the creator's own. -/
def ReturnsOwn (key : PayoutKey) (_ : PayoutPhase) (result : Except Fault CreatorPayoutResult) :
    Prop :=
  ∀ r, result = .ok r →
    r.payout.creatorId = key.creatorId ∧ r.balance.creatorId = key.creatorId

private theorem returnsOwn_error {k : PayoutPhase} (e : Fault) : ReturnsOwn key k (.error e) := by
  intro r hr
  cases hr

private theorem drawPayout_follows {env : DotCastCreatorEconomyEnv}
    {status : DotCastCreatorEconomyStatus}
    {creator : DotCastCreatorProfile} {balance : DotCastCreatorEarningsBalance} {amount : ℤ}
    {input : RequestCreatorPayoutInput} {clock now : String}
    (hc : JavaScript.trim key.creatorId = key.creatorId) (hne : key.creatorId ≠ "")
    (hk : JavaScript.trim key.idempotencyKey = key.idempotencyKey)
    (hkne : key.idempotencyKey ≠ "") (hcreator : creator.creatorId = key.creatorId)
    (hbalance : balance.creatorId = key.creatorId) (hunit : balance.unit = .usdc) :
    (drawPayout js env status creator balance amount input key.idempotencyKey clock now).Follows
      (payoutDiscipline js key) (ReturnsOwn key) .drawing := by
  unfold drawPayout
  rcases hdestination : payoutDestination input creator with e | destination
  · exact returnsOwn_error e
  have huser : creatorRailUserId creator.creatorId = .ok key.railUserId := by
    have htext : Creator.requireText creator.creatorId "creatorId" = .ok key.creatorId :=
      requireText_eq_ok.mpr ⟨by rwa [hcreator, hc], by rw [hcreator, hc]⟩
    unfold creatorRailUserId
    rw [htext]
    rfl
  rw [huser]
  simp only [Program.ok_bind]
  apply Follows.bind
  refine (rail_follows topUpRail_follows).mono ?_
  rintro k (e | _) rfl
  · exact returnsOwn_error e
  apply Follows.bind
  refine (rail_follows (requestDevnetWithdrawal_follows hc hne hk hkne rfl rfl)).mono ?_
  rintro k (e | result) rfl
  · exact returnsOwn_error e
  have hid : (newPayout creator.creatorId key.idempotencyKey destination amount result.transfer
      now).payoutId = key.payoutId :=
    congrArg (fun id => "dotcast:e11:payout:" ++ id ++ ":" ++ key.idempotencyKey) hcreator
  apply follows_perform_bind
  · exact ⟨hid, hcreator, rfl, rfl, hbalance, hunit, rfl, creator, amount, clock, hcreator, rfl⟩
  · refine fun _ _ => ⟨.drawn, rfl, ?_⟩
    rintro r ⟨⟩
    exact ⟨hcreator, hbalance⟩
  · exact fun e _ => ⟨.drawing, rfl, returnsOwn_error e⟩

/-- A payout that is made keeps to the payout's calls. -/
theorem makePayout_follows {env : DotCastCreatorEconomyEnv} {status : DotCastCreatorEconomyStatus}
    {input : RequestCreatorPayoutInput} {clock now : String}
    (hc : JavaScript.trim input.creatorId = key.creatorId)
    (hk : JavaScript.trim key.idempotencyKey = key.idempotencyKey)
    (hkne : key.idempotencyKey ≠ "") :
    (makePayout js env status input key.idempotencyKey clock now).Follows
      (payoutDiscipline js key) (ReturnsOwn key) .drawing := by
  have htrim : JavaScript.trim key.creatorId = key.creatorId := by
    rw [← hc]
    exact JavaScript.trim_trim _
  have herror : ∀ e : Fault, ReturnsOwn key .drawing (.error e) := returnsOwn_error
  unfold makePayout
  refine requireActiveCreator_follows hc herror fun hne creator hcreator => ?_
  rcases hcheck : checkPayout js status creator input with e | amount
  · exact herror e
  simp only [Program.ok_bind]
  rw [hcreator]
  refine requireCreatorBalance_follows herror fun balance hbalance hunit => ?_
  by_cases hcovered : balance.available < amount
  · rw [if_pos hcovered]
    exact herror _
  · rw [if_neg hcovered]
    exact drawPayout_follows htrim hne hk hkne hcreator hbalance hunit

end Follows

end Yevow.DotCast
