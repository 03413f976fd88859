import Yevow.Core.Collection.Agreement
import Yevow.Models.DotCast.Creator.PayoutCalls

/-!
# Payouts of different creators

The calls of a payout change rows of its own creator only. Stores that differ in the rows of
one creator's payout answer the calls of another creator's payout under the same key alike,
unless the payout itself is stored: that one is found under the key alone.
-/

namespace Yevow.DotCast

open JavaScript (Runtime)
open Program (Follows EndsIn)

namespace PayoutKey

/-- The ids of the events the creator store records. -/
def EventId (js : Runtime) (key : PayoutKey) (eventId : String) : Prop :=
  ∃ e, key.RequestEvent js e ∧ e.eventId = eventId

section Apart

variable {js : Runtime} {a b : PayoutKey}

private theorem railUserId_inj (h : a.railUserId = b.railUserId) : a.creatorId = b.creatorId :=
  Text.append_left_inj h

private theorem payoutId_inj (hkey : a.idempotencyKey = b.idempotencyKey)
    (h : a.payoutId = b.payoutId) :
    a.creatorId = b.creatorId := by
  unfold payoutId at h
  rw [hkey] at h
  exact Text.append_left_inj (Text.append_right_inj (Text.append_right_inj h))

private theorem transferId_inj (hkey : a.idempotencyKey = b.idempotencyKey)
    (h : a.transferId = b.transferId) : a.creatorId = b.creatorId := by
  unfold transferId withdrawalId at h
  rw [hkey] at h
  exact railUserId_inj
    (Text.append_left_inj (Text.append_right_inj (Text.append_right_inj h)))

private theorem railEventId_inj (hkey : a.idempotencyKey = b.idempotencyKey) {eventId : String}
    (ha : a.RailEventId eventId) (hb : b.RailEventId eventId) : a.creatorId = b.creatorId := by
  have hfree : ∀ eventType : RailEventType, Text.Free ':' eventType.lower := by
    intro eventType
    cases eventType <;> decide
  apply transferId_inj hkey
  rcases ha with rfl | rfl <;> rcases hb with hb | hb
  all_goals exact (Text.append_sep_inj (by decide) (hfree _) (hfree _) hb).1

private theorem eventId_inj {eventId : String} (ha : EventId js a eventId)
    (hb : EventId js b eventId) :
    a.creatorId = b.creatorId := by
  obtain ⟨_, ⟨creator, amount, clock, hcreator, rfl⟩, rfl⟩ := ha
  obtain ⟨_, ⟨creator', amount', clock', hcreator', rfl⟩, heq⟩ := hb
  have hnumber : ∀ n : ℤ, Text.Free ':' (toString n) := Text.free_toString (by decide) (by decide)
  have hsep : ":".toList = [':'] := by decide
  have hnone : Text.Free ':' "none" := by decide
  have htype : Text.Free ':' "CREATOR_PAYOUT_REQUESTED" := by decide
  obtain ⟨hdate, -⟩ := Text.append_sep_inj hsep (hnumber _) (hnumber _) heq
  obtain ⟨hpool, -⟩ := Text.append_sep_inj hsep (free_dateText js _) (free_dateText js _) hdate
  obtain ⟨heventType, -⟩ := Text.append_sep_inj hsep hnone hnone hpool
  obtain ⟨hid, -⟩ := Text.append_sep_inj hsep htype htype heventType
  rw [← hcreator, ← hcreator', Text.append_left_inj hid]

end Apart

end PayoutKey

/-! ## Stores that agree apart from one payout -/

/-- The same rows, apart from those of the payouts of a key. -/
structure FundingStore.AgreeApart (key : PayoutKey) (s t : FundingStore) : Prop where
  balances : AgreeOff (· = key.railUserId) s.balances.lookup t.balances.lookup
  poolLocks : t.poolLocks = s.poolLocks
  bondLocks : t.bondLocks = s.bondLocks
  transfers : AgreeOff (· = key.transferId) s.transfers.lookup t.transfers.lookup
  events : AgreeOff (fun id => id.1 = .rail ∧ key.RailEventId id.2) s.events.lookup t.events.lookup

structure CreatorStore.AgreeApart (js : Runtime) (key : PayoutKey) (s t : CreatorStore) :
    Prop where
  creators : t.creators = s.creators
  accruals : t.accruals = s.accruals
  balances : AgreeOff (· = (key.creatorId, .usdc)) s.balances.get? t.balances.get?
  payouts : AgreeOff (· = key.payoutId) s.payouts.get? t.payouts.get?
  events : AgreeOff (key.EventId js) s.events.get? t.events.get?
  funding : s.funding.AgreeApart key t.funding

namespace FundingStore.AgreeApart

variable {key : PayoutKey} {r s t : FundingStore}

private theorem refl (key : PayoutKey) (s : FundingStore) : s.AgreeApart key s :=
  ⟨.refl _ _, rfl, rfl, .refl _ _, .refl _ _⟩

private theorem trans (h : r.AgreeApart key s) (h' : s.AgreeApart key t) : r.AgreeApart key t where
  balances := h.balances.trans h'.balances
  poolLocks := h'.poolLocks.trans h.poolLocks
  bondLocks := h'.bondLocks.trans h.bondLocks
  transfers := h.transfers.trans h'.transfers
  events := h.events.trans h'.events

private theorem writeBalance {b : SettlementBalance} (hb : b.userId = key.railUserId) :
    s.AgreeApart key (s.writeBalance b).2 := by
  unfold FundingStore.writeBalance
  split_ifs
  · exact { refl key s with balances := Table.agreeOff_insert hb }
  · exact refl key s

private theorem writeTransfer {transfer : SettlementTransfer}
    (ht : transfer.transferId = key.transferId) :
    s.AgreeApart key (s.writeTransfer transfer).2 := by
  unfold FundingStore.writeTransfer
  split_ifs
  · exact refl key s
  · exact { refl key s with transfers := Table.agreeOff_insert ht }
  · exact refl key s

private theorem addEvent {e : FundingEvent} (htable : e.table = .rail)
    (hid : key.RailEventId e.eventId) : s.AgreeApart key (s.addEvent e) := by
  refine { refl key s with events := ?_ }
  unfold FundingStore.addEvent
  split_ifs
  · exact .refl _ _
  · exact Table.agreeOff_insert ⟨htable, hid⟩

/-- The calls of a payout change its own rows. -/
theorem call {k : PayoutPhase} {op : FundingOp} (hmay : k.MayFund key op) :
    s.AgreeApart key (fundingHandler op s).2 := by
  cases k with
  | drawn => cases hmay
  | drawing =>
    cases op with
    | getBalance userId => exact refl key s
    | getTransfer transferId => exact refl key s
    | saveBalance b => exact writeBalance hmay
    | appendEvent e => exact addEvent hmay.1 hmay.2
    | insertTransfer transfer =>
      simp only [fundingHandler]
      split_ifs
      · exact refl key s
      · exact writeTransfer hmay.1
    | _ => cases hmay

end FundingStore.AgreeApart

namespace CreatorStore.AgreeApart

variable {js : Runtime} {key : PayoutKey} {r s t : CreatorStore}

theorem refl (js : Runtime) (key : PayoutKey) (s : CreatorStore) : s.AgreeApart js key s :=
  ⟨rfl, rfl, .refl _ _, .refl _ _, .refl _ _, .refl _ _⟩

theorem trans (h : r.AgreeApart js key s) (h' : s.AgreeApart js key t) : r.AgreeApart js key t where
  creators := h'.creators.trans h.creators
  accruals := h'.accruals.trans h.accruals
  balances := h.balances.trans h'.balances
  payouts := h.payouts.trans h'.payouts
  events := h.events.trans h'.events
  funding := h.funding.trans h'.funding

private theorem insertPayout {p : DotCastCreatorPayout} {b : DotCastCreatorEarningsBalance}
    {e : DotCastCreatorEvent} (hp : p.payoutId = key.payoutId) (hb : b.creatorId = key.creatorId)
    (hunit : b.unit = .usdc) (he : key.RequestEvent js e) :
    s.AgreeApart js key (s.batch (s.insertPayoutRow p) b e).2 := by
  unfold batch
  split_ifs with hvalid
  · refine ⟨?_, ?_, ?_, ?_, ?_, ?_⟩
    · simp [putBalance]
    · simp [putBalance]
    · have hkey : (b.creatorId, b.unit) = (key.creatorId, StakeUnit.usdc) := by rw [hb, hunit]
      simp only [balances_insertEventRow, putBalance, balances_insertPayoutRow]
      exact Rows.agreeOff_set hkey
    · simp only [payouts_insertEventRow, putBalance, payouts_insertPayoutRow]
      split_ifs
      · exact Rows.agreeOff_set hp
      · exact .refl _ _
    · simp only [events_insertEventRow, putBalance, events_insertPayoutRow]
      split_ifs
      · exact .refl _ _
      · exact Rows.agreeOff_insertIfAbsent ⟨e, he, rfl⟩
    · simp only [funding_insertEventRow, putBalance, funding_insertPayoutRow]
      exact .refl _ _
  · exact refl js key s

/-- The calls of a payout change its own rows. -/
theorem call {k : PayoutPhase} {op : CreatorOp} (hmay : k.May js key op) :
    s.AgreeApart js key (creatorHandler js op s).2 := by
  cases op with
  | rail op => exact { refl js key s with funding := FundingStore.AgreeApart.call hmay }
  | insertPayout p b e =>
    cases k with
    | drawn => cases hmay
    | drawing =>
      obtain ⟨hp, -, -, -, hb, hunit, -, he⟩ := hmay
      exact insertPayout hp hb hunit he
  | getCreator id => exact refl js key s
  | getBalance id unit => exact refl js key s
  | _ => cases k <;> cases hmay

end CreatorStore.AgreeApart

/-! ## Rows are found under their keys -/

private theorem expectsFunds (op : FundingOp) (s : FundingStore) :
    ExpectsFunds op (fundingHandler op s).1 := by
  cases op with
  | getBalance userId =>
    show ExpectsFunds (.getBalance userId) (.ok (s.balances.lookup userId))
    cases hrow : s.balances.lookup userId with
    | none => exact trivial
    | some row => exact (s.balances_ok _ _ hrow).1
  | _ => exact trivial

theorem expectsRows (js : Runtime) (op : CreatorOp) (s : CreatorStore) :
    ExpectsRows op (creatorHandler js op s).1 := by
  cases op with
  | rail op => exact expectsFunds op s.funding
  | getCreator id =>
    simp only [creatorHandler]
    rcases hread : readRow (Creator.creatorFromRow js) (s.creators.get? id) with e | _ | c
    · exact trivial
    · exact trivial
    · obtain ⟨row, hrow, hc⟩ := readRow_eq_ok_some.mp hread
      exact (Creator.creatorId_of_creatorFromRow hc).trans (s.creators_ok id row hrow)
  | getBalance id unit =>
    simp only [creatorHandler]
    rcases hread : readRow (Creator.balanceFromRow js) (s.balances.get? (id, unit)) with e | _ | row
    · exact trivial
    · exact trivial
    · obtain ⟨row', hrow, hb⟩ := readRow_eq_ok_some.mp hread
      obtain rfl := Creator.eq_of_balanceFromRow hb
      exact Prod.mk.inj (s.balances_ok _ _ hrow).1
  | _ => exact trivial

theorem expectsRows_error (op : CreatorOp) (e : Fault) : ExpectsRows op (.error e) := by
  cases op with
  | rail op => cases op <;> exact trivial
  | _ => exact trivial

/-! ## The payout of another creator -/

section Apart

variable {js : Runtime} {a b : PayoutKey} {k : PayoutPhase}

/-- The calls of another creator's payout are answered alike and leave the same rows. -/
theorem FundingStore.AgreeApart.answers {s t : FundingStore} {op : FundingOp}
    (hne : a.creatorId ≠ b.creatorId) (hkey : a.idempotencyKey = b.idempotencyKey)
    (h : s.AgreeApart a t) (hmay : k.MayFund b op) :
    (fundingHandler op t).1 = (fundingHandler op s).1 ∧
      (fundingHandler op s).2.AgreeApart a (fundingHandler op t).2 := by
  cases k with
  | drawn => cases hmay
  | drawing =>
    cases op with
    | getBalance userId =>
      obtain rfl : userId = b.railUserId := hmay
      have hsame : t.balances.lookup b.railUserId = s.balances.lookup b.railUserId :=
        h.balances _ fun heq => hne (PayoutKey.railUserId_inj heq).symm
      exact ⟨congrArg Except.ok hsame, h⟩
    | getTransfer transferId =>
      obtain rfl : transferId = b.transferId := hmay
      have hsame : t.transfers.lookup b.transferId = s.transfers.lookup b.transferId :=
        h.transfers _ fun heq => hne (PayoutKey.transferId_inj hkey heq.symm)
      exact ⟨congrArg Except.ok hsame, h⟩
    | saveBalance row =>
      simp only [fundingHandler, FundingStore.writeBalance]
      split_ifs
      · exact ⟨rfl, { h with balances := Table.agreeOff_insert_insert h.balances }⟩
      · exact ⟨rfl, h⟩
    | appendEvent e =>
      obtain ⟨htable, hid⟩ := hmay
      have hsame : t.events.lookup (e.table, e.eventId) = s.events.lookup (e.table, e.eventId) :=
        h.events _ fun ha => hne (PayoutKey.railEventId_inj hkey ha.2 hid)
      refine ⟨rfl, { h with events := ?_ }⟩
      simp only [fundingHandler, FundingStore.addEvent, hsame]
      split_ifs
      · exact h.events
      · exact Table.agreeOff_insert_insert h.events
    | insertTransfer transfer =>
      obtain ⟨hid, -, hkind⟩ := hmay
      have hsame : t.transfers.lookup transfer.transferId =
          s.transfers.lookup transfer.transferId := by
        rw [hid]
        exact h.transfers _ fun heq => hne (PayoutKey.transferId_inj hkey heq.symm)
      have hfree : ∀ r : FundingStore, ¬r.DepositTaken transfer := by
        rintro r ⟨hdeposit, -⟩
        rw [hkind] at hdeposit
        cases hdeposit
      simp only [fundingHandler, hsame, FundingStore.writeTransfer, dif_neg (hfree s),
        dif_neg (hfree t)]
      split_ifs
      · exact ⟨rfl, h⟩
      · exact ⟨rfl, { h with transfers := Table.agreeOff_insert_insert h.transfers }⟩
      · exact ⟨rfl, h⟩
    | _ => cases hmay

namespace CreatorStore

/-- A payout of the key may have left rows behind, but no payout. -/
structure LeftBehind (js : Runtime) (key : PayoutKey) (s t : CreatorStore) : Prop
    extends s.AgreeApart js key t where
  samePayouts : t.payouts.get? = s.payouts.get?

private theorem payoutTaken_congr {s t : CreatorStore} (h : t.payouts.get? = s.payouts.get?)
    (p : DotCastCreatorPayout) : t.PayoutTaken p ↔ s.PayoutTaken p := by
  unfold PayoutTaken
  simp only [Rows.mem_rows_iff, h]

theorem payoutByKey_congr {s t : CreatorStore} (h : t.payouts.get? = s.payouts.get?)
    (idempotencyKey : String) : t.payoutByKey idempotencyKey = s.payoutByKey idempotencyKey := by
  apply Option.ext
  intro p
  rw [payoutByKey_eq_some, payoutByKey_eq_some, h]

private theorem LeftBehind.insertPayout {s t : CreatorStore} (p : DotCastCreatorPayout)
    (row : DotCastCreatorEarningsBalance) (e : DotCastCreatorEvent) (h : s.LeftBehind js a t) :
    (t.batch (t.insertPayoutRow p) row e).1 = (s.batch (s.insertPayoutRow p) row e).1 ∧
      (s.batch (s.insertPayoutRow p) row e).2.LeftBehind js a
        (t.batch (t.insertPayoutRow p) row e).2 := by
  have hpayouts : (t.insertPayoutRow p).payouts.get? = (s.insertPayoutRow p).payouts.get? := by
    rw [payouts_insertPayoutRow, payouts_insertPayoutRow]
    simp only [payoutTaken_congr h.samePayouts]
    split_ifs
    · ext id
      rw [Rows.get?_set, Rows.get?_set, h.samePayouts]
    · exact h.samePayouts
  unfold batch
  split_ifs with hvalid
  · refine ⟨rfl, ⟨?_, ?_, ?_, ?_, ?_, ?_⟩, ?_⟩
    · simpa [putBalance] using h.creators
    · simpa [putBalance] using h.accruals
    · simp only [balances_insertEventRow, putBalance, balances_insertPayoutRow]
      exact Rows.agreeOff_set_set h.balances
    · simp only [payouts_insertEventRow, putBalance]
      rw [hpayouts]
      exact .refl _ _
    · simp only [events_insertEventRow, putBalance, events_insertPayoutRow]
      split_ifs
      · exact h.events
      · exact Rows.agreeOff_insertIfAbsent_insertIfAbsent h.events
    · simpa only [funding_insertEventRow, putBalance, funding_insertPayoutRow] using h.funding
    · simpa only [payouts_insertEventRow, putBalance] using hpayouts
  · exact ⟨rfl, h⟩

/-- The calls of another creator's payout are answered alike and leave the same rows. -/
theorem LeftBehind.answers {s t : CreatorStore} {op : CreatorOp}
    (hne : a.creatorId ≠ b.creatorId) (hkey : a.idempotencyKey = b.idempotencyKey)
    (hmay : k.May js b op) (h : s.LeftBehind js a t) :
    (creatorHandler js op t).1 = (creatorHandler js op s).1 ∧
      (creatorHandler js op s).2.LeftBehind js a (creatorHandler js op t).2 := by
  cases op with
  | rail op =>
    obtain ⟨hanswer, hfunding⟩ := h.funding.answers hne hkey hmay
    exact ⟨hanswer, { h with funding := hfunding }⟩
  | getCreator id =>
    refine ⟨?_, h⟩
    simp only [creatorHandler, h.creators]
  | getBalance id unit =>
    refine ⟨?_, h⟩
    have hsame : t.balances.get? (id, unit) = s.balances.get? (id, unit) := by
      apply h.balances
      intro heq
      cases k with
      | drawn => cases hmay
      | drawing => exact hne ((Prod.mk.inj heq).1.symm.trans hmay.1)
    simp only [creatorHandler, hsame]
  | insertPayout p row e =>
    obtain ⟨hanswer, hrelated⟩ := LeftBehind.insertPayout p row e h
    exact ⟨hanswer, hrelated⟩
  | _ => cases k <;> cases hmay

end CreatorStore

end Apart

/-! ## Runs that write the same -/

/-- From `s` to `s'` and from `t` to `t'` the same rows are written. -/
structure FundingStore.SameWrites (s s' t t' : FundingStore) : Prop where
  balances : WritesAlike s.balances.lookup s'.balances.lookup t.balances.lookup t'.balances.lookup
  poolLocks : WritesAlike s.poolLocks.lookup s'.poolLocks.lookup t.poolLocks.lookup
    t'.poolLocks.lookup
  bondLocks : WritesAlike s.bondLocks.lookup s'.bondLocks.lookup t.bondLocks.lookup
    t'.bondLocks.lookup
  transfers : WritesAlike s.transfers.lookup s'.transfers.lookup t.transfers.lookup
    t'.transfers.lookup
  events : WritesAlike s.events.lookup s'.events.lookup t.events.lookup t'.events.lookup

structure CreatorStore.SameWrites (s s' t t' : CreatorStore) : Prop where
  creators : WritesAlike s.creators.get? s'.creators.get? t.creators.get? t'.creators.get?
  balances : WritesAlike s.balances.get? s'.balances.get? t.balances.get? t'.balances.get?
  accruals : WritesAlike s.accruals.get? s'.accruals.get? t.accruals.get? t'.accruals.get?
  payouts : WritesAlike s.payouts.get? s'.payouts.get? t.payouts.get? t'.payouts.get?
  events : WritesAlike s.events.get? s'.events.get? t.events.get? t'.events.get?
  funding : s.funding.SameWrites s'.funding t.funding t'.funding

namespace CreatorStore

/-- Two runs from one store to one store. -/
theorem SameWrites.refl (s s' : CreatorStore) : s.SameWrites s' s s' :=
  ⟨.refl _ _, .refl _ _, .refl _ _, .refl _ _, .refl _ _,
    ⟨.refl _ _, .refl _ _, .refl _ _, .refl _ _, .refl _ _⟩⟩

/-- Two runs that write nothing. -/
theorem SameWrites.unchanged (s t : CreatorStore) : s.SameWrites s t t :=
  ⟨.unchanged _ _, .unchanged _ _, .unchanged _ _, .unchanged _ _, .unchanged _ _,
    ⟨.unchanged _ _, .unchanged _ _, .unchanged _ _, .unchanged _ _, .unchanged _ _⟩⟩

/-- A payout changes its own rows, in which stores that differ in another creator's agree. -/
theorem AgreeApart.sameWrites {js : Runtime} {a b : PayoutKey} {s s' t t' : CreatorStore}
    (hne : a.creatorId ≠ b.creatorId) (hkey : a.idempotencyKey = b.idempotencyKey)
    (hs : s.AgreeApart js b s') (ht : t.AgreeApart js b t') (h : s'.AgreeApart js a t') :
    s.SameWrites s' t t' where
  creators := by
    rw [hs.creators, ht.creators]
    exact .unchanged _ _
  accruals := by
    rw [hs.accruals, ht.accruals]
    exact .unchanged _ _
  balances := by
    refine AgreeOff.writesAlike ?_ hs.balances ht.balances h.balances
    rintro _ rfl heq
    exact hne (Prod.mk.inj heq).1
  payouts := by
    refine AgreeOff.writesAlike ?_ hs.payouts ht.payouts h.payouts
    rintro _ rfl heq
    exact hne (PayoutKey.payoutId_inj hkey heq)
  events := by
    refine AgreeOff.writesAlike ?_ hs.events ht.events h.events
    exact fun id ha hb => hne (PayoutKey.eventId_inj ha hb)
  funding := by
    refine ⟨?_, ?_, ?_, ?_, ?_⟩
    · refine AgreeOff.writesAlike ?_ hs.funding.balances ht.funding.balances h.funding.balances
      rintro _ rfl heq
      exact hne (PayoutKey.railUserId_inj heq)
    · rw [hs.funding.poolLocks, ht.funding.poolLocks]
      exact .unchanged _ _
    · rw [hs.funding.bondLocks, ht.funding.bondLocks]
      exact .unchanged _ _
    · refine AgreeOff.writesAlike ?_ hs.funding.transfers ht.funding.transfers h.funding.transfers
      rintro _ rfl heq
      exact hne (PayoutKey.transferId_inj hkey heq)
    · refine AgreeOff.writesAlike ?_ hs.funding.events ht.funding.events h.funding.events
      exact fun id ha hb => hne (PayoutKey.railEventId_inj hkey ha.2 hb.2)

end CreatorStore

end Yevow.DotCast
