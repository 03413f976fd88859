import Yevow.Core.Collection.Rows
import Yevow.Models.DotCast.Funding.Rail
import Yevow.Models.DotCast.Reading

/-!
# The creator store

Creators, their earnings, the rake shares accrued to them and their payouts, each a table
with the checks of its schema, next to the funding store the payouts are drawn on. Accruals
and payouts are inserted unless they conflict with a stored row; a balance is written over.
-/

namespace Yevow.DotCast

open JavaScript (Runtime)

/-! ## Rows -/

/-- The tier of a creator. -/
inductive CreatorTier
  | casual
  | verified
  | partner
  deriving DecidableEq, Repr

/-- Whether a creator is active. -/
inductive CreatorStatus
  | active
  | suspended
  | archived
  deriving DecidableEq, Repr

/-- Whether the identity was checked. -/
inductive CreatorKycStatus
  | unverified
  | verified
  | rejected
  deriving DecidableEq, Repr

/-- How far a payout has come. -/
inductive CreatorPayoutStatus
  | requested
  | signed
  | confirmed
  | failed
  | rejected
  deriving DecidableEq, Repr

/-- A creator. -/
structure DotCastCreatorProfile where
  creatorId : String
  displayName : String
  tier : CreatorTier
  status : CreatorStatus
  kycStatus : CreatorKycStatus
  payoutDestination : Option String
  accuracyBps : ℤ
  retentionBps : ℤ
  volumeScore : ℤ
  manualReviewRequired : Bool
  sponsorshipEligible : Bool
  createdAt : String
  updatedAt : String
  deriving DecidableEq

/-- The earnings of a creator. -/
structure DotCastCreatorEarningsBalance where
  creatorId : String
  unit : StakeUnit
  available : ℤ
  pendingPayout : ℤ
  lifetimeAccrued : ℤ
  lifetimePaid : ℤ
  updatedAt : String
  deriving DecidableEq

/-- Earnings pass the checks of their table. -/
def DotCastCreatorEarningsBalance.Valid (b : DotCastCreatorEarningsBalance) : Prop :=
  0 ≤ b.available ∧ 0 ≤ b.pendingPayout ∧ 0 ≤ b.lifetimeAccrued ∧ 0 ≤ b.lifetimePaid

instance DotCastCreatorEarningsBalance.decidableValid (b : DotCastCreatorEarningsBalance) :
    Decidable b.Valid :=
  inferInstanceAs (Decidable (_ ∧ _))

/-- A share of a rake. -/
structure DotCastCreatorRakeAccrual where
  accrualId : String
  poolId : String
  settlementId : String
  creatorId : String
  unit : StakeUnit
  totalRake : ℤ
  creatorShare : ℤ
  houseShare : ℤ
  tier : CreatorTier
  tierShareBps : ℤ
  effectiveShareBps : ℤ
  accuracyBps : ℤ
  retentionBps : ℤ
  idempotencyKey : String
  createdAt : String
  deriving DecidableEq

/-- A share passes the checks of its table. -/
def DotCastCreatorRakeAccrual.Valid (a : DotCastCreatorRakeAccrual) : Prop :=
  (0 ≤ a.totalRake ∧ 0 ≤ a.creatorShare ∧ 0 ≤ a.houseShare) ∧
    (0 ≤ a.tierShareBps ∧ a.tierShareBps ≤ 10000) ∧
    (0 ≤ a.effectiveShareBps ∧ a.effectiveShareBps ≤ 10000) ∧
    a.creatorShare + a.houseShare = a.totalRake

instance DotCastCreatorRakeAccrual.decidableValid (a : DotCastCreatorRakeAccrual) :
    Decidable a.Valid :=
  inferInstanceAs (Decidable (_ ∧ _))

/-- A payout. -/
structure DotCastCreatorPayout where
  payoutId : String
  creatorId : String
  unit : StakeUnit
  amount : ℤ
  status : CreatorPayoutStatus
  destination : String
  idempotencyKey : String
  railTransferId : Option String
  railTxRef : Option String
  mockSignature : Option String
  requestedAt : String
  updatedAt : String
  deriving DecidableEq

/-- A payout passes the checks of its table. -/
def DotCastCreatorPayout.Valid (p : DotCastCreatorPayout) : Prop := p.unit = .usdc ∧ 0 < p.amount

instance DotCastCreatorPayout.decidableValid (p : DotCastCreatorPayout) : Decidable p.Valid :=
  inferInstanceAs (Decidable (_ ∧ _))

/-- An event in the ledger of a creator. -/
structure DotCastCreatorEvent where
  eventId : String
  creatorId : String
  poolId : Option String
  eventType : String
  unit : Option StakeUnit
  amount : Option ℤ
  createdAt : String
  deriving DecidableEq

/-! ## Calls -/

/-- The calls of the creator economy. -/
inductive CreatorOp
  | rail (op : FundingOp)
  | getCreator (creatorId : String)
  | getBalance (creatorId : String) (unit : StakeUnit)
  | getAccrualByPool (poolId : String)
  | applyAccrual (accrual : DotCastCreatorRakeAccrual) (balance : DotCastCreatorEarningsBalance)
      (event : DotCastCreatorEvent)
  | getPayout (payoutId : String)
  | getPayoutByIdempotencyKey (idempotencyKey : String)
  | insertPayout (payout : DotCastCreatorPayout) (balance : DotCastCreatorEarningsBalance)
      (event : DotCastCreatorEvent)
  | updatePayout (payout : DotCastCreatorPayout) (balance : DotCastCreatorEarningsBalance)
      (event : DotCastCreatorEvent)

/-- What a call returns. -/
abbrev CreatorOp.Ret : CreatorOp → Type
  | rail op => FundingOp.Ret op
  | getCreator _ => Option DotCastCreatorProfile
  | getBalance _ _ => Option DotCastCreatorEarningsBalance
  | getAccrualByPool _ => Option DotCastCreatorRakeAccrual
  | getPayout _ => Option DotCastCreatorPayout
  | getPayoutByIdempotencyKey _ => Option DotCastCreatorPayout
  | _ => Unit

/-- A program over the creator store and the rail. -/
abbrev Crediting (α : Type) : Type := Program CreatorOp CreatorOp.Ret Fault α

namespace Crediting

/-- A program over the funding store. -/
abbrev rail {α : Type} (p : Funding α) : Crediting α :=
  Program.embed CreatorOp.rail (fun _ answer => answer) p

abbrev getCreator (creatorId : String) : Crediting (Option DotCastCreatorProfile) :=
  Program.perform (CreatorOp.getCreator creatorId)

abbrev getBalance (creatorId : String) (unit : StakeUnit) :
    Crediting (Option DotCastCreatorEarningsBalance) :=
  Program.perform (CreatorOp.getBalance creatorId unit)

abbrev getPayoutByIdempotencyKey (idempotencyKey : String) :
    Crediting (Option DotCastCreatorPayout) :=
  Program.perform (CreatorOp.getPayoutByIdempotencyKey idempotencyKey)

abbrev insertPayout (payout : DotCastCreatorPayout) (balance : DotCastCreatorEarningsBalance)
    (event : DotCastCreatorEvent) : Crediting Unit :=
  Program.perform (CreatorOp.insertPayout payout balance event)

/-- `throw`. -/
abbrev fail {α : Type} (fault : Fault) : Crediting α := .done (.error fault)

end Crediting

/-! ## Reading rows -/

namespace Creator

variable (js : Runtime)

def requireText (value label : String) : Except Fault String :=
  DotCast.requireText "INVALID_CREATOR_INPUT" value label

def requireRowText (value label : String) : Except Fault String :=
  textColumn "INVALID_CREATOR_ROW" value label

def requireRowInt (value : ℤ) (label : String) : Except Fault ℤ :=
  integerColumn js "INVALID_CREATOR_ROW" value label

def parseNullableText (value : Option String) (label : String) : Except Fault (Option String) :=
  match nullableText value with
  | none => .ok none
  | some text => (requireText text label).map some

/-- A creator as it is read. -/
def creatorFromRow (row : DotCastCreatorProfile) : Except Fault DotCastCreatorProfile := do
  return {
    creatorId := ← requireRowText row.creatorId "creator_id"
    displayName := ← requireRowText row.displayName "display_name"
    tier := row.tier
    status := row.status
    kycStatus := row.kycStatus
    payoutDestination := ← parseNullableText row.payoutDestination "payout_destination"
    accuracyBps := ← requireRowInt js row.accuracyBps "accuracy_bps"
    retentionBps := ← requireRowInt js row.retentionBps "retention_bps"
    volumeScore := ← requireRowInt js row.volumeScore "volume_score"
    manualReviewRequired := row.manualReviewRequired
    sponsorshipEligible := row.sponsorshipEligible
    createdAt := ← requireRowText row.createdAt "created_at"
    updatedAt := ← requireRowText row.updatedAt "updated_at" }

/-- Earnings as they are read. -/
def balanceFromRow (row : DotCastCreatorEarningsBalance) :
    Except Fault DotCastCreatorEarningsBalance := do
  return {
    creatorId := ← requireRowText row.creatorId "creator_id"
    unit := row.unit
    available := ← requireRowInt js row.available "available"
    pendingPayout := ← requireRowInt js row.pendingPayout "pending_payout"
    lifetimeAccrued := ← requireRowInt js row.lifetimeAccrued "lifetime_accrued"
    lifetimePaid := ← requireRowInt js row.lifetimePaid "lifetime_paid"
    updatedAt := ← requireRowText row.updatedAt "updated_at" }

/-- A share as it is read. -/
def accrualFromRow (row : DotCastCreatorRakeAccrual) : Except Fault DotCastCreatorRakeAccrual := do
  return {
    accrualId := ← requireRowText row.accrualId "accrual_id"
    poolId := ← requireRowText row.poolId "pool_id"
    settlementId := ← requireRowText row.settlementId "settlement_id"
    creatorId := ← requireRowText row.creatorId "creator_id"
    unit := row.unit
    totalRake := ← requireRowInt js row.totalRake "total_rake"
    creatorShare := ← requireRowInt js row.creatorShare "creator_share"
    houseShare := ← requireRowInt js row.houseShare "house_share"
    tier := row.tier
    tierShareBps := ← requireRowInt js row.tierShareBps "tier_share_bps"
    effectiveShareBps := ← requireRowInt js row.effectiveShareBps "effective_share_bps"
    accuracyBps := ← requireRowInt js row.accuracyBps "accuracy_bps"
    retentionBps := ← requireRowInt js row.retentionBps "retention_bps"
    idempotencyKey := ← requireRowText row.idempotencyKey "idempotency_key"
    createdAt := ← requireRowText row.createdAt "created_at" }

/-- A payout as it is read. -/
def payoutFromRow (row : DotCastCreatorPayout) : Except Fault DotCastCreatorPayout := do
  return {
    payoutId := ← requireRowText row.payoutId "payout_id"
    creatorId := ← requireRowText row.creatorId "creator_id"
    unit := .usdc
    amount := ← requireRowInt js row.amount "amount"
    status := row.status
    destination := ← requireRowText row.destination "destination"
    idempotencyKey := ← requireRowText row.idempotencyKey "idempotency_key"
    railTransferId := ← parseNullableText row.railTransferId "rail_transfer_id"
    railTxRef := ← parseNullableText row.railTxRef "rail_tx_ref"
    mockSignature := ← parseNullableText row.mockSignature "mock_signature"
    requestedAt := ← requireRowText row.requestedAt "requested_at"
    updatedAt := ← requireRowText row.updatedAt "updated_at" }

variable {js}

theorem creatorId_of_creatorFromRow {row c : DotCastCreatorProfile}
    (h : creatorFromRow js row = .ok c) : c.creatorId = row.creatorId := by
  simp only [creatorFromRow, requireRowText, requireRowInt, Except.bind_eq_ok, textColumn_eq_ok,
    Except.pure_eq_ok, Except.ok.injEq] at h
  obtain ⟨_, ⟨-, rfl⟩, _, -, _, -, _, -, _, -, _, -, _, -, _, -, rfl⟩ := h
  rfl

/-- A balance that is read is the stored one. -/
theorem eq_of_balanceFromRow {row b : DotCastCreatorEarningsBalance}
    (h : balanceFromRow js row = .ok b) : b = row := by
  simp only [balanceFromRow, requireRowText, requireRowInt, Except.bind_eq_ok, textColumn_eq_ok,
    integerColumn_eq_ok, Except.pure_eq_ok, Except.ok.injEq] at h
  obtain ⟨_, ⟨-, rfl⟩, _, ⟨-, rfl⟩, _, ⟨-, rfl⟩, _, ⟨-, rfl⟩, _, ⟨-, rfl⟩, _, ⟨-, rfl⟩, rfl⟩ := h
  rfl

theorem creatorId_of_payoutFromRow {row p : DotCastCreatorPayout}
    (h : payoutFromRow js row = .ok p) : p.creatorId = row.creatorId ∧ row.updatedAt ≠ "" := by
  simp only [payoutFromRow, requireRowText, requireRowInt, Except.bind_eq_ok, textColumn_eq_ok,
    Except.pure_eq_ok, Except.ok.injEq] at h
  obtain ⟨_, -, _, ⟨-, rfl⟩, _, -, _, -, _, -, _, -, _, -, _, -, _, -, _, ⟨hne, -⟩, rfl⟩ := h
  exact ⟨rfl, hne⟩

end Creator

/-! ## Stores -/

/-- The tables of the creator economy. -/
structure CreatorStore where
  creators : Rows String DotCastCreatorProfile
  balances : Rows (String × StakeUnit) DotCastCreatorEarningsBalance
  accruals : Rows String DotCastCreatorRakeAccrual
  payouts : Rows String DotCastCreatorPayout
  events : Rows String DotCastCreatorEvent
  funding : FundingStore
  creators_ok : ∀ id c, creators.get? id = some c → c.creatorId = id
  balances_ok : ∀ key b, balances.get? key = some b → (b.creatorId, b.unit) = key ∧ b.Valid
  accruals_ok : ∀ id a, accruals.get? id = some a → a.accrualId = id ∧ a.Valid
  payouts_ok : ∀ id p, payouts.get? id = some p → p.payoutId = id ∧ p.Valid
  pools_unique : ∀ id a id' a', accruals.get? id = some a → accruals.get? id' = some a' →
    a.poolId = a'.poolId → id = id'
  keys_unique : ∀ id p id' p', payouts.get? id = some p → payouts.get? id' = some p' →
    p.idempotencyKey = p'.idempotencyKey → id = id'

namespace CreatorStore

/-- The store with no rows. -/
def empty : CreatorStore where
  creators := Rows.empty
  balances := Rows.empty
  accruals := Rows.empty
  payouts := Rows.empty
  events := Rows.empty
  funding := FundingStore.empty
  creators_ok := by simp
  balances_ok := by simp
  accruals_ok := by simp
  payouts_ok := by simp
  pools_unique := by simp
  keys_unique := by simp

/-- A creator that is onboarded. -/
def putCreator (s : CreatorStore) (c : DotCastCreatorProfile) : CreatorStore :=
  { s with
    creators := s.creators.set c.creatorId c
    creators_ok := Rows.forall_set s.creators_ok rfl }

def withFunding (s : CreatorStore) (funding : FundingStore) : CreatorStore :=
  { s with funding := funding }

def accrualByPool (s : CreatorStore) (poolId : String) : Option DotCastCreatorRakeAccrual :=
  s.accruals.rows.find? fun a => a.poolId = poolId

def payoutByKey (s : CreatorStore) (idempotencyKey : String) : Option DotCastCreatorPayout :=
  s.payouts.rows.find? fun p => p.idempotencyKey = idempotencyKey

/-- Another accrual is stored for the pool, or under the id or the key of the accrual. -/
def AccrualTaken (s : CreatorStore) (a : DotCastCreatorRakeAccrual) : Prop :=
  ∃ row ∈ s.accruals.rows, row.accrualId = a.accrualId ∨ row.poolId = a.poolId ∨
    row.idempotencyKey = a.idempotencyKey

instance decidableAccrualTaken (s : CreatorStore) (a : DotCastCreatorRakeAccrual) :
    Decidable (s.AccrualTaken a) :=
  inferInstanceAs (Decidable (∃ row ∈ s.accruals.rows, _))

/-- Another payout is stored under the id or the key of the payout. -/
def PayoutTaken (s : CreatorStore) (p : DotCastCreatorPayout) : Prop :=
  ∃ row ∈ s.payouts.rows, row.payoutId = p.payoutId ∨ row.idempotencyKey = p.idempotencyKey

instance decidablePayoutTaken (s : CreatorStore) (p : DotCastCreatorPayout) :
    Decidable (s.PayoutTaken p) :=
  inferInstanceAs (Decidable (∃ row ∈ s.payouts.rows, _))

def putBalance (s : CreatorStore) (b : DotCastCreatorEarningsBalance) (hb : b.Valid) :
    CreatorStore :=
  { s with
    balances := s.balances.set (b.creatorId, b.unit) b
    balances_ok := Rows.forall_set s.balances_ok ⟨rfl, hb⟩ }

def putAccrual (s : CreatorStore) (a : DotCastCreatorRakeAccrual) (ha : a.Valid)
    (hfree : ¬s.AccrualTaken a) : CreatorStore :=
  { s with
    accruals := s.accruals.set a.accrualId a
    accruals_ok := Rows.forall_set s.accruals_ok ⟨rfl, ha⟩
    pools_unique := Rows.unique_set s.pools_unique fun id row hrow hpool =>
      absurd ⟨row, Rows.mem_rows_iff.mpr ⟨id, hrow⟩, Or.inr (Or.inl hpool)⟩ hfree }

def putPayout (s : CreatorStore) (p : DotCastCreatorPayout) (hp : p.Valid)
    (hfree : ∀ id row, s.payouts.get? id = some row → row.idempotencyKey = p.idempotencyKey →
      id = p.payoutId) : CreatorStore :=
  { s with
    payouts := s.payouts.set p.payoutId p
    payouts_ok := Rows.forall_set s.payouts_ok ⟨rfl, hp⟩
    keys_unique := Rows.unique_set s.keys_unique hfree }

/-- `INSERT OR IGNORE`. -/
def insertAccrualRow (s : CreatorStore) (a : DotCastCreatorRakeAccrual) : CreatorStore :=
  if h : a.Valid ∧ ¬s.AccrualTaken a then s.putAccrual a h.1 h.2 else s

/-- `INSERT OR IGNORE`. -/
def insertPayoutRow (s : CreatorStore) (p : DotCastCreatorPayout) : CreatorStore :=
  if h : p.Valid ∧ ¬s.PayoutTaken p then
    s.putPayout p h.1 fun id row hrow hkey =>
      absurd ⟨row, Rows.mem_rows_iff.mpr ⟨id, hrow⟩, Or.inr hkey⟩ h.2
  else s

/-- The columns an update sets. -/
def updatedPayout (row p : DotCastCreatorPayout) : DotCastCreatorPayout :=
  { row with
    status := p.status
    railTxRef := p.railTxRef
    mockSignature := p.mockSignature
    updatedAt := p.updatedAt }

/-- A stored payout is replaced. -/
def updatePayoutRow (s : CreatorStore) (p : DotCastCreatorPayout) : CreatorStore :=
  match h : s.payouts.get? p.payoutId with
  | none => s
  | some row => s.putPayout (updatedPayout row p) (s.payouts_ok _ _ h).2 fun _ _ hrow' hkey =>
      (s.keys_unique _ _ _ _ hrow' h hkey).trans (s.payouts_ok _ _ h).1.symm

/-- `INSERT OR IGNORE`; an event has no negative amount. -/
def insertEventRow (s : CreatorStore) (e : DotCastCreatorEvent) : CreatorStore :=
  if e.amount.any (· < 0) then s
  else { s with events := s.events.insertIfAbsent e.eventId e }

/-- A batch is refused as a whole when its balance fails the checks of the schema. -/
def batch (s t : CreatorStore) (b : DotCastCreatorEarningsBalance) (e : DotCastCreatorEvent) :
    Except Fault Unit × CreatorStore :=
  if hb : b.Valid then (.ok (), (t.putBalance b hb).insertEventRow e) else (.error checkFault, s)

/-! ### What each write leaves alone -/

section Frame

variable {s : CreatorStore} {a : DotCastCreatorRakeAccrual} {p : DotCastCreatorPayout}
  {e : DotCastCreatorEvent}

@[simp] theorem creators_insertPayoutRow : (s.insertPayoutRow p).creators = s.creators := by
  unfold insertPayoutRow
  split_ifs <;> rfl

@[simp] theorem balances_insertPayoutRow : (s.insertPayoutRow p).balances = s.balances := by
  unfold insertPayoutRow
  split_ifs <;> rfl

@[simp] theorem accruals_insertPayoutRow : (s.insertPayoutRow p).accruals = s.accruals := by
  unfold insertPayoutRow
  split_ifs <;> rfl

@[simp] theorem events_insertPayoutRow : (s.insertPayoutRow p).events = s.events := by
  unfold insertPayoutRow
  split_ifs <;> rfl

@[simp] theorem funding_insertPayoutRow : (s.insertPayoutRow p).funding = s.funding := by
  unfold insertPayoutRow
  split_ifs <;> rfl

theorem payouts_insertPayoutRow : (s.insertPayoutRow p).payouts =
    if p.Valid ∧ ¬s.PayoutTaken p then s.payouts.set p.payoutId p else s.payouts := by
  unfold insertPayoutRow
  split_ifs <;> rfl

@[simp] theorem creators_insertEventRow : (s.insertEventRow e).creators = s.creators := by
  unfold insertEventRow
  split_ifs <;> rfl

@[simp] theorem balances_insertEventRow : (s.insertEventRow e).balances = s.balances := by
  unfold insertEventRow
  split_ifs <;> rfl

@[simp] theorem accruals_insertEventRow : (s.insertEventRow e).accruals = s.accruals := by
  unfold insertEventRow
  split_ifs <;> rfl

@[simp] theorem payouts_insertEventRow : (s.insertEventRow e).payouts = s.payouts := by
  unfold insertEventRow
  split_ifs <;> rfl

@[simp] theorem funding_insertEventRow : (s.insertEventRow e).funding = s.funding := by
  unfold insertEventRow
  split_ifs <;> rfl

theorem events_insertEventRow : (s.insertEventRow e).events =
    if e.amount.any (· < 0) then s.events else s.events.insertIfAbsent e.eventId e := by
  unfold insertEventRow
  split_ifs <;> rfl

theorem payoutByKey_eq_some {key : String} :
    s.payoutByKey key = some p ↔ p.idempotencyKey = key ∧ ∃ id, s.payouts.get? id = some p := by
  refine Rows.find?_rows_eq_some (f := fun p : DotCastCreatorPayout => p.idempotencyKey = key) ?_
  intro id v id' v' hv hv' hkey hkey'
  exact s.keys_unique id v id' v' hv hv' (hkey.trans hkey'.symm)

end Frame

end CreatorStore

/-- What each call does to the stores. -/
def creatorHandler (js : Runtime) : Handler CreatorOp CreatorOp.Ret Fault CreatorStore
  | .rail op, s => ((fundingHandler op s.funding).1, s.withFunding (fundingHandler op s.funding).2)
  | .getCreator id, s => (readRow (Creator.creatorFromRow js) (s.creators.get? id), s)
  | .getBalance id unit, s => (readRow (Creator.balanceFromRow js) (s.balances.get? (id, unit)), s)
  | .getAccrualByPool poolId, s =>
    (readRow (Creator.accrualFromRow js) (s.accrualByPool poolId), s)
  | .applyAccrual a b e, s => s.batch (s.insertAccrualRow a) b e
  | .getPayout id, s => (readRow (Creator.payoutFromRow js) (s.payouts.get? id), s)
  | .getPayoutByIdempotencyKey key, s =>
    (readRow (Creator.payoutFromRow js) (s.payoutByKey key), s)
  | .insertPayout p b e, s => s.batch (s.insertPayoutRow p) b e
  | .updatePayout p b e, s => s.batch (s.updatePayoutRow p) b e

end Yevow.DotCast
