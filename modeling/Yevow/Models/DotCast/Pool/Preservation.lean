import Yevow.Models.DotCast.Pool.Invariant

/-!
# Locking, voiding and settling keep the invariant

With exact amounts a void returns every stake, a settlement hands out all stakes less the
rake, and the rake is what the house ledger gains.
-/

namespace Yevow.DotCast

open JavaScript (Runtime Returned)

variable {js : Runtime} {snapshot next : PoolSnapshot} {reserved : ℤ}

/-- A status change between active statuses, and fields nothing else depends on. -/
theorem PoolInvariant.withStatus (h : PoolInvariant snapshot reserved)
    (hactive : ¬snapshot.pool.status.Terminal) {status : PoolStatus}
    (hstatus : ¬status.Terminal) (updatedAt : String) (lastResolution : Option RouterResolution) :
    PoolInvariant { snapshot with
      pool := { snapshot.pool with status := status }
      updatedAt := updatedAt
      lastResolution := lastResolution } reserved := by
  have hsettlement : snapshot.settlement = none := by
    rw [← Option.not_isSome_iff_eq_none, ← h.settled_iff]
    exact fun hs => hactive (Or.inl hs)
  have hreason : snapshot.voidReason = none := by
    rw [← Option.not_isSome_iff_eq_none, ← h.voided_iff]
    exact fun hs => hactive (Or.inr hs)
  constructor
  · exact h.totals
  · exact h.ids
  · exact h.stakes
  · exact h.owners
  · exact h.nonneg
  · exact h.funded
  · exact fun _ => h.locked_active hactive
  · exact fun hterminal => absurd hterminal hstatus
  · exact h.conserved
  · rw [hsettlement]
    exact ⟨fun hs => absurd (Or.inl hs) hstatus, fun hs => absurd hs (by simp)⟩
  · intro record hrecord
    rw [hsettlement] at hrecord
    exact absurd hrecord (by simp)
  · rw [hreason]
    exact ⟨fun hs => absurd (Or.inr hs) hstatus, fun hs => absurd hs (by simp)⟩
  · exact fun hs => absurd (Or.inr hs) hstatus
  · exact fun _ => h.active hactive
  · exact h.rake

private theorem PoolInvariant.withResolution (h : PoolInvariant snapshot reserved)
    (resolution : RouterResolution) (now : String) :
    PoolInvariant (withResolution snapshot resolution now) reserved := { h with }

/-! ## Releasing all stakes -/

/-- After all stakes are released nothing is locked and nobody is in debt. -/
private theorem PoolInvariant.released (h : PoolInvariant snapshot reserved)
    (hactive : ¬snapshot.pool.status.Terminal) {credit : Entry → ℤ} {final : Balances}
    (hcredit : ∀ e ∈ snapshot.entries, 0 ≤ credit e)
    (hlookup : ∀ userId, final.lookup userId = (snapshot.balances.lookup userId).map
      (releasedBalance credit snapshot.entries userId)) :
    (∀ userId balance, final.lookup userId = some balance →
      balance.userId = userId ∧ balance.unit = snapshot.pool.unit ∧ 0 ≤ balance.available ∧
        balance.locked = 0) ∧
      ∀ e ∈ snapshot.entries, ∃ balance, final.lookup e.userId = some balance := by
  constructor
  · intro userId balance hbalance
    rw [hlookup] at hbalance
    obtain ⟨before, hbefore, rfl⟩ := Option.map_eq_some_iff.mp hbalance
    obtain ⟨hid, hunit⟩ := h.owners userId before hbefore
    have hlocked := h.locked_active hactive userId before hbefore
    have havailable := (h.nonneg userId before hbefore).1
    have hsum := userTotal_nonneg hcredit userId
    refine ⟨hid, hunit, ?_, ?_⟩
    · show 0 ≤ before.available + userTotal credit snapshot.entries userId
      omega
    · show before.locked - stakeOf snapshot.entries userId = 0
      omega
  · intro e he
    obtain ⟨before, hbefore⟩ := h.funded e he
    exact ⟨_, by rw [hlookup, hbefore, Option.map_some]⟩

/-- A marking of entries that keeps their stakes. -/
structure KeepsStakes (mark : Entry → Entry) : Prop where
  id : ∀ e, (mark e).id = e.id
  userId : ∀ e, (mark e).userId = e.userId
  side : ∀ e, (mark e).side = e.side
  amount : ∀ e, (mark e).amount = e.amount
  funding : ∀ e, (mark e).funding = e.funding

private theorem KeepsStakes.map_id {mark : Entry → Entry} (hm : KeepsStakes mark)
    (entries : List Entry) : (entries.map mark).map Entry.id = entries.map Entry.id := by
  rw [List.map_map]
  exact List.map_congr_left fun e _ => hm.id e

private theorem KeepsStakes.stakes {mark : Entry → Entry} (hm : KeepsStakes mark)
    (h : PoolInvariant snapshot reserved) :
    ∀ e ∈ snapshot.entries.map mark, e.funding = .user ∧ 0 < e.amount := by
  intro e he
  obtain ⟨e', he', rfl⟩ := List.mem_map.mp he
  rw [hm.funding, hm.amount]
  exact h.stakes e' he'

private theorem KeepsStakes.funded {mark : Entry → Entry} (hm : KeepsStakes mark)
    {final : Balances} {entries : List Entry}
    (hfunded : ∀ e ∈ entries, ∃ balance, final.lookup e.userId = some balance) :
    ∀ e ∈ entries.map mark, ∃ balance, final.lookup e.userId = some balance := by
  intro e he
  obtain ⟨e', he', rfl⟩ := List.mem_map.mp he
  rw [hm.userId]
  exact hfunded e' he'

/-! ## Voiding -/

/-- The entry a refund leaves behind. -/
def refunded (entry : Entry) : Entry := { entry with payout := none, refunded := true }

private theorem keepsStakes_refunded : KeepsStakes refunded := by
  constructor <;> intro e <;> rfl

theorem releases_refundEntry {entries : List Entry} (huser : ∀ e ∈ entries, e.funding = .user)
    (hopen : ∀ e ∈ entries, e.refunded = false) :
    Releases js (refundEntry js) Entry.amount refunded entries := by
  intro balances e he
  simp only [refundEntry, refunded, hopen e he, huser e he, Bool.false_eq_true, if_false]

/-- A void keeps the invariant. -/
theorem PoolInvariant.void (hA : js.arithmetic.Exact) (h : PoolInvariant snapshot reserved)
    {reason : VoidReason} {now : String} {outcome : Option PoolOutcome}
    (hvoid : voidPoolSnapshot js snapshot reason now outcome = .ok next) :
    PoolInvariant next reserved := by
  rcases voidPoolSnapshot_eq_ok hvoid with ⟨-, rfl⟩ | ⟨hactive, entries, final, hloop, rfl⟩
  · exact h
  · obtain ⟨rfl, hlookup, htotal, hkeys⟩ := mapEntries_eq_ok hA
      (releases_refundEntry (fun e he => (h.stakes e he).1) fun e he => (h.active hactive e he).2)
      hloop
    obtain ⟨hbalances, hfunded⟩ :=
      h.released hactive (fun e he => (h.stakes e he).2.le) hlookup
    have hm := keepsStakes_refunded
    have hconserved := h.conserved
    constructor
    · intro side
      rw [stakedOn_map (fun e _ => hm.side e) fun e _ => hm.amount e]
      exact h.totals side
    · simp only [hm.map_id]
      exact h.ids
    · exact hm.stakes h
    · exact fun userId balance hb =>
        ⟨(hbalances userId balance hb).1, (hbalances userId balance hb).2.1⟩
    · intro userId balance hb
      obtain ⟨-, -, havailable, hlocked⟩ := hbalances userId balance hb
      exact ⟨havailable, hlocked.ge⟩
    · exact hm.funded hfunded
    · exact fun hno => absurd (Or.inr rfl) hno
    · exact fun _ userId balance hb => (hbalances userId balance hb).2.2.2
    · simp only [seededTotal, hkeys] at hconserved ⊢
      rw [htotal]
      simpa using hconserved
    · simp
    · simp
    · simp
    · intro _ e he
      obtain ⟨e', -, rfl⟩ := List.mem_map.mp he
      exact ⟨rfl, rfl⟩
    · exact fun hno => absurd (Or.inr rfl) hno
    · exact h.rake

/-- Locking keeps the invariant. -/
theorem PoolInvariant.lock (hA : js.arithmetic.Exact) (h : PoolInvariant snapshot reserved)
    {now : String} {returned : Returned PoolSnapshot}
    (hlock : lockSnapshotIfNeeded js snapshot now = .ok returned) :
    PoolInvariant (returned.value snapshot) reserved := by
  rcases lockSnapshotIfNeeded_eq_ok hlock with hsame | ⟨hopen, -, hlocked⟩ | ⟨-, reason, hvoid⟩
  · rw [hsame]
    exact h
  · rw [hlocked]
    exact h.withStatus (by simp [hopen, PoolStatus.Terminal]) (by simp [PoolStatus.Terminal]) now
      snapshot.lastResolution
  · exact h.void hA hvoid

/-! ## Settling -/

/-- The payout a settlement has for an entry. -/
def payoutOf (payouts : List SettlementPayout) (entry : Entry) : ℤ :=
  (((Table.ofList SettlementPayout.entryId id payouts).lookup entry.id).map
    SettlementPayout.payout).getD 0

/-- The entry a settlement leaves behind. -/
def paidOut (payouts : List SettlementPayout) (entry : Entry) : Entry :=
  { entry with payout := some (payoutOf payouts entry), refunded := false }

private theorem keepsStakes_paidOut (payouts : List SettlementPayout) :
    KeepsStakes (paidOut payouts) := by
  constructor <;> intro e <;> rfl

section Settling

variable {outcome : Side} {result : SettledParimutuelResult}

private theorem ids_payouts {entries : List Entry}
    (hs : IsParimutuelSettlement (entries.map toSettlementEntry) outcome result) :
    (result.payouts.map SettlementPayout.entryId).Perm (entries.map Entry.id) := by
  have := hs.payouts_perm.map Prod.fst
  simp only [List.map_map] at this
  exact this

/-- Every entry has a payout under its id. -/
theorem exists_payout {entries : List Entry} (hids : (entries.map Entry.id).Nodup)
    (hs : IsParimutuelSettlement (entries.map toSettlementEntry) outcome result) {e : Entry}
    (he : e ∈ entries) :
    ∃ p ∈ result.payouts,
      (Table.ofList SettlementPayout.entryId id result.payouts).lookup e.id = some p ∧
        payoutOf result.payouts e = p.payout := by
  have hmem : e.id ∈ result.payouts.map SettlementPayout.entryId :=
    (ids_payouts hs).mem_iff.mpr (List.mem_map.mpr ⟨e, he, rfl⟩)
  obtain ⟨p, hp, hid⟩ := List.mem_map.mp hmem
  have hlookup := Table.lookup_ofList SettlementPayout.entryId id
    ((ids_payouts hs).nodup_iff.mpr hids) hp
  rw [hid] at hlookup
  exact ⟨p, hp, hlookup, by rw [payoutOf, hlookup]; rfl⟩

private theorem releases_settleEntry {entries : List Entry} {unit : StakeUnit}
    (hids : (entries.map Entry.id).Nodup) (huser : ∀ e ∈ entries, e.funding = .user)
    (hs : IsParimutuelSettlement (entries.map toSettlementEntry) outcome result) :
    Releases js (settleEntry js (Table.ofList SettlementPayout.entryId id result.payouts) unit)
      (payoutOf result.payouts) (paidOut result.payouts) entries := by
  intro balances e he
  obtain ⟨p, -, hlookup, hpayout⟩ := exists_payout hids hs he
  simp only [settleEntry, hlookup, huser e he, paidOut, hpayout]

/-- The entries are credited with all payouts together. -/
theorem sum_payoutOf {entries : List Entry} (hids : (entries.map Entry.id).Nodup)
    (hs : IsParimutuelSettlement (entries.map toSettlementEntry) outcome result) :
    (entries.map (payoutOf result.payouts)).sum =
      (result.payouts.map SettlementPayout.payout).sum := by
  let byId : String → ℤ := fun entryId =>
    (((Table.ofList SettlementPayout.entryId id result.payouts).lookup entryId).map
      SettlementPayout.payout).getD 0
  have hpayouts : result.payouts.map SettlementPayout.payout =
      (result.payouts.map SettlementPayout.entryId).map byId := by
    rw [List.map_map]
    refine List.map_congr_left fun p hp => ?_
    have := Table.lookup_ofList SettlementPayout.entryId id
      ((ids_payouts hs).nodup_iff.mpr hids) hp
    simp [byId, this]
  rw [hpayouts, ((ids_payouts hs).map byId).sum_eq, List.map_map]
  rfl

private theorem foldl_payouts (hA : js.arithmetic.Exact) (payouts : List SettlementPayout)
    (start : ℤ) :
    payouts.foldl (fun sum payout => js.arithmetic.integer (sum + payout.payout)) start =
      start + (payouts.map SettlementPayout.payout).sum := by
  induction payouts generalizing start with
  | nil => simp
  | cons p payouts ih => rw [List.foldl_cons, ih, hA, List.map_cons, List.sum_cons, add_assoc]

private theorem sum_houseLedger (ledger : List HouseLedgerEntry) (pool : Pool) (now : String)
    {rakeAmount : ℤ} (hrake : 0 ≤ rakeAmount) :
    ((if rakeAmount > 0 then ledger ++ [houseRakeEntry js pool rakeAmount now]
        else ledger).map HouseLedgerEntry.amount).sum =
      (ledger.map HouseLedgerEntry.amount).sum + rakeAmount := by
  split_ifs with hpos
  · simp [houseRakeEntry]
  · have : rakeAmount = 0 := by omega
    simp [this]

/-- Dividing the pool keeps the invariant. -/
theorem PoolInvariant.divided (hA : js.arithmetic.Exact) (h : PoolInvariant snapshot reserved)
    (hactive : ¬snapshot.pool.status.Terminal) {now : String}
    (hs : IsParimutuelSettlement (snapshot.entries.map toSettlementEntry) outcome result)
    (hsettle : settledSnapshot js snapshot { snapshot.pool with status := .resolving } outcome
      result now = .ok next) : PoolInvariant next reserved := by
  obtain ⟨entries, final, hloop, rfl⟩ := settledSnapshot_eq_ok hsettle
  obtain ⟨rfl, hlookup, htotal, hkeys⟩ := mapEntries_eq_ok hA
    (releases_settleEntry h.ids (fun e he => (h.stakes e he).1) hs) hloop
  have hpos : ∀ e ∈ snapshot.entries.map toSettlementEntry, 0 < e.amount := by
    intro e he
    obtain ⟨e', he', rfl⟩ := List.mem_map.mp he
    exact (h.stakes e' he').2
  obtain ⟨hbalances, hfunded⟩ := h.released hactive (fun e he => by
    obtain ⟨p, hp, -, hpayout⟩ := exists_payout h.ids hs he
    rw [hpayout]
    exact hs.payout_nonneg hpos hp) hlookup
  have hm := keepsStakes_paidOut result.payouts
  have hconserved := h.conserved
  have hpaid : (snapshot.entries.map (payoutOf result.payouts)).sum + result.rakeAmount =
      (snapshot.entries.map Entry.amount).sum := by
    rw [sum_payoutOf h.ids hs, hs.conservation, List.map_map]
    rfl
  constructor
  · intro side
    rw [stakedOn_map (fun e _ => hm.side e) fun e _ => hm.amount e]
    exact h.totals side
  · simp only [hm.map_id]
    exact h.ids
  · exact hm.stakes h
  · exact fun userId balance hb =>
      ⟨(hbalances userId balance hb).1, (hbalances userId balance hb).2.1⟩
  · intro userId balance hb
    obtain ⟨-, -, havailable, hlocked⟩ := hbalances userId balance hb
    exact ⟨havailable, hlocked.ge⟩
  · exact hm.funded hfunded
  · exact fun hno => absurd (Or.inl rfl) hno
  · exact fun _ userId balance hb => (hbalances userId balance hb).2.2.2
  · simp only [seededTotal, hkeys] at hconserved ⊢
    rw [htotal, sum_houseLedger _ _ _ hs.rakeAmount_nonneg]
    linarith
  · simp
  · intro record hrecord
    obtain rfl := Option.some.inj hrecord
    refine ⟨?_, fun e he => ?_⟩
    · simp only [settlementRecord, foldl_payouts hA, zero_add]
      rw [hs.conservation, hs.totalStaked_eq]
    · obtain ⟨e', -, rfl⟩ := List.mem_map.mp he
      exact ⟨rfl, rfl⟩
  · simp
  · simp
  · exact fun hno => absurd (Or.inl rfl) hno
  · exact h.rake

private theorem PoolInvariant.rakeBps (h : PoolInvariant snapshot reserved) :
    ∀ r, snapshot.pool.rake = .finite r →
      0 ≤ DotCast.rakeBps js r ∧ DotCast.rakeBps js r ≤ 10000 := by
  intro r hr
  obtain ⟨r', hr', h₀, h₁⟩ := h.rake
  obtain rfl := Number.finite.inj (hr.symm.trans hr')
  exact rakeBps_mem h₀ h₁

/-- Settling keeps the invariant. -/
theorem PoolInvariant.settle (hA : js.arithmetic.Exact) (h : PoolInvariant snapshot reserved)
    {outcome : PoolOutcome} {now : String}
    (hsettle : settlePoolSnapshot js snapshot outcome now = .ok next) :
    PoolInvariant next reserved := by
  rcases settlePoolSnapshot_eq_ok hsettle with ⟨-, rfl⟩ | ⟨-, -, hvoid⟩ |
    ⟨side, pool, settlement, -, hstatus, rfl, hrun, hcases⟩
  · exact h
  · exact h.void hA hvoid
  · have hactive : ¬snapshot.pool.status.Terminal := by
      rcases hstatus with hs | hs <;> simp [hs, PoolStatus.Terminal]
    rcases hcases with ⟨refused, rfl, hvoid⟩ | ⟨result, rfl, hdivide⟩
    · refine PoolInvariant.void hA ?_ hvoid
      exact h.withStatus hactive (by simp [PoolStatus.Terminal]) snapshot.updatedAt
        snapshot.lastResolution
    · refine h.divided hA hactive ?_ hdivide
      refine isParimutuelSettlement_of_settled hA ?_ ?_ h.rakeBps hrun
      · refine List.Nodup.sublist (List.filter_sublist.map _) ?_
        rw [List.map_map]
        exact h.ids
      · intro e he
        obtain ⟨e', he', rfl⟩ := List.mem_map.mp he
        exact (h.stakes e' he').2

end Settling

/-- The steps of a resolution keep the invariant. -/
theorem preservedBySteps_invariant (hA : js.arithmetic.Exact) (reserved : ℤ) :
    PreservedBySteps js fun s => PoolInvariant s reserved where
  withResolution resolution now h := h.withResolution resolution now
  lock h hlock := h.lock hA hlock
  void h hvoid := h.void hA hvoid
  settle h hsettle := h.settle hA hsettle

end Yevow.DotCast
