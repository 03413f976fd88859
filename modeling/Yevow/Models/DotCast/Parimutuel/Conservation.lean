import Yevow.Core.JavaScript.Reference
import Yevow.Core.Number.Apportionment
import Yevow.Models.DotCast.Parimutuel.Settle

/-!
# Settlement divides exactly what was staked

With amounts kept as exact integers, a settlement pays every winner the stake and a
largest-remainder share of the prize pool, pays the losers nothing, and together with the
rake hands out precisely the sum of all stakes.
-/

namespace Yevow.DotCast

open JavaScript (Runtime)
open Apportionment

/-- Everything staked on one side. -/
def sideStake (entries : List SettlementEntry) (side : Side) : ℤ :=
  ((entries.filter fun entry => entry.side = side).map SettlementEntry.amount).sum

/-- What a settlement of a list of entries has to be. The share of a stake is
`stake * prizePool / winPool` in exact arithmetic. -/
structure IsParimutuelSettlement (entries : List SettlementEntry) (outcome : Side)
    (result : SettledParimutuelResult) : Prop where
  /-- Every entry is paid exactly once, under its own side and stake. -/
  payouts_perm : (result.payouts.map fun p => (p.entryId, p.side, p.stake)).Perm
    (entries.map fun e => (e.id, e.side, e.amount))
  /-- Payouts and rake make up the stakes. -/
  conservation : (result.payouts.map SettlementPayout.payout).sum + result.rakeAmount =
    (entries.map SettlementEntry.amount).sum
  losing : ∀ p ∈ result.payouts, p.side ≠ outcome → p.payout = 0
  winning : ∀ p ∈ result.payouts, p.side = outcome →
    p.payout = p.stake + p.stake * result.prizePool / sideStake entries outcome ∨
    p.payout = p.stake + (p.stake * result.prizePool / sideStake entries outcome + 1)
  /-- As many winners get an extra unit as the floors leave units over. -/
  count_extra : ((result.payouts.filter fun p => p.side = outcome ∧
      p.payout = p.stake + (p.stake * result.prizePool / sideStake entries outcome + 1)).length :
        ℤ) =
    result.prizePool - ((entries.filter fun e => e.side = outcome).map fun e =>
      e.amount * result.prizePool / sideStake entries outcome).sum
  /-- They are winners with the largest remainders. -/
  largest : ∀ p ∈ result.payouts, ∀ q ∈ result.payouts, p.side = outcome → q.side = outcome →
    p.payout = p.stake + (p.stake * result.prizePool / sideStake entries outcome + 1) →
    q.payout = q.stake + q.stake * result.prizePool / sideStake entries outcome →
    q.stake * result.prizePool % sideStake entries outcome ≤
      p.stake * result.prizePool % sideStake entries outcome
  /-- The losing stakes are split into prize pool and rake. -/
  losers_pay : result.prizePool + result.rakeAmount = sideStake entries outcome.opposing
  prizePool_nonneg : 0 ≤ result.prizePool
  rakeAmount_nonneg : 0 ≤ result.rakeAmount
  totalStaked_eq : result.totalStaked = (entries.map SettlementEntry.amount).sum
  outcome_eq : result.outcome = outcome

/-! ## Totals -/

@[simp] theorem sideStake_nil (side : Side) : sideStake [] side = 0 := (rfl)

private theorem sideStake_cons (entry : SettlementEntry) (entries : List SettlementEntry)
    (side : Side) :
    sideStake (entry :: entries) side =
      (if entry.side = side then entry.amount else 0) + sideStake entries side := by
  by_cases h : entry.side = side <;> simp [sideStake, h]

/-- Both sides together hold every stake. -/
theorem sideStake_add_opposing (entries : List SettlementEntry) (side : Side) :
    sideStake entries side + sideStake entries side.opposing =
      (entries.map SettlementEntry.amount).sum := by
  induction entries with
  | nil => simp
  | cons entry entries ih =>
    rw [sideStake_cons, sideStake_cons, List.map_cons, List.sum_cons, ← ih]
    cases hs : entry.side <;> cases side <;> simp [Side.opposing] <;> omega

theorem sideStake_nonneg {entries : List SettlementEntry} (hpos : ∀ e ∈ entries, 0 < e.amount)
    (side : Side) : 0 ≤ sideStake entries side := by
  apply List.sum_nonneg
  intro a ha
  obtain ⟨e, he, rfl⟩ := List.mem_map.mp ha
  exact (hpos e (List.mem_of_mem_filter he)).le

/-- With positive stakes a side's total is zero exactly when nobody is on it. -/
theorem sideStake_eq_zero_iff {entries : List SettlementEntry}
    (hpos : ∀ e ∈ entries, 0 < e.amount) (side : Side) :
    sideStake entries side = 0 ↔ ∀ e ∈ entries, e.side ≠ side := by
  induction entries with
  | nil => simp
  | cons entry entries ih =>
    have htail : ∀ e ∈ entries, 0 < e.amount := fun e he => hpos e (List.mem_cons_of_mem _ he)
    have hn := sideStake_nonneg htail side
    have hp := hpos entry (List.mem_cons_self ..)
    rw [sideStake_cons, List.forall_mem_cons, ← ih htail]
    by_cases h : entry.side = side
    · simp only [h, ne_eq, not_true_eq_false, false_and, iff_false, if_true]
      omega
    · simp [h]

/-- No payout is negative. -/
theorem IsParimutuelSettlement.payout_nonneg {entries : List SettlementEntry}
    {outcome : Side} {result : SettledParimutuelResult}
    (hs : IsParimutuelSettlement entries outcome result) (hpos : ∀ e ∈ entries, 0 < e.amount)
    {p : SettlementPayout} (hp : p ∈ result.payouts) : 0 ≤ p.payout := by
  by_cases hside : p.side = outcome
  · have hstake : 0 ≤ p.stake := by
      have hmem : (p.entryId, p.side, p.stake) ∈ entries.map fun e => (e.id, e.side, e.amount) :=
        hs.payouts_perm.mem_iff.mp (List.mem_map.mpr ⟨p, hp, rfl⟩)
      obtain ⟨e, he, heq⟩ := List.mem_map.mp hmem
      simp only [Prod.mk.injEq] at heq
      rw [← heq.2.2]
      exact (hpos e he).le
    have hshare : 0 ≤ p.stake * result.prizePool / sideStake entries outcome :=
      Int.ediv_nonneg (mul_nonneg hstake hs.prizePool_nonneg) (sideStake_nonneg hpos outcome)
    rcases hs.winning p hp hside with h | h <;> omega
  · exact (hs.losing p hp hside).ge

section Exact

variable {js : Runtime}

theorem validateEntry_eq_ok {entry out : SettlementEntry}
    (h : validateEntry js entry = .ok out) : out = entry ∧ 0 < entry.amount := by
  simp only [validateEntry, assertPositiveMinorUnits, Except.bind_eq_ok, Except.pure_eq_ok,
    Except.ok.injEq, Except.throwIf_eq_ok] at h
  obtain ⟨_, ⟨_, _, hpos⟩, rfl⟩ := h
  exact ⟨rfl, by omega⟩

theorem mapM_validateEntry_eq_ok {entries out : List SettlementEntry}
    (h : entries.mapM (validateEntry js) = .ok out) : out = entries := by
  induction entries generalizing out with
  | nil => simpa [eq_comm] using h
  | cons entry entries ih =>
    rw [List.mapM_cons] at h
    obtain ⟨e, he, htail⟩ := Except.bind_eq_ok.mp h
    obtain ⟨es, hes, hout⟩ := Except.bind_eq_ok.mp htail
    obtain ⟨rfl, -⟩ := validateEntry_eq_ok he
    obtain rfl := ih hes
    exact (Except.ok.inj hout).symm

private theorem addToTotals_get (hA : js.arithmetic.Exact) {totals next : SideTotals}
    {entry : SettlementEntry} (h : addToTotals js totals entry = .ok next) (side : Side) :
    next.get side = totals.get side + if entry.side = side then entry.amount else 0 := by
  simp only [addToTotals, Except.bind_eq_ok] at h
  obtain ⟨e, he, _, _, h⟩ := h
  obtain ⟨rfl, -⟩ := validateEntry_eq_ok he
  obtain rfl := Except.ok.inj h
  by_cases hs : e.side = side
  · subst hs
    simp [hA _]
  · rw [SideTotals.get_set_of_ne _ (Ne.symm hs)]
    simp [hs]

private theorem foldlM_addToTotals_get (hA : js.arithmetic.Exact) {entries : List SettlementEntry}
    {start totals : SideTotals} (h : entries.foldlM (addToTotals js) start = .ok totals)
    (side : Side) : totals.get side = start.get side + sideStake entries side := by
  induction entries generalizing start with
  | nil =>
    obtain rfl := Except.ok.inj h
    simp
  | cons entry entries ih =>
    rw [List.foldlM_cons] at h
    obtain ⟨next, hnext, h⟩ := Except.bind_eq_ok.mp h
    rw [ih h, addToTotals_get hA hnext, sideStake_cons, add_assoc]

/-- The totals loop adds up each side's stakes. -/
theorem calculatePoolTotals_get (hA : js.arithmetic.Exact) {entries : List SettlementEntry}
    {totals : SideTotals} (h : calculatePoolTotals js entries = .ok totals) (side : Side) :
    totals.get side = sideStake entries side := by
  have := foldlM_addToTotals_get hA h side
  cases side <;> simpa [SideTotals.get] using this

/-- A fraction between zero and one rounds to at most all basis points. -/
theorem rakeBps_mem {r : ℚ} (h₀ : 0 ≤ r) (h₁ : r ≤ 1) :
    0 ≤ rakeBps js r ∧ rakeBps js r ≤ 10000 := by
  have hnonneg : 0 ≤ r * 10000 := by positivity
  have hle : js.arithmetic.fraction (r * 10000) ≤ (10000 : ℕ) :=
    js.arithmetic.fraction_le hnonneg (by push_cast; linarith) (by norm_num)
  exact ⟨Arithmetic.mathRound_nonneg (js.arithmetic.fraction_nonneg hnonneg),
    Arithmetic.mathRound_le hle⟩

/-- The rake is a non-negative part of the losing pool. -/
theorem calculateRakeAmount_eq_ok (hA : js.arithmetic.Exact) {losingPool rakeAmount : ℤ}
    {rake : Number} (hl : 0 ≤ losingPool)
    (hbps : ∀ r, rake = .finite r → 0 ≤ rakeBps js r ∧ rakeBps js r ≤ 10000)
    (h : calculateRakeAmount js losingPool rake = .ok rakeAmount) :
    0 ≤ rakeAmount ∧ rakeAmount ≤ losingPool := by
  cases rake with
  | finite r =>
    obtain ⟨h0, h1⟩ := hbps r rfl
    simp only [calculateRakeAmount, Except.bind_eq_ok, Except.pure_eq_ok, Except.ok.injEq] at h
    obtain ⟨_, _, _, _, _, _, rfl⟩ := h
    have hprod : 0 ≤ losingPool * rakeBps js r := mul_nonneg hl h0
    rw [hA, Int.tdiv_eq_ediv_of_nonneg hprod]
    refine ⟨Int.ediv_nonneg hprod (by decide), Int.ediv_le_of_le_mul (by decide) ?_⟩
    exact mul_le_mul_of_nonneg_left h1 hl
  | infinite negative => simp [calculateRakeAmount, Except.bind_eq_ok] at h
  | nan => simp [calculateRakeAmount, Except.bind_eq_ok] at h

/-! ## The units left over -/

/-- The remainder loop adds one unit under an id at the front of the order. -/
theorem lookup_distributeRemainder (hA : js.arithmetic.Exact) {order : List AllocationDraft}
    {id : String} (hcount : (order.map fun d => d.entry.id).count id ≤ 1) (undistributed : ℤ)
    (allocations : Table String ℤ) :
    ((distributeRemainder js order undistributed allocations).lookup id).getD 0 =
      (allocations.lookup id).getD 0 +
        if id ∈ (order.take undistributed.toNat).map fun d => d.entry.id then 1 else 0 := by
  induction order generalizing undistributed allocations with
  | nil => simp [distributeRemainder]
  | cons draft rest ih =>
    rw [List.map_cons, List.count_cons] at hcount
    by_cases hu : undistributed > 0
    · have htake : undistributed.toNat = (undistributed - 1).toNat + 1 := by omega
      rw [distributeRemainder, if_pos hu, ih (by omega), htake, List.take_succ_cons, List.map_cons,
        Table.lookup_insert, hA, hA]
      by_cases hid : id = draft.entry.id
      · have hnot : id ∉ (rest.take (undistributed - 1).toNat).map fun d => d.entry.id := by
          intro hmem
          obtain ⟨d, hd, he⟩ := List.mem_map.mp hmem
          have hrest : 0 < (rest.map fun d => d.entry.id).count id :=
            List.count_pos_iff.mpr (List.mem_map.mpr ⟨d, List.mem_of_mem_take hd, he⟩)
          simp only [hid, beq_self_eq_true, if_true] at hcount hrest
          omega
        rw [if_pos hid, if_neg hnot, if_pos (List.mem_cons.mpr (Or.inl hid)), hid]
        simp
      · simp only [List.mem_cons, hid, false_or, if_false]
    · rw [distributeRemainder, if_neg hu]
      have : undistributed.toNat = 0 := by omega
      simp [this]

private theorem respects_compareRemainderDrafts :
    Sorting.Respects (compareRemainderDrafts js) fun left right =>
      right.remainder ≤ left.remainder := by
  constructor
  · intro left right h
    unfold compareRemainderDrafts at h
    split_ifs at h <;> omega
  · intro left right h
    unfold compareRemainderDrafts at h
    split_ifs at h <;> omega
  · intro a b c hab hbc
    exact hbc.trans hab

theorem map_entry_drafts (winPool prizePool : ℤ) (winners : List SettlementEntry) :
    (winners.mapIdx (allocationDraft js winPool prizePool)).map AllocationDraft.entry =
      winners := by
  apply List.ext_getElem
  · simp
  · intro i h₁ h₂
    simp [allocationDraft]

theorem mem_drafts (hA : js.arithmetic.Exact) {winners : List SettlementEntry}
    {winPool prizePool : ℤ} (hpos : ∀ e ∈ winners, 0 < e.amount) (hprize : 0 ≤ prizePool)
    {d : AllocationDraft} (hd : d ∈ winners.mapIdx (allocationDraft js winPool prizePool)) :
    d.baseWinnings = share SettlementEntry.amount prizePool winPool d.entry ∧
      d.remainder = remainder SettlementEntry.amount prizePool winPool d.entry := by
  obtain ⟨i, hi, rfl⟩ := List.mem_mapIdx.mp hd
  have hnum : 0 ≤ winners[i].amount * prizePool :=
    mul_nonneg (hpos _ (List.getElem_mem hi)).le hprize
  constructor
  · simp only [allocationDraft, hA _, share]
    exact Int.tdiv_eq_ediv_of_nonneg hnum
  · simp only [allocationDraft, remainder]
    exact Int.tmod_eq_emod_of_nonneg hnum

theorem foldl_baseWinnings (hA : js.arithmetic.Exact) (drafts : List AllocationDraft)
    (start : ℤ) :
    drafts.foldl (fun sum draft => js.arithmetic.integer (sum + draft.baseWinnings)) start =
      start + (drafts.map AllocationDraft.baseWinnings).sum := by
  induction drafts generalizing start with
  | nil => simp
  | cons d drafts ih => rw [List.foldl_cons, ih, hA, List.map_cons, List.sum_cons, add_assoc]

/-- With exact sums the winnings are a largest-remainder apportionment of the prize pool. -/
theorem allocatePrizePool_spec (hA : js.arithmetic.Exact) {winners : List SettlementEntry}
    {winPool prizePool : ℤ} (hids : (winners.map SettlementEntry.id).Nodup)
    (hpos : ∀ e ∈ winners, 0 < e.amount) (hwin : 0 < winPool) (hprize : 0 ≤ prizePool)
    (hsum : (winners.map SettlementEntry.amount).sum = winPool) :
    ∃ alloc, IsLargestRemainder SettlementEntry.amount prizePool winPool winners alloc ∧
      ∀ e ∈ winners,
        ((allocatePrizePool js winners winPool prizePool).lookup e.id).getD 0 = alloc e := by
  have hne : winners ≠ [] := by
    rintro rfl
    simp at hsum
    omega
  have hnodup : winners.Nodup := List.Nodup.of_map _ hids
  by_cases hz : prizePool = 0
  · subst hz
    have hshares : (winners.map (share SettlementEntry.amount 0 winPool)).sum = 0 :=
      List.sum_eq_zero (by simp [share])
    refine ⟨withExtra SettlementEntry.amount 0 winPool (winners.take 0),
      isLargestRemainder_of_order hwin hne hsum hnodup (List.Perm.refl _) ?_ (by simp [hshares]),
        ?_⟩
    · exact List.pairwise_of_forall (by simp [remainder])
    · intro e he
      rw [allocatePrizePool, if_pos rfl, Table.lookup_ofList _ _ hids he]
      simp [withExtra, share]
  · let drafts := winners.mapIdx (allocationDraft js winPool prizePool)
    let sorted := Sorting.sortBy (compareRemainderDrafts js) drafts
    have hdrafts : ∀ d ∈ drafts,
        d.baseWinnings = share SettlementEntry.amount prizePool winPool d.entry ∧
          d.remainder = remainder SettlementEntry.amount prizePool winPool d.entry :=
      fun d hd => mem_drafts hA hpos hprize hd
    have hentries : drafts.map AllocationDraft.entry = winners :=
      map_entry_drafts winPool prizePool winners
    have hsortedPerm : sorted.Perm drafts := Sorting.perm_sortBy _ drafts
    have hperm : (sorted.map AllocationDraft.entry).Perm winners :=
      hentries ▸ hsortedPerm.map AllocationDraft.entry
    have hsorted : (sorted.map AllocationDraft.entry).Pairwise fun x y =>
        remainder SettlementEntry.amount prizePool winPool y ≤
          remainder SettlementEntry.amount prizePool winPool x := by
      refine List.pairwise_map.mpr
        ((Sorting.pairwise_sortBy respects_compareRemainderDrafts drafts).imp_of_mem ?_)
      intro a b ha hb hab
      rwa [(hdrafts a (hsortedPerm.mem_iff.mp ha)).2,
        (hdrafts b (hsortedPerm.mem_iff.mp hb)).2] at hab
    have hbase :
      drafts.foldl (fun sum draft => js.arithmetic.integer (sum + draft.baseWinnings)) 0 =
        (winners.map (share SettlementEntry.amount prizePool winPool)).sum := by
      rw [foldl_baseWinnings hA, zero_add, List.map_congr_left fun d hd => (hdrafts d hd).1]
      rw [← hentries, List.map_map]
      rfl
    have hle : (winners.map (share SettlementEntry.amount prizePool winPool)).sum ≤ prizePool :=
      sum_share_le hwin hsum
    refine ⟨withExtra SettlementEntry.amount prizePool winPool
      ((sorted.map AllocationDraft.entry).take
        (prizePool - (winners.map (share SettlementEntry.amount prizePool winPool)).sum).toNat),
      isLargestRemainder_of_order hwin hne hsum hnodup hperm hsorted (by omega), ?_⟩
    intro e he
    have hdraftIds : (drafts.map fun d => d.entry.id).Nodup := by
      rw [← hentries, List.map_map] at hids
      exact hids
    have hsortedIds : (sorted.map fun d => d.entry.id).Nodup :=
      (hsortedPerm.map _).nodup_iff.mpr hdraftIds
    obtain ⟨d, hd, rfl⟩ : ∃ d ∈ drafts, d.entry = e := by
      rw [← hentries] at he
      exact List.mem_map.mp he
    rw [allocatePrizePool, if_neg hz]
    simp only
    rw [lookup_distributeRemainder hA (List.nodup_iff_count_le_one.mp hsortedIds _), hA, hbase,
      Table.lookup_ofList (fun d : AllocationDraft => d.entry.id) _ hdraftIds hd,
      Option.getD_some, (hdrafts d hd).1, withExtra]
    congr 1
    refine if_congr ?_ rfl rfl
    rw [← List.map_take, List.mem_map, List.mem_map]
    constructor
    · rintro ⟨d', hd', hid⟩
      have hmem : d' ∈ drafts := hsortedPerm.mem_iff.mp (List.mem_of_mem_take hd')
      exact ⟨d', hd', congrArg _ (List.inj_on_of_nodup_map hdraftIds hmem hd hid)⟩
    · rintro ⟨d', hd', hentry⟩
      exact ⟨d', hd', congrArg SettlementEntry.id hentry⟩

/-! ## The whole settlement -/

/-- A run that settles passes through the winners' pool, the rake and the allocation. -/
theorem settleParimutuel_eq_settled {entries : List SettlementEntry} {outcome : Side}
    {rake : Number} {result : SettledParimutuelResult}
    (h : settleParimutuel js entries outcome rake = .ok (.settled result)) :
    ∃ totals rakeAmount, calculatePoolTotals js entries = .ok totals ∧
      totals.get outcome ≠ 0 ∧
      calculateRakeAmount js (totals.get outcome.opposing) rake = .ok rakeAmount ∧
      result = ⟨outcome, totals, js.arithmetic.integer (totals.yes + totals.no), rakeAmount,
        js.arithmetic.integer (totals.get outcome.opposing - rakeAmount),
        Sorting.sortBy (fun left right => js.localeCompare.compare left.entryId right.entryId)
          ((entries.filter fun entry => entry.side = outcome).map (winningPayout js
              (allocatePrizePool js (entries.filter fun entry => entry.side = outcome)
                (totals.get outcome)
                (js.arithmetic.integer (totals.get outcome.opposing - rakeAmount)))) ++
            (entries.filter fun entry => entry.side ≠ outcome).map losingPayout)⟩ := by
  unfold settleParimutuel at h
  split_ifs at h with hempty
  · simp at h
  · obtain ⟨normalized, hnormalized, hrest⟩ := Except.bind_eq_ok.mp h
    obtain rfl := mapM_validateEntry_eq_ok hnormalized
    obtain ⟨totals, htotals, hrun⟩ := Except.bind_eq_ok.mp hrest
    simp only at hrun
    split_ifs at hrun with hwin
    · simp at hrun
    · obtain ⟨rakeAmount, hrake, hout⟩ := Except.bind_eq_ok.mp hrun
      refine ⟨totals, rakeAmount, htotals, hwin, hrake, ?_⟩
      simpa [eq_comm] using hout

/-- The payout of a winner whose share of the prize pool is known. -/
def payoutWith (alloc : SettlementEntry → ℤ) (entry : SettlementEntry) :
    SettlementPayout :=
  ⟨entry.id, entry.side, entry.amount, entry.amount + alloc entry⟩

private theorem mem_payouts {alloc : SettlementEntry → ℤ} {entries : List SettlementEntry}
    {outcome : Side} {payouts : List SettlementPayout}
    (hp : payouts.Perm ((entries.filter fun e => e.side = outcome).map (payoutWith alloc) ++
      (entries.filter fun e => e.side ≠ outcome).map losingPayout)) {p : SettlementPayout}
    (hmem : p ∈ payouts) :
    (∃ e ∈ entries.filter fun e => e.side = outcome, p.side = outcome ∧ payoutWith alloc e = p) ∨
      (p.side ≠ outcome ∧ p.payout = 0) := by
  rcases List.mem_append.mp (hp.mem_iff.mp hmem) with hwin | hlose
  · obtain ⟨e, he, rfl⟩ := List.mem_map.mp hwin
    have hside : e.side = outcome := by simpa using (List.mem_filter.mp he).2
    exact Or.inl ⟨e, he, hside, rfl⟩
  · obtain ⟨e, he, rfl⟩ := List.mem_map.mp hlose
    have hside : e.side ≠ outcome := by simpa using (List.mem_filter.mp he).2
    exact Or.inr ⟨hside, rfl⟩

private theorem perm_stakes {alloc : SettlementEntry → ℤ} {entries : List SettlementEntry}
    {outcome : Side} {payouts : List SettlementPayout}
    (hp : payouts.Perm ((entries.filter fun e => e.side = outcome).map (payoutWith alloc) ++
      (entries.filter fun e => e.side ≠ outcome).map losingPayout)) :
    (payouts.map fun p => (p.entryId, p.side, p.stake)).Perm
      (entries.map fun e => (e.id, e.side, e.amount)) := by
  have hsplit : ((entries.filter fun e => e.side = outcome) ++
      entries.filter fun e => e.side ≠ outcome).Perm entries := by
    simpa using List.filter_append_perm (fun e : SettlementEntry => e.side = outcome) entries
  refine (hp.map _).trans ?_
  rw [List.map_append, List.map_map, List.map_map]
  refine List.Perm.trans ?_ (hsplit.map _)
  rw [List.map_append]
  exact List.Perm.refl _

private theorem sum_payouts {alloc : SettlementEntry → ℤ} {entries : List SettlementEntry}
    {outcome : Side} {payouts : List SettlementPayout}
    (hp : payouts.Perm ((entries.filter fun e => e.side = outcome).map (payoutWith alloc) ++
      (entries.filter fun e => e.side ≠ outcome).map losingPayout)) :
    (payouts.map SettlementPayout.payout).sum = sideStake entries outcome +
      ((entries.filter fun e => e.side = outcome).map alloc).sum := by
  have hlosers : (((entries.filter fun e => e.side ≠ outcome).map losingPayout).map
      SettlementPayout.payout).sum = 0 := by
    apply List.sum_eq_zero
    intro x hx
    obtain ⟨p, hp', rfl⟩ := List.mem_map.mp hx
    obtain ⟨e, -, rfl⟩ := List.mem_map.mp hp'
    rfl
  rw [(hp.map _).sum_eq, List.map_append, List.sum_append, hlosers, add_zero, List.map_map]
  exact List.sum_map_add

private theorem length_extra {alloc : SettlementEntry → ℤ} {entries : List SettlementEntry}
    {outcome : Side} {payouts : List SettlementPayout} (prizePool : ℤ)
    (hp : payouts.Perm ((entries.filter fun e => e.side = outcome).map (payoutWith alloc) ++
      (entries.filter fun e => e.side ≠ outcome).map losingPayout)) :
    (payouts.filter fun p => p.side = outcome ∧ p.payout =
        p.stake + (p.stake * prizePool / sideStake entries outcome + 1)).length =
      ((entries.filter fun e => e.side = outcome).filter fun e => alloc e =
        share SettlementEntry.amount prizePool (sideStake entries outcome) e + 1).length := by
  have hlosers : ((entries.filter fun e => e.side ≠ outcome).map losingPayout).filter
      (fun p => p.side = outcome ∧ p.payout =
        p.stake + (p.stake * prizePool / sideStake entries outcome + 1)) = [] := by
    rw [List.filter_eq_nil_iff]
    intro p hp'
    obtain ⟨e, he, rfl⟩ := List.mem_map.mp hp'
    have hside : e.side ≠ outcome := by simpa using (List.mem_filter.mp he).2
    simp [losingPayout, hside]
  rw [(hp.filter _).length_eq, List.filter_append, hlosers, List.append_nil, List.filter_map,
    List.length_map]
  congr 1
  refine List.filter_congr fun e he => ?_
  have hside : e.side = outcome := by simpa using (List.mem_filter.mp he).2
  rw [Function.comp_apply, decide_eq_decide]
  simp [payoutWith, hside, share]

/-- What settling gives: every unit staked goes to an entry or to the rake. -/
theorem isParimutuelSettlement_of_settled (hA : js.arithmetic.Exact)
    {entries : List SettlementEntry} {outcome : Side} {rake : Number}
    {result : SettledParimutuelResult}
    (hids : ((entries.filter fun e => e.side = outcome).map SettlementEntry.id).Nodup)
    (hpos : ∀ e ∈ entries, 0 < e.amount)
    (hbps : ∀ r, rake = .finite r → 0 ≤ rakeBps js r ∧ rakeBps js r ≤ 10000)
    (h : settleParimutuel js entries outcome rake = .ok (.settled result)) :
    IsParimutuelSettlement entries outcome result := by
  obtain ⟨totals, rakeAmount, htotals, hwin, hrake, rfl⟩ := settleParimutuel_eq_settled h
  have hget := calculatePoolTotals_get hA htotals
  have hlose := sideStake_nonneg hpos outcome.opposing
  rw [hget] at hwin hrake
  obtain ⟨hrake0, hrakeLe⟩ := calculateRakeAmount_eq_ok hA hlose hbps hrake
  have hwinPos : 0 < sideStake entries outcome :=
    lt_of_le_of_ne (sideStake_nonneg hpos outcome) (Ne.symm hwin)
  have htotal := sideStake_add_opposing entries outcome
  have hstaked : totals.yes + totals.no = (entries.map SettlementEntry.amount).sum := by
    have hyes := hget .yes
    have hno := hget .no
    simp only [SideTotals.get] at hyes hno
    rw [hyes, hno]
    exact sideStake_add_opposing entries .yes
  have hprize : 0 ≤ sideStake entries outcome.opposing - rakeAmount := by omega
  obtain ⟨alloc, halloc, hlookup⟩ := allocatePrizePool_spec hA hids
    (fun e he => hpos e (List.mem_of_mem_filter he)) hwinPos hprize rfl
  have hwinners : (entries.filter fun entry => entry.side = outcome).map (winningPayout js
        (allocatePrizePool js (entries.filter fun entry => entry.side = outcome)
          (sideStake entries outcome) (sideStake entries outcome.opposing - rakeAmount))) =
      (entries.filter fun entry => entry.side = outcome).map (payoutWith alloc) := by
    refine List.map_congr_left fun e he => ?_
    rw [winningPayout, hA, hlookup e he, payoutWith]
  simp only [hget, hA _, hwinners]
  have hperm := Sorting.perm_sortBy
    (fun left right : SettlementPayout => js.localeCompare.compare left.entryId right.entryId)
    ((entries.filter fun entry => entry.side = outcome).map (payoutWith alloc) ++
      (entries.filter fun entry => entry.side ≠ outcome).map losingPayout)
  constructor
  · exact perm_stakes hperm
  · rw [sum_payouts hperm, halloc.sum_alloc, ← htotal]
    show _ + rakeAmount = _
    omega
  · intro p hp hside
    rcases mem_payouts hperm hp with ⟨e, -, hwon, -⟩ | ⟨-, hzero⟩
    · exact absurd hwon hside
    · exact hzero
  · intro p hp hside
    rcases mem_payouts hperm hp with ⟨e, he, -, rfl⟩ | ⟨hlost, -⟩
    · rcases halloc.floor_or_succ e he with hfloor | hsucc
      · exact Or.inl (congrArg (e.amount + ·) hfloor)
      · exact Or.inr (congrArg (e.amount + ·) hsucc)
    · exact absurd hside hlost
  · rw [length_extra _ hperm, halloc.count_extra]
    rfl
  · intro p hp q hq hpside hqside hpextra hqfloor
    rcases mem_payouts hperm hp with ⟨e, he, -, rfl⟩ | ⟨hlost, -⟩
    · rcases mem_payouts hperm hq with ⟨f, hf, -, rfl⟩ | ⟨hlost, -⟩
      · exact halloc.largest e he f hf (add_left_cancel hpextra) (add_left_cancel hqfloor)
      · exact absurd hqside hlost
    · exact absurd hpside hlost
  · exact sub_add_cancel _ _
  · show 0 ≤ sideStake entries outcome.opposing - rakeAmount
    omega
  · exact hrake0
  · exact hstaked
  · rfl

/-- Settling asks for a void only where nobody is on the winning side. -/
theorem forall_side_ne_of_voidRequired (hA : js.arithmetic.Exact)
    {entries : List SettlementEntry} {outcome : Side} {rake : Number}
    {result : VoidRequiredParimutuelResult} (hpos : ∀ e ∈ entries, 0 < e.amount)
    (h : settleParimutuel js entries outcome rake = .ok (.voidRequired result)) :
    ∀ e ∈ entries, e.side ≠ outcome := by
  unfold settleParimutuel at h
  split_ifs at h with hempty
  · simp [List.length_eq_zero_iff.mp hempty]
  · obtain ⟨normalized, hnormalized, hrest⟩ := Except.bind_eq_ok.mp h
    obtain rfl := mapM_validateEntry_eq_ok hnormalized
    obtain ⟨totals, htotals, hrun⟩ := Except.bind_eq_ok.mp hrest
    simp only at hrun
    split_ifs at hrun with hwin
    · rw [calculatePoolTotals_get hA htotals] at hwin
      exact (sideStake_eq_zero_iff hpos outcome).mp hwin
    · obtain ⟨rakeAmount, -, hout⟩ := Except.bind_eq_ok.mp hrun
      simp at hout

/-- A settled pool has a winner. -/
theorem exists_side_eq_of_settled (hA : js.arithmetic.Exact) {entries : List SettlementEntry}
    {outcome : Side} {rake : Number} {result : SettledParimutuelResult}
    (hpos : ∀ e ∈ entries, 0 < e.amount)
    (h : settleParimutuel js entries outcome rake = .ok (.settled result)) :
    ∃ e ∈ entries, e.side = outcome := by
  obtain ⟨totals, _, htotals, hwin, _⟩ := settleParimutuel_eq_settled h
  rw [calculatePoolTotals_get hA htotals] at hwin
  by_contra hnone
  push Not at hnone
  exact hwin ((sideStake_eq_zero_iff hpos outcome).mpr hnone)

/-! ## Totals that can be stored -/

private theorem validateEntry_of_safe {entry : SettlementEntry}
    (hsafe : js.arithmetic.isSafeInteger entry.amount = true) (hpos : 0 < entry.amount) :
    validateEntry js entry = .ok entry := by
  have hnonneg : ¬(js.arithmetic.isSafeInteger entry.amount = false ∨ entry.amount < 0) := by
    rintro (h | h)
    · simp [hsafe] at h
    · omega
  simp [validateEntry, assertPositiveMinorUnits, assertSafeMinorUnits,
    Except.throwIf_of_not _ hnonneg, Except.throwIf_of_not _ (not_le.mpr hpos)]

theorem mapM_validateEntry_of_safe {entries : List SettlementEntry}
    (h : ∀ e ∈ entries, js.arithmetic.isSafeInteger e.amount = true ∧ 0 < e.amount) :
    entries.mapM (validateEntry js) = .ok entries := by
  induction entries with
  | nil => rfl
  | cons entry entries ih =>
    obtain ⟨hsafe, hpos⟩ := h entry (List.mem_cons_self ..)
    rw [List.mapM_cons, validateEntry_of_safe hsafe hpos,
      ih fun e he => h e (List.mem_cons_of_mem _ he)]
    rfl

theorem amount_le_sideStake {entries : List SettlementEntry}
    (hpos : ∀ e ∈ entries, 0 < e.amount) {e : SettlementEntry} (he : e ∈ entries) :
    e.amount ≤ sideStake entries e.side := by
  apply List.single_le_sum
  · intro a ha
    obtain ⟨f, hf, rfl⟩ := List.mem_map.mp ha
    exact (hpos f (List.mem_of_mem_filter hf)).le
  · exact List.mem_map.mpr ⟨e, List.mem_filter.mpr ⟨he, by simp⟩, rfl⟩

private theorem addToTotals_of_safe {totals : SideTotals} {entry : SettlementEntry}
    (hpos : 0 < entry.amount) (htotal : 0 ≤ totals.get entry.side)
    (hsafe : js.arithmetic.isSafeInteger entry.amount = true)
    (hsum : js.arithmetic.isSafeInteger (totals.get entry.side + entry.amount) = true) :
    addToTotals js totals entry =
      .ok (totals.set entry.side (totals.get entry.side + entry.amount)) := by
  have hnonneg : ¬(js.arithmetic.isSafeInteger (totals.get entry.side + entry.amount) = false ∨
      totals.get entry.side + entry.amount < 0) := by
    rintro (h | h)
    · simp [hsum] at h
    · omega
  simp [addToTotals, validateEntry_of_safe hsafe hpos, js.arithmetic.integer_of_safe hsum,
    assertSafeMinorUnits, Except.throwIf_of_not _ hnonneg]

private theorem foldlM_addToTotals_of_safe {entries : List SettlementEntry} {start : SideTotals}
    (hpos : ∀ e ∈ entries, 0 < e.amount) (hstart : ∀ side, 0 ≤ start.get side)
    (hsafe : ∀ side v, 0 ≤ v → v ≤ start.get side + sideStake entries side →
      js.arithmetic.isSafeInteger v = true) :
    ∃ totals, entries.foldlM (addToTotals js) start = .ok totals ∧
      ∀ side, totals.get side = start.get side + sideStake entries side := by
  induction entries generalizing start with
  | nil => exact ⟨start, rfl, fun side => by simp⟩
  | cons entry entries ih =>
    have hp := hpos entry (List.mem_cons_self ..)
    have htail : ∀ e ∈ entries, 0 < e.amount := fun e he => hpos e (List.mem_cons_of_mem _ he)
    have hn := sideStake_nonneg htail entry.side
    have hs := hstart entry.side
    have hb := hsafe entry.side
    rw [sideStake_cons, if_pos rfl] at hb
    rw [List.foldlM_cons, addToTotals_of_safe hp hs (hb _ hp.le (by omega))
      (hb _ (by omega) (by omega)), Except.bind_ok]
    have hnext : ∀ side, (start.set entry.side (start.get entry.side + entry.amount)).get side +
        sideStake entries side = start.get side + sideStake (entry :: entries) side := by
      intro side
      rw [sideStake_cons]
      by_cases he : side = entry.side
      · subst he
        rw [SideTotals.get_set_self, if_pos rfl]
        ring
      · rw [SideTotals.get_set_of_ne _ he, if_neg (Ne.symm he), zero_add]
    simp only [← hnext] at hsafe ⊢
    refine ih htail (fun side => ?_) hsafe
    by_cases he : side = entry.side
    · subst he
      rw [SideTotals.get_set_self]
      omega
    · rw [SideTotals.get_set_of_ne _ he]
      exact hstart side

/-- Totals within the safe range are computed without complaint. -/
theorem calculatePoolTotals_of_safe {entries : List SettlementEntry}
    (hpos : ∀ e ∈ entries, 0 < e.amount)
    (hsafe : ∀ side v, 0 ≤ v → v ≤ sideStake entries side →
      js.arithmetic.isSafeInteger v = true) :
    ∃ totals, calculatePoolTotals js entries = .ok totals ∧
      ∀ side, totals.get side = sideStake entries side := by
  have hzero : ∀ side : Side, (⟨0, 0⟩ : SideTotals).get side = 0 := by
    intro side
    cases side <;> rfl
  obtain ⟨totals, htotals, hget⟩ := @foldlM_addToTotals_of_safe js entries ⟨0, 0⟩ hpos
    (fun side => (hzero side).ge) fun side v hv hle => hsafe side v hv (by simpa [hzero] using hle)
  exact ⟨totals, htotals, fun side => by rw [hget, hzero, zero_add]⟩

/-- Without a winner the settlement is refused, not attempted. -/
theorem settleParimutuel_of_no_winner {entries : List SettlementEntry} {outcome : Side}
    {rake : Number} (hpos : ∀ e ∈ entries, 0 < e.amount)
    (hsafe : ∀ side v, 0 ≤ v → v ≤ sideStake entries side →
      js.arithmetic.isSafeInteger v = true)
    (hnone : ∀ e ∈ entries, e.side ≠ outcome) :
    ∃ result, settleParimutuel js entries outcome rake = .ok (.voidRequired result) := by
  obtain ⟨totals, htotals, hget⟩ := calculatePoolTotals_of_safe hpos hsafe
  have hvalid : entries.mapM (validateEntry js) = .ok entries :=
    mapM_validateEntry_of_safe fun e he =>
      ⟨hsafe e.side e.amount (hpos e he).le (amount_le_sideStake hpos he), hpos e he⟩
  have hwin : totals.get outcome = 0 := by
    rw [hget]
    exact (sideStake_eq_zero_iff hpos outcome).mpr hnone
  unfold settleParimutuel
  split_ifs with hempty
  · exact ⟨_, rfl⟩
  · rw [hvalid, Except.bind_ok, htotals, Except.bind_ok]
    simp only [hwin, if_true]
    exact ⟨_, rfl⟩

/-- A settlement with exact sums conserves the stakes, pays by largest remainders, and is
refused exactly where no entry is on the winning side. -/
theorem settleParimutuel_conserves (hA : js.arithmetic.Exact) (entries : List SettlementEntry)
    (outcome : Side) (rake : Number) (hids : (entries.map SettlementEntry.id).Nodup)
    (hpos : ∀ e ∈ entries, 0 < e.amount)
    (hbps : ∀ r, rake = .finite r → 0 ≤ rakeBps js r ∧ rakeBps js r ≤ 10000) :
    (∀ result, settleParimutuel js entries outcome rake = .ok (.settled result) →
      IsParimutuelSettlement entries outcome result) ∧
    (∀ result, settleParimutuel js entries outcome rake = .ok result →
      ((∃ refused, result = .voidRequired refused) ↔ ∀ e ∈ entries, e.side ≠ outcome)) ∧
    ((∀ v, 0 ≤ v → js.arithmetic.isSafeInteger v = true) → (∀ e ∈ entries, e.side ≠ outcome) →
      ∃ refused, settleParimutuel js entries outcome rake = .ok (.voidRequired refused)) := by
  have hwinners : ((entries.filter fun e => e.side = outcome).map SettlementEntry.id).Nodup :=
    hids.sublist (List.filter_sublist.map _)
  refine ⟨fun result h => isParimutuelSettlement_of_settled hA hwinners hpos hbps h,
    fun result h => ⟨?_, fun hnone => ?_⟩,
    fun hsafe hnone => settleParimutuel_of_no_winner hpos (fun _ v hv _ => hsafe v hv) hnone⟩
  · rintro ⟨refused, rfl⟩
    exact forall_side_ne_of_voidRequired hA hpos h
  · cases result with
    | settled result =>
      obtain ⟨e, he, hside⟩ := exists_side_eq_of_settled hA hpos h
      exact absurd hside (hnone e he)
    | voidRequired refused => exact ⟨refused, rfl⟩

private def threeEntries : List SettlementEntry :=
  [⟨"a", .yes, 100, none⟩, ⟨"b", .yes, 50, none⟩, ⟨"c", .no, 31, none⟩]

/-- Two winners share thirty of thirty-one units after a rake of one in twenty. -/
theorem settleParimutuel_conserves_threeEntries :
    IsParimutuelSettlement threeEntries .yes ⟨.yes, ⟨150, 31⟩, 181, 1, 30,
      [⟨"a", .yes, 100, 120⟩, ⟨"b", .yes, 50, 60⟩, ⟨"c", .no, 31, 0⟩]⟩ := by
  have hrun : settleParimutuel (JavaScript.reference .exact) threeEntries .yes
      (.finite (1 / 20)) = .ok (.settled ⟨.yes, ⟨150, 31⟩, 181, 1, 30,
        [⟨"a", .yes, 100, 120⟩, ⟨"b", .yes, 50, 60⟩, ⟨"c", .no, 31, 0⟩]⟩) := by
    decide +kernel
  refine (settleParimutuel_conserves Arithmetic.exact_exact threeEntries .yes (.finite (1 / 20))
    (by decide) (by decide) ?_).1 _ hrun
  rintro r ⟨⟩
  decide +kernel

end Exact

end Yevow.DotCast
