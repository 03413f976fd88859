import Yevow.Models.DotCast.Parimutuel.Binary64

/-!
# Fairness among winners

A larger stake never pays less, equal stakes pay the same up to one unit, and no winner loses.
Of two winners at most one is paid more than binary64 can store exactly, and it is the one with
the larger stake.
-/

namespace Yevow.DotCast

open JavaScript (Runtime)

/-! ## Settlements that were made -/

/-- A settlement in binary64 beside the unrounded one. -/
structure SettledBeside (js : Runtime) (entries : List SettlementEntry) (outcome : Side)
    (rake : Number) (result unrounded : SettledParimutuelResult) : Prop where
  settles : settleParimutuel (unrounded64 js) entries outcome rake = .ok (.settled unrounded)
  result_eq : result = { unrounded with
    totalStaked := stored unrounded.totalStaked
    payouts := unrounded.payouts.map SettlementPayout.stored }
  settlement : IsParimutuelSettlement entries outcome unrounded
  safe : ∀ side, sideStake entries side ≤ Arithmetic.maxSafeInteger

variable {js : Runtime}

private theorem totals_safe {entries : List SettlementEntry} {start totals : SideTotals}
    (hstart : ∀ side, start.get side ≤ Arithmetic.maxSafeInteger)
    (h : entries.foldlM (addToTotals (unrounded64 js)) start = .ok totals) (side : Side) :
    totals.get side ≤ Arithmetic.maxSafeInteger := by
  apply Except.foldlM_induction (P := fun totals : SideTotals =>
    totals.get side ≤ Arithmetic.maxSafeInteger) h (hstart side)
  intro before hbefore entry _ after hafter
  simp only [addToTotals, Except.bind_eq_ok] at hafter
  obtain ⟨e, he, _, hsafe, hafter⟩ := hafter
  obtain rfl := Except.ok.inj hafter
  by_cases hside : side = e.side
  · subst hside
    rw [SideTotals.get_set_self] at hsafe ⊢
    by_contra hlarge
    apply Except.throwIf_eq_ok.mp hsafe
    refine Or.inl (decide_eq_false ?_)
    intro hle
    exact hlarge (le_trans (le_abs_self _) hle)
  · rw [SideTotals.get_set_of_ne _ hside]
    exact hbefore

/-- Totals that were computed are safe. -/
theorem sideStake_le_of_totals {entries : List SettlementEntry} {totals : SideTotals}
    (h : calculatePoolTotals (unrounded64 js) entries = .ok totals) (side : Side) :
    sideStake entries side ≤ Arithmetic.maxSafeInteger := by
  rw [← calculatePoolTotals_get Arithmetic.unbounded_exact h]
  exact totals_safe (fun side => by cases side <;> decide) h side

/-- What settles has positive stakes. -/
theorem pos_of_settled {host : Runtime} {entries : List SettlementEntry} {outcome : Side}
    {rake : Number} {result : SettledParimutuelResult}
    (h : settleParimutuel host entries outcome rake = .ok (.settled result)) :
    ∀ e ∈ entries, 0 < e.amount := by
  unfold settleParimutuel at h
  split_ifs at h
  · cases h
  · obtain ⟨normalized, hnormalized, -⟩ := Except.bind_eq_ok.mp h
    exact pos_of_mapM_validateEntry hnormalized

/-- Whatever settles in binary64 settles without rounding, and its pools are safe. -/
theorem settledBeside_of_settled {entries : List SettlementEntry} {outcome : Side} {rake : Number}
    {result : SettledParimutuelResult}
    (hids : ((entries.filter fun e => e.side = outcome).map SettlementEntry.id).Nodup)
    (h : settleParimutuel (binary64 js) entries outcome rake = .ok (.settled result)) :
    ∃ unrounded, SettledBeside js entries outcome rake result unrounded := by
  have hpos := pos_of_settled h
  rw [settleParimutuel_binary64] at h
  cases hsettle : settleParimutuel (unrounded64 js) entries outcome rake with
  | error message =>
    rw [hsettle] at h
    cases h
  | ok settlement =>
    cases settlement with
    | voidRequired refused =>
      rw [hsettle] at h
      cases h
    | settled unrounded =>
      rw [hsettle] at h
      obtain rfl := ParimutuelSettlementResult.settled.inj (Except.ok.inj h)
      obtain ⟨totals, rakeAmount, htotals, -, hrake, -⟩ := settleParimutuel_eq_settled hsettle
      have hsafe := sideStake_le_of_totals htotals
      have hbps : ∀ r, rake = .finite r →
          0 ≤ rakeBps (unrounded64 js) r ∧ rakeBps (unrounded64 js) r ≤ 10000 := by
        rintro r rfl
        simp only [calculateRakeAmount, Except.bind_eq_ok, Except.throwIf_eq_ok] at hrake
        obtain ⟨_, _, _, hr, _⟩ := hrake
        push Not at hr
        exact rakeBps_mem hr.1 hr.2
      exact ⟨unrounded, hsettle, rfl,
        isParimutuelSettlement_of_settled Arithmetic.unbounded_exact hids hpos hbps hsettle, hsafe⟩

/-! ## Two payouts -/

/-- Two members of a list add up to at most its sum. -/
private theorem add_le_sum_of_ne {α : Type} [DecidableEq α] {f : α → ℤ} {xs : List α}
    (hnonneg : ∀ x ∈ xs, 0 ≤ f x) {a b : α} (ha : a ∈ xs) (hb : b ∈ xs) (hne : a ≠ b) :
    f a + f b ≤ (xs.map f).sum := by
  have hperm := (List.perm_cons_erase ha).map f
  have hrest : f b ≤ ((xs.erase a).map f).sum := by
    apply List.single_le_sum
    · intro y hy
      obtain ⟨x, hx, rfl⟩ := List.mem_map.mp hy
      exact hnonneg x (List.mem_of_mem_erase hx)
    · exact List.mem_map.mpr ⟨b, (List.mem_erase_of_ne hne.symm).mpr hb, rfl⟩
  rw [hperm.sum_eq, List.map_cons, List.sum_cons]
  omega

namespace IsParimutuelSettlement

variable {entries : List SettlementEntry} {outcome : Side} {result : SettledParimutuelResult}

private theorem stake_pos (h : IsParimutuelSettlement entries outcome result)
    (hpos : ∀ e ∈ entries, 0 < e.amount) {p : SettlementPayout} (hp : p ∈ result.payouts) :
    0 < p.stake ∧ (p.side = outcome → p.stake ≤ sideStake entries outcome) := by
  have hmem : (p.entryId, p.side, p.stake) ∈ entries.map fun e => (e.id, e.side, e.amount) :=
    h.payouts_perm.mem_iff.mp (List.mem_map.mpr ⟨p, hp, rfl⟩)
  obtain ⟨e, he, heq⟩ := List.mem_map.mp hmem
  simp only [Prod.mk.injEq] at heq
  rw [← heq.2.2, ← heq.2.1]
  refine ⟨hpos e he, ?_⟩
  rintro rfl
  exact amount_le_sideStake hpos he

private theorem winSide_pos (h : IsParimutuelSettlement entries outcome result)
    (hpos : ∀ e ∈ entries, 0 < e.amount) {p : SettlementPayout} (hp : p ∈ result.payouts)
    (hside : p.side = outcome) : 0 < sideStake entries outcome :=
  (h.stake_pos hpos hp).1.trans_le ((h.stake_pos hpos hp).2 hside)

/-- A winner gets the stake and more. -/
theorem stake_le_payout (h : IsParimutuelSettlement entries outcome result)
    (hpos : ∀ e ∈ entries, 0 < e.amount) {p : SettlementPayout} (hp : p ∈ result.payouts)
    (hside : p.side = outcome) : p.stake ≤ p.payout := by
  have hwin := h.winSide_pos hpos hp hside
  have hshare : 0 ≤ p.stake * result.prizePool / sideStake entries outcome :=
    Int.ediv_nonneg (mul_nonneg (h.stake_pos hpos hp).1.le h.prizePool_nonneg) hwin.le
  rcases h.winning p hp hside with heq | heq <;> omega

/-- The shares of the prize pool ascend with the stakes, so that a unit more for the smaller one
never makes up for the difference of the stakes. -/
theorem payout_le_of_stake_lt (h : IsParimutuelSettlement entries outcome result)
    (hpos : ∀ e ∈ entries, 0 < e.amount) {p q : SettlementPayout} (hp : p ∈ result.payouts)
    (hq : q ∈ result.payouts) (hpside : p.side = outcome) (hqside : q.side = outcome)
    (hlt : q.stake < p.stake) : q.payout ≤ p.payout := by
  have hwin := h.winSide_pos hpos hp hpside
  have hshares : q.stake * result.prizePool / sideStake entries outcome ≤
      p.stake * result.prizePool / sideStake entries outcome :=
    Int.ediv_le_ediv hwin (mul_le_mul_of_nonneg_right hlt.le h.prizePool_nonneg)
  rcases h.winning p hp hpside with hpay | hpay <;>
    rcases h.winning q hq hqside with hqay | hqay <;> omega

private theorem abs_payout_sub_le (h : IsParimutuelSettlement entries outcome result)
    {p q : SettlementPayout} (hp : p ∈ result.payouts) (hq : q ∈ result.payouts)
    (hpside : p.side = outcome) (hqside : q.side = outcome) (hstake : q.stake = p.stake) :
    |p.payout - q.payout| ≤ 1 := by
  have hqwin := h.winning q hq hqside
  rw [hstake] at hqwin
  rw [abs_le]
  rcases h.winning p hp hpside with hpay | hpay <;> rcases hqwin with hqay | hqay <;>
    constructor <;> omega

/-- Of two payouts at most one is past the safe integers. -/
theorem add_payout_le (h : IsParimutuelSettlement entries outcome result)
    (hpos : ∀ e ∈ entries, 0 < e.amount)
    (hsafe : ∀ side, sideStake entries side ≤ Arithmetic.maxSafeInteger)
    {p q : SettlementPayout} (hp : p ∈ result.payouts) (hq : q ∈ result.payouts) (hne : p ≠ q) :
    p.payout + q.payout ≤ 2 * Arithmetic.maxSafeInteger := by
  have hsum := add_le_sum_of_ne (f := SettlementPayout.payout)
    (fun x hx => h.payout_nonneg hpos hx) hp hq hne
  have hstaked := sideStake_add_opposing entries outcome
  have hconservation := h.conservation
  have hrake := h.rakeAmount_nonneg
  have hwin := hsafe outcome
  have hlose := hsafe outcome.opposing
  omega

end IsParimutuelSettlement

/-- A settlement in binary64 is fair: payouts ascend with the stakes, those of equal stakes differ
by at most one unit, and no winner gets less than the stake. -/
theorem settleParimutuel_fair (entries : List SettlementEntry) (outcome : Side) (rake : Number)
    (result : SettledParimutuelResult) (hids : (entries.map SettlementEntry.id).Nodup)
    (hpos : ∀ e ∈ entries, 0 < e.amount)
    (h : settleParimutuel (binary64 js) entries outcome rake = .ok (.settled result)) :
    (∀ p ∈ result.payouts, ∀ q ∈ result.payouts, p.side = outcome → q.side = outcome →
      q.stake < p.stake → q.payout ≤ p.payout) ∧
    (∀ p ∈ result.payouts, ∀ q ∈ result.payouts, p.side = outcome → q.side = outcome →
      q.stake = p.stake → |p.payout - q.payout| ≤ 1) ∧
    ∀ p ∈ result.payouts, p.side = outcome → p.stake ≤ p.payout := by
  obtain ⟨unrounded, -, rfl, hsettled, hsafe⟩ :=
    settledBeside_of_settled (hids.sublist (List.filter_sublist.map _)) h
  have hsmall : ∀ {p : SettlementPayout}, p ∈ unrounded.payouts →
      p.payout ≤ Arithmetic.maxSafeInteger → stored p.payout = p.payout := fun hp hmax =>
    stored_of_le (hsettled.payout_nonneg hpos hp) hmax
  refine ⟨?_, ?_, ?_⟩
  · intro p' hp' q' hq' hpside hqside hlt
    obtain ⟨p, hp, rfl⟩ := List.mem_map.mp hp'
    obtain ⟨q, hq, rfl⟩ := List.mem_map.mp hq'
    have hle := hsettled.payout_le_of_stake_lt hpos hp hq hpside hqside hlt
    have hne : p ≠ q := by
      rintro rfl
      exact lt_irrefl _ hlt
    have hsum := hsettled.add_payout_le hpos hsafe hp hq hne
    have hqmax : q.payout ≤ Arithmetic.maxSafeInteger := by omega
    show stored q.payout ≤ stored p.payout
    rw [hsmall hq hqmax]
    exact Arithmetic.double.le_integer
      (Arithmetic.double.safe_of_le (hsettled.payout_nonneg hpos hq) hqmax) hle
  · intro p' hp' q' hq' hpside hqside hstake
    obtain ⟨p, hp, rfl⟩ := List.mem_map.mp hp'
    obtain ⟨q, hq, rfl⟩ := List.mem_map.mp hq'
    by_cases heq : p = q
    · subst heq
      simp
    · have hsum := hsettled.add_payout_le hpos hsafe hp hq heq
      have hdiff := hsettled.abs_payout_sub_le hp hq hpside hqside hstake
      rw [abs_le] at hdiff
      show |stored p.payout - stored q.payout| ≤ 1
      rw [hsmall hp (by omega), hsmall hq (by omega), abs_le]
      exact hdiff
  · intro p' hp' hside
    obtain ⟨p, hp, rfl⟩ := List.mem_map.mp hp'
    have hstake := (hsettled.stake_pos hpos hp).2 hside
    exact Arithmetic.double.le_integer (Arithmetic.double.safe_of_le
      (hsettled.stake_pos hpos hp).1.le (hstake.trans (hsafe outcome)))
      (hsettled.stake_le_payout hpos hp hside)

private def tiedEntries : List SettlementEntry :=
  [⟨"a", .yes, 2, none⟩, ⟨"b", .yes, 2, none⟩, ⟨"c", .yes, 3, none⟩, ⟨"d", .no, 9, none⟩]

/-- Of two equal stakes the earlier id gets a unit more, and the larger stake still more. -/
theorem settleParimutuel_fair_tiedEntries :
    settleParimutuel (binary64 (JavaScript.reference .exact)) tiedEntries .yes (.finite 0) =
      .ok (.settled ⟨.yes, ⟨7, 9⟩, 16, 0, 9,
        [⟨"a", .yes, 2, 5⟩, ⟨"b", .yes, 2, 4⟩, ⟨"c", .yes, 3, 7⟩, ⟨"d", .no, 9, 0⟩]⟩) ∧
    |(5 : ℤ) - 4| ≤ 1 := by
  have hrun : settleParimutuel (binary64 (JavaScript.reference .exact)) tiedEntries .yes
      (.finite 0) = .ok (.settled ⟨.yes, ⟨7, 9⟩, 16, 0, 9,
        [⟨"a", .yes, 2, 5⟩, ⟨"b", .yes, 2, 4⟩, ⟨"c", .yes, 3, 7⟩, ⟨"d", .no, 9, 0⟩]⟩) := by
    decide +kernel
  refine ⟨hrun, ?_⟩
  exact (settleParimutuel_fair tiedEntries .yes (.finite 0) _ (by decide) (by decide) hrun).2.1
    ⟨"a", .yes, 2, 5⟩ (by decide) ⟨"b", .yes, 2, 4⟩ (by decide) rfl rfl rfl

end Yevow.DotCast
