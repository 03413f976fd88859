import Yevow.Models.DotCast.Parimutuel.Fairness
import Yevow.Models.DotCast.Pool.Settlement

/-!
# Exactness of settlements in binary64

Nothing checks the sum of the two pools, the payouts or their total. Stakes of up to `2 ^ 53`
leave no room for a rounding; from there on every total is met by a settlement that rounds.
-/

namespace Yevow.DotCast

open JavaScript (Runtime)

variable {js : Runtime}

/-- A settlement and its record without a rounded sum. -/
structure ExactlySettled (js : Runtime) (entries : List SettlementEntry) (outcome : Side)
    (rake : Number) (result : SettledParimutuelResult) : Prop where
  /-- Integers of any size settle the same way. -/
  unrounded : settleParimutuel (unrounded64 js) entries outcome rake = .ok (.settled result)
  totalStaked : result.totalStaked = (entries.map SettlementEntry.amount).sum
  payoutTotal : ∀ pool now,
    (settlementRecord (binary64 js) pool outcome result now).payoutTotal =
      (result.payouts.map SettlementPayout.payout).sum
  conservation : (result.payouts.map SettlementPayout.payout).sum + result.rakeAmount =
    (entries.map SettlementEntry.amount).sum

/-! ## Up to `2 ^ 53` -/

private theorem even_of_stored {value : ℤ} (h : stored value = value) (hlarge : 2 ^ 53 ≤ value) :
    Even value := by
  rw [← h]
  exact Rounding.even_roundInteger (by omega)

private theorem exactlySettled_of_le {entries : List SettlementEntry}
    {outcome : Side} {rake : Number}
    {result : SettledParimutuelResult}
    (hids : ((entries.filter fun e => e.side = outcome).map SettlementEntry.id).Nodup)
    (hmax : (entries.map SettlementEntry.amount).sum ≤ 2 ^ 53)
    (h : settleParimutuel (binary64 js) entries outcome rake = .ok (.settled result)) :
    ExactlySettled js entries outcome rake result := by
  have hpos := pos_of_settled h
  obtain ⟨unrounded, hsettles, hresult, hsettled, -⟩ := settledBeside_of_settled hids h
  have hconservation := hsettled.conservation
  have hrake := hsettled.rakeAmount_nonneg
  have htotal : 0 ≤ (entries.map SettlementEntry.amount).sum := by
    rw [← sideStake_add_opposing entries outcome]
    exact add_nonneg (sideStake_nonneg hpos _) (sideStake_nonneg hpos _)
  have hnonneg : ∀ p ∈ unrounded.payouts, 0 ≤ p.payout := fun p hp =>
    hsettled.payout_nonneg hpos hp
  have hpayout : ∀ p ∈ unrounded.payouts, p.payout ≤ 2 ^ 53 := by
    intro p hp
    have hle : p.payout ≤ (unrounded.payouts.map SettlementPayout.payout).sum := by
      apply List.single_le_sum
      · intro a ha
        obtain ⟨q, hq, rfl⟩ := List.mem_map.mp ha
        exact hnonneg q hq
      · exact List.mem_map.mpr ⟨p, hp, rfl⟩
    omega
  have hsame : result = unrounded := by
    have hpayouts : unrounded.payouts.map SettlementPayout.stored = unrounded.payouts := by
      conv_rhs => rw [← List.map_id unrounded.payouts]
      apply List.map_congr_left
      intro p hp
      unfold SettlementPayout.stored
      rw [stored_of_le_two_pow (hnonneg p hp) (hpayout p hp)]
      rfl
    have hstaked : stored unrounded.totalStaked = unrounded.totalStaked := by
      rw [hsettled.totalStaked_eq]
      exact stored_of_le_two_pow htotal hmax
    rw [hresult, hpayouts, hstaked]
  subst hsame
  constructor
  · exact hsettles
  · exact hsettled.totalStaked_eq
  · intro pool now
    rw [← zero_add (result.payouts.map SettlementPayout.payout).sum]
    exact foldl_stored le_rfl (fun _ => stored_of_le_two_pow) hnonneg (by omega)
  · exact hconservation

/-! ## Beyond `2 ^ 53` -/

/-- A total that was stored exactly. -/
theorem ExactlySettled.le_or_even {entries : List SettlementEntry} {outcome : Side}
    {rake : Number} {result : SettledParimutuelResult}
    (hexact : ExactlySettled js entries outcome rake result)
    (h : settleParimutuel (binary64 js) entries outcome rake = .ok (.settled result)) :
    (entries.map SettlementEntry.amount).sum ≤ 2 ^ 53 ∨
      Even (entries.map SettlementEntry.amount).sum := by
  rcases le_or_gt (entries.map SettlementEntry.amount).sum (2 ^ 53) with hle | hlarge
  · exact Or.inl hle
  · refine Or.inr (even_of_stored ?_ hlarge.le)
    have hunrounded := hexact.unrounded
    rw [settleParimutuel_binary64, hunrounded] at h
    have hresult := ParimutuelSettlementResult.settled.inj (Except.ok.inj h)
    have hstaked : stored result.totalStaked = result.totalStaked :=
      congrArg SettledParimutuelResult.totalStaked hresult
    rwa [hexact.totalStaked] at hstaked

/-- One stake on either side. -/
private def twoStakes (win lose : ℤ) : List SettlementEntry :=
  [⟨"a", .yes, win, none⟩, ⟨"b", .no, lose, none⟩]

private theorem rakeBps_half : rakeBps (unrounded64 js) (1 / 2) = 5000 := by
  show Arithmetic.mathRound (Rounding.roundRational 53 (-1074) (1 / 2 * 10000)) = 5000
  decide +kernel

/-- The single winner's payout after half of the losing stake went to the rake. -/
private theorem payout_twoStakes {win lose : ℤ} {result : SettledParimutuelResult}
    (hlose : 0 < lose)
    (hexact : ExactlySettled js (twoStakes win lose) .yes (.finite (1 / 2)) result) :
    ∃ p ∈ result.payouts, p.payout = win + lose - lose / 2 := by
  obtain ⟨totals, rakeAmount, htotals, -, hrake, hresult⟩ :=
    settleParimutuel_eq_settled hexact.unrounded
  have hget := calculatePoolTotals_get Arithmetic.unbounded_exact htotals
  have hopposing : totals.get Side.yes.opposing = lose := by
    rw [hget]
    exact add_zero lose
  have hhalf : rakeAmount = lose / 2 := by
    rw [hopposing] at hrake
    simp only [calculateRakeAmount, Except.bind_eq_ok, rakeBps_half] at hrake
    obtain ⟨_, -, _, -, _, -, hrake⟩ := hrake
    have hamount := Except.ok.inj hrake
    rw [← hamount]
    show (lose * 5000).tdiv 10000 = lose / 2
    rw [Int.tdiv_eq_ediv_of_nonneg (by omega)]
    omega
  have hsum := hexact.conservation
  have hrakeAmount : result.rakeAmount = rakeAmount := by rw [hresult]
  obtain ⟨winner, hperm⟩ : ∃ winner : SettlementPayout,
      result.payouts.Perm [winner, losingPayout ⟨"b", .no, lose, none⟩] := by
    rw [hresult]
    exact ⟨_, Sorting.perm_sortBy _ _⟩
  refine ⟨winner, hperm.mem_iff.mpr List.mem_cons_self, ?_⟩
  rw [(hperm.map SettlementPayout.payout).sum_eq, hrakeAmount, hhalf] at hsum
  simp only [List.map_cons, List.map_nil, List.sum_cons, List.sum_nil, twoStakes,
    losingPayout] at hsum
  omega

/-- Every total past `2 ^ 53` that can be settled is settled by some entries with a rounding. -/
theorem exists_not_exactlySettled {total : ℤ} (hlarge : 2 ^ 53 < total)
    (hmax : total ≤ 2 * Arithmetic.maxSafeInteger) :
    ∃ entries outcome rake result, (entries.map SettlementEntry.id).Nodup ∧
      (entries.map SettlementEntry.amount).sum = total ∧
      settleParimutuel (binary64 js) entries outcome rake = .ok (.settled result) ∧
      ¬ExactlySettled js entries outcome rake result := by
  unfold Arithmetic.maxSafeInteger at hmax
  -- half of the losing stake is odd wherever the total is even
  obtain ⟨win, lose, hwin, hlose, hwinMax, hloseMax, htotal, hodd⟩ :
      ∃ win lose : ℤ, 0 < win ∧ 0 < lose ∧ win ≤ 2 ^ 53 - 1 ∧ lose ≤ 2 ^ 53 - 1 ∧
        win + lose = total ∧ (total % 2 = 0 → lose / 2 % 2 = 1 ∧ 2 ^ 53 < total - lose / 2) := by
    by_cases hfour : total % 4 = 0
    · exact ⟨2 ^ 53 - 2, total - (2 ^ 53 - 2), by omega, by omega, by omega, by omega, by omega,
        fun _ => by omega⟩
    · exact ⟨2 ^ 53 - 1, total - (2 ^ 53 - 1), by omega, by omega, by omega, by omega, by omega,
        fun _ => by omega⟩
  have hids : ((twoStakes win lose).map SettlementEntry.id).Nodup := by
    show ["a", "b"].Nodup
    decide
  have hpos : ∀ e ∈ twoStakes win lose, 0 < e.amount := by
    simp [twoStakes, hwin, hlose]
  have hstakes : ((twoStakes win lose).map SettlementEntry.amount).sum = total := by
    simpa [twoStakes] using htotal
  obtain ⟨settlement, hrun, -⟩ := @settleParimutuel_of_safe (binary64 js) (twoStakes win lose) .yes
    (1 / 2) hids hpos (by
      rintro (_ | _)
      · simpa [sideStake, twoStakes, Arithmetic.maxSafeInteger] using hwinMax
      · simpa [sideStake, twoStakes, Arithmetic.maxSafeInteger] using hloseMax)
    (by norm_num) (by norm_num)
  cases settlement with
  | voidRequired refused =>
    rw [settleParimutuel_binary64] at hrun
    cases hunrounded : settleParimutuel (unrounded64 js) (twoStakes win lose) .yes
        (.finite (1 / 2)) with
    | error message =>
      rw [hunrounded] at hrun
      cases hrun
    | ok unrounded =>
      cases unrounded with
      | settled result =>
        rw [hunrounded] at hrun
        cases hrun
      | voidRequired _ =>
        exact absurd rfl (forall_side_ne_of_voidRequired Arithmetic.unbounded_exact hpos hunrounded
          ⟨"a", .yes, win, none⟩ List.mem_cons_self)
  | settled result =>
    refine ⟨twoStakes win lose, .yes, .finite (1 / 2), result, hids, hstakes, hrun, ?_⟩
    intro hexact
    rcases hexact.le_or_even hrun with hle | heven
    · omega
    · rw [hstakes, Int.even_iff] at heven
      obtain ⟨hlose2, hpast⟩ := hodd heven
      obtain ⟨p, hp, hpayout⟩ := payout_twoStakes hlose hexact
      have hunrounded := hexact.unrounded
      rw [settleParimutuel_binary64, hunrounded] at hrun
      have hresult := ParimutuelSettlementResult.settled.inj (Except.ok.inj hrun)
      have hpayouts : result.payouts.map SettlementPayout.stored = result.payouts.map id := by
        rw [List.map_id]
        exact congrArg SettledParimutuelResult.payouts hresult
      have hstored : stored p.payout = p.payout :=
        congrArg SettlementPayout.payout (List.map_inj_left.mp hpayouts p hp)
      have hpayoutEven := Int.even_iff.mp (even_of_stored hstored (by omega))
      omega

/-- Stakes of up to `2 ^ 53` in all, with one id for each winner, are settled exactly. Beyond, an
odd total is never settled exactly, and of every total some settlement is not. -/
theorem settleParimutuel_exact :
    (∀ entries outcome rake result,
      ((entries.filter fun e => e.side = outcome).map SettlementEntry.id).Nodup →
      (entries.map SettlementEntry.amount).sum ≤ 2 ^ 53 →
      settleParimutuel (binary64 js) entries outcome rake = .ok (.settled result) →
      ExactlySettled js entries outcome rake result) ∧
    (∀ entries outcome rake result,
      settleParimutuel (binary64 js) entries outcome rake = .ok (.settled result) →
      ExactlySettled js entries outcome rake result →
      (entries.map SettlementEntry.amount).sum ≤ 2 ^ 53 ∨
        Even (entries.map SettlementEntry.amount).sum) ∧
    ∀ total : ℤ, 2 ^ 53 < total → total ≤ 2 * Arithmetic.maxSafeInteger →
      ∃ entries outcome rake result, (entries.map SettlementEntry.id).Nodup ∧
        (entries.map SettlementEntry.amount).sum = total ∧
        settleParimutuel (binary64 js) entries outcome rake = .ok (.settled result) ∧
        ¬ExactlySettled js entries outcome rake result := by
  refine ⟨?_, ?_, ?_⟩
  · intro entries outcome rake result hids hmax h
    exact exactlySettled_of_le hids hmax h
  · intro entries outcome rake result h hexact
    exact hexact.le_or_even h
  · intro total hlarge hmax
    exact exists_not_exactlySettled hlarge hmax

/-- Two small stakes are settled exactly. -/
theorem settleParimutuel_exact_twoStakes :
    ExactlySettled (JavaScript.reference .exact) (twoStakes 5 3) .yes (.finite 0)
      ⟨.yes, ⟨5, 3⟩, 8, 0, 3, [⟨"a", .yes, 5, 8⟩, ⟨"b", .no, 3, 0⟩]⟩ := by
  apply settleParimutuel_exact.1
  · decide
  · decide
  · decide +kernel

private def fullPool : List SettlementEntry := twoStakes (2 ^ 53 - 1) 2

private def fullPoolResult : SettledParimutuelResult :=
  ⟨.yes, ⟨2 ^ 53 - 1, 2⟩, 2 ^ 53, 0, 2, [⟨"a", .yes, 2 ^ 53 - 1, 2 ^ 53⟩, ⟨"b", .no, 2, 0⟩]⟩

/-- A pool at the limit and two units against it: a unit of the stakes is missing. -/
theorem full_pool_loses_unit :
    (∀ e ∈ fullPool, 0 < e.amount ∧ e.amount ≤ Arithmetic.maxSafeInteger) ∧
    (fullPool.map SettlementEntry.id).Nodup ∧
    settleParimutuel (binary64 (JavaScript.reference .exact)) fullPool .yes (.finite 0) =
      .ok (.settled fullPoolResult) ∧
    (fullPool.map SettlementEntry.amount).sum = 2 ^ 53 + 1 ∧
    (fullPoolResult.payouts.map SettlementPayout.payout).sum + fullPoolResult.rakeAmount = 2 ^ 53 ∧
    ¬ExactlySettled (JavaScript.reference .exact) fullPool .yes (.finite 0) fullPoolResult := by
  have hsum : (fullPool.map SettlementEntry.amount).sum = 2 ^ 53 + 1 := by decide
  refine ⟨by decide, by decide, by decide +kernel, hsum, by decide, ?_⟩
  intro hexact
  have hstaked := hexact.totalStaked
  rw [hsum] at hstaked
  exact absurd hstaked (by decide)

end Yevow.DotCast
