import Yevow.Models.DotCast.Parimutuel.Conservation

/-!
# Settling within the safe integers

Whatever the arithmetic does to larger sums, a settlement whose side totals are safe
integers returns: every entry gets a payout under its id and no payout is negative.
-/

namespace Yevow.DotCast

open Except (throwIf)
open JavaScript (Runtime)

variable {js : Runtime}

theorem assertSafeMinorUnits_of_le {value : ℤ} (h₀ : 0 ≤ value)
    (hmax : value ≤ Arithmetic.maxSafeInteger) (label : String) :
    assertSafeMinorUnits js value label = .ok () := by
  apply Except.throwIf_of_not
  rintro (hrefused | hneg)
  · rw [js.arithmetic.safe_of_le h₀ hmax] at hrefused
    exact absurd hrefused (by simp)
  · omega

/-- The rake on a safe pool is a part of it. -/
theorem calculateRakeAmount_of_safe {losingPool : ℤ} (h₀ : 0 ≤ losingPool)
    (hmax : losingPool ≤ Arithmetic.maxSafeInteger) {r : ℚ} (hr₀ : 0 ≤ r) (hr₁ : r ≤ 1) :
    ∃ rakeAmount, calculateRakeAmount js losingPool (.finite r) = .ok rakeAmount ∧
      0 ≤ rakeAmount ∧ rakeAmount ≤ losingPool := by
  obtain ⟨hbps₀, hbps₁⟩ := @rakeBps_mem js r hr₀ hr₁
  have hprod : 0 ≤ losingPool * rakeBps js r := mul_nonneg h₀ hbps₀
  have hrake₀ : 0 ≤ (losingPool * rakeBps js r).tdiv 10000 := by
    rw [Int.tdiv_eq_ediv_of_nonneg hprod]
    exact Int.ediv_nonneg hprod (by decide)
  have hrake₁ : (losingPool * rakeBps js r).tdiv 10000 ≤ losingPool := by
    rw [Int.tdiv_eq_ediv_of_nonneg hprod]
    exact Int.ediv_le_of_le_mul (by decide) (mul_le_mul_of_nonneg_left hbps₁ h₀)
  have hstored := js.arithmetic.integer_of_le hrake₀ (hrake₁.trans hmax)
  refine ⟨_, ?_, hrake₀, hrake₁⟩
  simp only [calculateRakeAmount, assertSafeMinorUnits_of_le h₀ hmax, hstored,
    assertSafeMinorUnits_of_le hrake₀ (hrake₁.trans hmax), Except.bind_ok, Except.pure_eq_ok,
    Except.throwIf_of_not _ (show ¬(r < 0 ∨ 1 < r) by push Not; exact ⟨hr₀, hr₁⟩)]

/-! ## No payout is negative -/

private theorem distributeRemainder_nonneg {order : List AllocationDraft} {undistributed : ℤ}
    {allocations : Table String ℤ}
    (h : ∀ entryId amount, allocations.lookup entryId = some amount → 0 ≤ amount) :
    ∀ entryId amount, (distributeRemainder js order undistributed allocations).lookup entryId =
      some amount → 0 ≤ amount := by
  induction order generalizing undistributed allocations with
  | nil => exact h
  | cons draft rest ih =>
    unfold distributeRemainder
    split_ifs
    · apply ih
      intro entryId amount hlookup
      rw [Table.lookup_insert] at hlookup
      split_ifs at hlookup
      · obtain rfl := Option.some.inj hlookup
        apply js.arithmetic.integer_nonneg
        cases hold : allocations.lookup draft.entry.id with
        | none => simp
        | some old =>
          have := h _ _ hold
          simp only [Option.getD_some]
          omega
      · exact h entryId amount hlookup
    · exact h

private theorem allocatePrizePool_nonneg {winners : List SettlementEntry} {winPool prizePool : ℤ}
    (hpos : ∀ e ∈ winners, 0 < e.amount) (hwin : 0 ≤ winPool) (hprize : 0 ≤ prizePool) :
    ∀ entryId amount, (allocatePrizePool js winners winPool prizePool).lookup entryId =
      some amount → 0 ≤ amount := by
  unfold allocatePrizePool
  split_ifs
  · intro entryId amount hlookup
    obtain ⟨e, -, -, rfl⟩ := Table.lookup_ofList_eq_some _ _ hlookup
    exact le_rfl
  · apply distributeRemainder_nonneg
    intro entryId amount hlookup
    obtain ⟨draft, hdraft, -, rfl⟩ := Table.lookup_ofList_eq_some _ _ hlookup
    obtain ⟨i, hi, rfl⟩ := List.mem_mapIdx.mp hdraft
    have hamount := (hpos _ (List.getElem_mem hi)).le
    exact js.arithmetic.integer_nonneg (Int.tdiv_nonneg (mul_nonneg hamount hprize) hwin)

/-! ## The settlement returns -/

/-- Every entry has a payout that is not negative. -/
def PaysEvery (entries : List SettlementEntry) (payouts : List SettlementPayout) : Prop :=
  ∀ e ∈ entries, ∃ p, (Table.ofList SettlementPayout.entryId id payouts).lookup e.id = some p ∧
    0 ≤ p.payout

private theorem paysEvery_of_perm {entries : List SettlementEntry} {outcome : Side}
    {winnings : Table String ℤ} {payouts : List SettlementPayout}
    (hids : (entries.map SettlementEntry.id).Nodup) (hpos : ∀ e ∈ entries, 0 < e.amount)
    (hwinnings : ∀ entryId amount, winnings.lookup entryId = some amount → 0 ≤ amount)
    (hp : payouts.Perm
      ((entries.filter fun e => e.side = outcome).map (winningPayout js winnings) ++
        (entries.filter fun e => e.side ≠ outcome).map losingPayout)) :
    PaysEvery entries payouts := by
  have hsplit : ((entries.filter fun e => e.side = outcome) ++
      entries.filter fun e => e.side ≠ outcome).Perm entries := by
    simpa using List.filter_append_perm (fun e : SettlementEntry => e.side = outcome) entries
  have hperm : (payouts.map SettlementPayout.entryId).Perm (entries.map SettlementEntry.id) := by
    refine (hp.map _).trans ?_
    rw [List.map_append, List.map_map, List.map_map]
    refine List.Perm.trans ?_ (hsplit.map _)
    rw [List.map_append]
    exact List.Perm.refl _
  intro e he
  have hmem : e.id ∈ payouts.map SettlementPayout.entryId :=
    hperm.mem_iff.mpr (List.mem_map.mpr ⟨e, he, rfl⟩)
  obtain ⟨p, hpay, hid⟩ := List.mem_map.mp hmem
  have hlookup := Table.lookup_ofList SettlementPayout.entryId id (hperm.nodup_iff.mpr hids) hpay
  rw [hid] at hlookup
  refine ⟨p, hlookup, ?_⟩
  rcases List.mem_append.mp (hp.mem_iff.mp hpay) with hwin | hlose
  · obtain ⟨w, hw, rfl⟩ := List.mem_map.mp hwin
    have hstake := (hpos w (List.mem_of_mem_filter hw)).le
    apply js.arithmetic.integer_nonneg
    cases hallocated : winnings.lookup w.id with
    | none => simpa using hstake
    | some amount =>
      have := hwinnings _ _ hallocated
      simp only [Option.getD_some]
      omega
  · obtain ⟨l, -, rfl⟩ := List.mem_map.mp hlose
    exact le_rfl

/-- A settlement with safe side totals returns, and pays every entry if it settles. -/
theorem settleParimutuel_of_safe {entries : List SettlementEntry} (outcome : Side) {r : ℚ}
    (hids : (entries.map SettlementEntry.id).Nodup) (hpos : ∀ e ∈ entries, 0 < e.amount)
    (hmax : ∀ side, sideStake entries side ≤ Arithmetic.maxSafeInteger) (hr₀ : 0 ≤ r)
    (hr₁ : r ≤ 1) :
    ∃ result, settleParimutuel js entries outcome (.finite r) = .ok result ∧
      ∀ settled, result = .settled settled → PaysEvery entries settled.payouts := by
  obtain ⟨totals, htotals, hget⟩ := @calculatePoolTotals_of_safe js entries hpos
    fun side v hv hle => js.arithmetic.safe_of_le hv (hle.trans (hmax side))
  have hvalid : entries.mapM (validateEntry js) = .ok entries :=
    mapM_validateEntry_of_safe fun e he => ⟨js.arithmetic.safe_of_le (hpos e he).le
      ((amount_le_sideStake hpos he).trans (hmax e.side)), hpos e he⟩
  have hlose := sideStake_nonneg hpos outcome.opposing
  obtain ⟨rakeAmount, hrake, hrake₀, hrake₁⟩ :=
    @calculateRakeAmount_of_safe js _ hlose (hmax outcome.opposing) r hr₀ hr₁
  unfold settleParimutuel
  split_ifs
  · exact ⟨_, rfl, by simp⟩
  · rw [hvalid, Except.bind_ok, htotals, Except.bind_ok]
    simp only [hget]
    split_ifs
    · exact ⟨_, rfl, by simp⟩
    · rw [hrake, Except.bind_ok]
      refine ⟨_, rfl, ?_⟩
      rintro settled ⟨⟩
      have hprize := js.arithmetic.integer_nonneg (sub_nonneg.mpr hrake₁)
      exact paysEvery_of_perm hids hpos
        (allocatePrizePool_nonneg (fun e he => hpos e (List.mem_of_mem_filter he))
          (sideStake_nonneg hpos outcome) hprize) (Sorting.perm_sortBy _ _)

end Yevow.DotCast
