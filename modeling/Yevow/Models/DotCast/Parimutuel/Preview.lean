import Yevow.Models.DotCast.Parimutuel.Fairness

/-!
# What a preview promises

The preview reads two totals, the settlement a list of entries. For an entry placed last the
settlement pays what the preview quoted, or a single unit of the remainders more.
-/

namespace Yevow.DotCast

open JavaScript (Runtime)
open Apportionment

variable {js : Runtime}

/-! ## The quote -/

private theorem assertPositiveMinorUnits_of_le {host : Runtime} {value : ℤ} (h₀ : 0 < value)
    (hmax : value ≤ Arithmetic.maxSafeInteger) (label : String) :
    assertPositiveMinorUnits host value label = .ok () := by
  unfold assertPositiveMinorUnits
  rw [assertSafeMinorUnits_of_le h₀.le hmax, Except.bind_ok]
  exact Except.throwIf_of_not _ (not_le.mpr h₀)

private theorem opposing_ne (side : Side) : side.opposing ≠ side := by
  cases side <;> decide

/-- Without stakes on the other side a preview quotes the amount itself. -/
theorem previewPayout_of_unopposed {totals : SideTotals} {side : Side} {amount : ℤ}
    (rake : Number) (hamount : 0 < amount) (h₀ : 0 ≤ totals.get side)
    (hmax : totals.get side + amount ≤ Arithmetic.maxSafeInteger)
    (hlose : totals.get side.opposing = 0) :
    previewPayout (binary64 js) totals side amount rake = .ok amount := by
  have hyes : 0 ≤ totals.yes ∧ totals.yes ≤ Arithmetic.maxSafeInteger := by
    cases side <;> simp only [SideTotals.get, Side.opposing] at h₀ hmax hlose <;> omega
  have hno : 0 ≤ totals.no ∧ totals.no ≤ Arithmetic.maxSafeInteger := by
    cases side <;> simp only [SideTotals.get, Side.opposing] at h₀ hmax hlose <;> omega
  unfold previewPayout
  rw [assertPositiveMinorUnits_of_le hamount (by omega), Except.bind_ok,
    assertSafeMinorUnits_of_le hyes.1 hyes.2, Except.bind_ok,
    assertSafeMinorUnits_of_le hno.1 hno.2, Except.bind_ok]
  dsimp only
  rw [if_pos (by rw [SideTotals.get_set_of_ne _ (opposing_ne side), hlose])]
  rfl

/-- Otherwise it adds the floor of the amount's share in the prize pool. -/
theorem previewPayout_of_opposed {totals : SideTotals} {side : Side} {amount rakeAmount : ℤ}
    {rake : Number} (hamount : 0 < amount) (h₀ : ∀ side, 0 ≤ totals.get side)
    (hmax : totals.get side + totals.get side.opposing + amount ≤ Arithmetic.maxSafeInteger)
    (hlose : totals.get side.opposing ≠ 0)
    (hrake :
      calculateRakeAmount (unrounded64 js) (totals.get side.opposing) rake = .ok rakeAmount) :
    previewPayout (binary64 js) totals side amount rake = .ok (amount +
      amount * (totals.get side.opposing - rakeAmount) / (totals.get side + amount)) := by
  have hyes₀ : 0 ≤ totals.yes := h₀ .yes
  have hno₀ : 0 ≤ totals.no := h₀ .no
  have hyes : totals.yes ≤ Arithmetic.maxSafeInteger := by
    cases side <;> simp only [SideTotals.get, Side.opposing] at hmax <;> omega
  have hno : totals.no ≤ Arithmetic.maxSafeInteger := by
    cases side <;> simp only [SideTotals.get, Side.opposing] at hmax <;> omega
  have hside := h₀ side
  obtain ⟨hrake₀, hrakeLe, -⟩ := calculateRakeAmount_bounds hrake
  have hprize : 0 ≤ totals.get side.opposing - rakeAmount := by omega
  have hproduct : 0 ≤ amount * (totals.get side.opposing - rakeAmount) :=
    mul_nonneg hamount.le hprize
  have hwinnings : amount * (totals.get side.opposing - rakeAmount) / (totals.get side + amount) ≤
      totals.get side.opposing - rakeAmount := by
    apply Int.ediv_le_of_le_mul (by omega)
    rw [mul_comm]
    exact mul_le_mul_of_nonneg_left (by omega) hprize
  have hwinnings₀ : 0 ≤ amount * (totals.get side.opposing - rakeAmount) /
      (totals.get side + amount) := Int.ediv_nonneg hproduct (by omega)
  have hstored : ∀ value, 0 ≤ value → value ≤ Arithmetic.maxSafeInteger →
      (binary64 js).arithmetic.integer value = value := fun _ => stored_of_le
  unfold previewPayout
  rw [assertPositiveMinorUnits_of_le hamount (by omega), Except.bind_ok,
    assertSafeMinorUnits_of_le hyes₀ hyes, Except.bind_ok,
    assertSafeMinorUnits_of_le hno₀ hno, Except.bind_ok]
  dsimp only
  rw [SideTotals.get_set_of_ne _ (opposing_ne side), SideTotals.get_set_self, if_neg hlose,
    calculateRakeAmount_binary64, hrake, Except.bind_ok, hstored _ hprize (by omega),
    hstored (totals.get side + amount) (by omega) (by omega),
    Int.tdiv_eq_ediv_of_nonneg hproduct, hstored _ hwinnings₀ (by omega),
    assertSafeMinorUnits_of_le hwinnings₀ (by omega), Except.bind_ok,
    hstored _ (by omega) (by omega)]
  rfl

/-! ## The entry placed last -/

/-- The winner placed last is allotted the floor of its share or a unit more. -/
private theorem allocatePrizePool_last {front : List SettlementEntry} {entry : SettlementEntry}
    {winPool prizePool : ℤ} (hamount : 0 < entry.amount) (hprize : 0 ≤ prizePool)
    (hid : ∀ e ∈ front, e.id ≠ entry.id) :
    ((allocatePrizePool (unrounded64 js) (front ++ [entry]) winPool prizePool).lookup
        entry.id).getD 0 = entry.amount * prizePool / winPool ∨
      (prizePool ≠ 0 ∧ ((allocatePrizePool (unrounded64 js) (front ++ [entry]) winPool
        prizePool).lookup entry.id).getD 0 = entry.amount * prizePool / winPool + 1) := by
  unfold allocatePrizePool
  split_ifs with hz
  · left
    rw [Table.lookup_ofList_append SettlementEntry.id, hz]
    simp
  · let last := allocationDraft (unrounded64 js) winPool prizePool front.length entry
    let drafts := (front ++ [entry]).mapIdx (allocationDraft (unrounded64 js) winPool prizePool)
    have hdrafts : drafts =
        front.mapIdx (allocationDraft (unrounded64 js) winPool prizePool) ++ [last] := by
      simp [drafts, last, List.mapIdx_append]
    have hbase : last.baseWinnings = entry.amount * prizePool / winPool :=
      Int.tdiv_eq_ediv_of_nonneg (mul_nonneg hamount.le hprize)
    have hids : drafts.map (fun d => d.entry.id) = front.map SettlementEntry.id ++ [entry.id] := by
      have hentries := @map_entry_drafts (unrounded64 js) winPool prizePool (front ++ [entry])
      calc drafts.map (fun d => d.entry.id)
          = (drafts.map AllocationDraft.entry).map SettlementEntry.id := by rw [List.map_map]; rfl
        _ = front.map SettlementEntry.id ++ [entry.id] := by
          rw [hentries, List.map_append]
          rfl
    have hcount : ((Sorting.sortBy (compareRemainderDrafts (unrounded64 js)) drafts).map
        fun d => d.entry.id).count entry.id ≤ 1 := by
      rw [((Sorting.perm_sortBy _ drafts).map _).count_eq, hids, List.count_append,
        List.count_eq_zero_of_not_mem, List.count_singleton_self]
      intro hmem
      obtain ⟨e, he, heq⟩ := List.mem_map.mp hmem
      exact hid e he heq
    have hlookup : ((Table.ofList (fun draft : AllocationDraft => draft.entry.id)
        AllocationDraft.baseWinnings drafts).lookup entry.id).getD 0 =
          entry.amount * prizePool / winPool := by
      rw [hdrafts]
      have := Table.lookup_ofList_append (fun draft : AllocationDraft => draft.entry.id)
        AllocationDraft.baseWinnings
        (front.mapIdx (allocationDraft (unrounded64 js) winPool prizePool)) last
      rw [show last.entry.id = entry.id from rfl] at this
      rw [this, hbase]
      rfl
    dsimp only
    rw [lookup_distributeRemainder Arithmetic.unbounded_exact hcount, hlookup]
    split_ifs
    · exact Or.inr ⟨hz, rfl⟩
    · exact Or.inl (add_zero _)

private theorem sideStake_append (existing : List SettlementEntry) (entry : SettlementEntry)
    (side : Side) : sideStake (existing ++ [entry]) side =
      sideStake existing side + if entry.side = side then entry.amount else 0 := by
  unfold sideStake
  rw [List.filter_append, List.map_append, List.sum_append]
  by_cases h : entry.side = side <;> simp [h]

/-- What a settlement pays on the entry placed last. -/
private theorem payout_last {existing : List SettlementEntry} {entry : SettlementEntry}
    {rake : Number} {result : SettledParimutuelResult}
    (hamount : 0 < entry.amount) (hid : ∀ e ∈ existing, e.id ≠ entry.id)
    (h : settleParimutuel (unrounded64 js) (existing ++ [entry]) entry.side rake =
      .ok (.settled result)) :
    ∃ rakeAmount payout, calculateRakeAmount (unrounded64 js)
        (sideStake existing entry.side.opposing) rake = .ok rakeAmount ∧
      (∃ p ∈ result.payouts, p.entryId = entry.id) ∧
      (∀ p ∈ result.payouts, p.entryId = entry.id → p.payout = payout) ∧
      (payout =
        entry.amount + entry.amount * (sideStake existing entry.side.opposing - rakeAmount) /
          (sideStake existing entry.side + entry.amount) ∨
        (sideStake existing entry.side.opposing ≠ rakeAmount ∧
          payout = entry.amount + entry.amount *
            (sideStake existing entry.side.opposing - rakeAmount) /
              (sideStake existing entry.side + entry.amount) + 1)) := by
  obtain ⟨totals, rakeAmount, htotals, -, hrake, rfl⟩ := settleParimutuel_eq_settled h
  have hget := calculatePoolTotals_get Arithmetic.unbounded_exact htotals
  have hwin : totals.get entry.side = sideStake existing entry.side + entry.amount := by
    rw [hget, sideStake_append, if_pos rfl]
  have hlose : totals.get entry.side.opposing = sideStake existing entry.side.opposing := by
    rw [hget, sideStake_append, if_neg (opposing_ne entry.side).symm, add_zero]
  rw [hlose] at hrake
  obtain ⟨-, hrakeLe, -⟩ := calculateRakeAmount_bounds hrake
  have hwinners : (existing ++ [entry]).filter (fun e => e.side = entry.side) =
      existing.filter (fun e => e.side = entry.side) ++ [entry] := by
    rw [List.filter_append]
    simp
  dsimp only
  rw [hwinners, hwin, hlose]
  generalize hallocations : allocatePrizePool (unrounded64 js)
    (existing.filter (fun e => e.side = entry.side) ++ [entry])
    (sideStake existing entry.side + entry.amount) ((unrounded64 js).arithmetic.integer
      (sideStake existing entry.side.opposing - rakeAmount)) = allocations
  have hmem : ∀ p : SettlementPayout, p ∈ Sorting.sortBy (fun left right : SettlementPayout =>
        js.localeCompare.compare left.entryId right.entryId)
      ((existing.filter (fun e => e.side = entry.side) ++ [entry]).map
          (winningPayout (unrounded64 js) allocations) ++
        ((existing ++ [entry]).filter fun e => e.side ≠ entry.side).map losingPayout) ↔
      p ∈ (existing.filter (fun e => e.side = entry.side) ++ [entry]).map
          (winningPayout (unrounded64 js) allocations) ++
        ((existing ++ [entry]).filter fun e => e.side ≠ entry.side).map losingPayout := fun p =>
    (Sorting.perm_sortBy _ _).mem_iff
  refine ⟨rakeAmount, (winningPayout (unrounded64 js) allocations entry).payout, hrake, ?_, ?_, ?_⟩
  · refine ⟨winningPayout (unrounded64 js) allocations entry, (hmem _).mpr ?_, rfl⟩
    exact List.mem_append_left _ (List.mem_map_of_mem (by simp))
  · intro p hp hentry
    rcases List.mem_append.mp ((hmem p).mp hp) with hwon | hlost
    · obtain ⟨e, he, rfl⟩ := List.mem_map.mp hwon
      rcases List.mem_append.mp he with hfront | hlast
      · exact absurd hentry (hid e (List.mem_of_mem_filter hfront))
      · rw [List.mem_singleton.mp hlast]
    · obtain ⟨e, he, rfl⟩ := List.mem_map.mp hlost
      obtain ⟨hplaced, hside⟩ := List.mem_filter.mp he
      rcases List.mem_append.mp hplaced with hfront | hlast
      · exact absurd hentry (hid e hfront)
      · rw [List.mem_singleton.mp hlast] at hside
        simp at hside
  · have hprize : 0 ≤ sideStake existing entry.side.opposing - rakeAmount := by omega
    have hallotted := @allocatePrizePool_last js
      (existing.filter fun e => e.side = entry.side) entry
      (sideStake existing entry.side + entry.amount)
      (sideStake existing entry.side.opposing - rakeAmount) hamount hprize
      (fun e he => hid e (List.mem_of_mem_filter he))
    rw [show allocatePrizePool (unrounded64 js)
      (existing.filter (fun e => e.side = entry.side) ++ [entry])
      (sideStake existing entry.side + entry.amount)
      (sideStake existing entry.side.opposing - rakeAmount) = allocations from hallocations]
      at hallotted
    show entry.amount + (allocations.lookup entry.id).getD 0 = _ ∨ _ ∧
      entry.amount + (allocations.lookup entry.id).getD 0 = _
    rcases hallotted with hfloor | ⟨hprize, hsucc⟩
    · left
      rw [hfloor]
    · right
      refine ⟨by omega, ?_⟩
      rw [hsucc, add_assoc]

/-- A quote before the last entry is placed is what a settlement for its side pays on it, or a
single unit less; against an empty side both are the stake. -/
theorem settleParimutuel_preview (existing : List SettlementEntry) (entry : SettlementEntry)
    (rake : Number) (hpos : ∀ e ∈ existing, 0 < e.amount) (hamount : 0 < entry.amount)
    (hid : ∀ e ∈ existing, e.id ≠ entry.id)
    (hsum : ((existing ++ [entry]).map SettlementEntry.amount).sum < 2 ^ 53) :
    ∃ totals, calculatePoolTotals (binary64 js) existing = .ok totals ∧
      ∀ settlement, settleParimutuel (binary64 js) (existing ++ [entry]) entry.side rake =
          .ok settlement →
        ∃ result preview payout, settlement = .settled result ∧
          previewPayout (binary64 js) totals entry.side entry.amount rake = .ok preview ∧
          (∃ p ∈ result.payouts, p.entryId = entry.id) ∧
          (∀ p ∈ result.payouts, p.entryId = entry.id → p.payout = payout) ∧
          (payout = preview ∨ payout = preview + 1) ∧
          ((∀ e ∈ existing, e.side = entry.side) →
            preview = entry.amount ∧ payout = entry.amount) := by
  rw [List.map_append, List.sum_append, List.map_singleton, List.sum_singleton] at hsum
  have hposAll : ∀ e ∈ existing ++ [entry], 0 < e.amount := by
    intro e he
    rcases List.mem_append.mp he with hold | hnew
    · exact hpos e hold
    · rw [List.mem_singleton.mp hnew]
      exact hamount
  have hstakes := sideStake_add_opposing existing entry.side
  have hown := sideStake_nonneg hpos entry.side
  have hother := sideStake_nonneg hpos entry.side.opposing
  have hmax : sideStake existing entry.side + sideStake existing entry.side.opposing +
      entry.amount ≤ Arithmetic.maxSafeInteger := by
    unfold Arithmetic.maxSafeInteger
    omega
  obtain ⟨totals, htotals, hget⟩ := @calculatePoolTotals_of_safe (binary64 js) existing hpos
    (fun side v hv hle => Arithmetic.double.safe_of_le hv (by
      have := sideStake_add_opposing existing side
      have := sideStake_nonneg hpos side.opposing
      unfold Arithmetic.maxSafeInteger
      omega))
  refine ⟨totals, htotals, ?_⟩
  intro settlement h
  rw [settleParimutuel_binary64] at h
  cases hsettle : settleParimutuel (unrounded64 js) (existing ++ [entry]) entry.side rake with
  | error message =>
    rw [hsettle] at h
    cases h
  | ok unrounded =>
    rw [hsettle] at h
    obtain rfl := Except.ok.inj h
    cases unrounded with
    | voidRequired refused =>
      exact absurd rfl (forall_side_ne_of_voidRequired Arithmetic.unbounded_exact hposAll hsettle
        entry (by simp))
    | settled result =>
      obtain ⟨rakeAmount, payout, hrake, ⟨p, hp, hpid⟩, hpayout, hquote⟩ :=
        payout_last hamount hid hsettle
      obtain ⟨hrake₀, hrakeLe, -⟩ := calculateRakeAmount_bounds hrake
      have hprize : 0 ≤ sideStake existing entry.side.opposing - rakeAmount := by omega
      have hshare₀ : 0 ≤ entry.amount * (sideStake existing entry.side.opposing - rakeAmount) /
          (sideStake existing entry.side + entry.amount) :=
        Int.ediv_nonneg (mul_nonneg hamount.le hprize) (by omega)
      have hshare : entry.amount * (sideStake existing entry.side.opposing - rakeAmount) /
          (sideStake existing entry.side + entry.amount) ≤
            sideStake existing entry.side.opposing - rakeAmount := by
        apply Int.ediv_le_of_le_mul (by omega)
        rw [mul_comm]
        exact mul_le_mul_of_nonneg_left (by omega) hprize
      have hempty : (∀ e ∈ existing, e.side = entry.side) →
          sideStake existing entry.side.opposing = 0 := by
        intro hall
        apply (sideStake_eq_zero_iff hpos _).mpr
        intro e he
        rw [hall e he]
        exact (opposing_ne entry.side).symm
      have hpayout₀ : 0 ≤ payout ∧ payout ≤ 2 ^ 53 := by
        unfold Arithmetic.maxSafeInteger at hmax
        rcases hquote with heq | ⟨-, heq⟩ <;> omega
      have hstored : ∀ p ∈ result.payouts.map SettlementPayout.stored, p.entryId = entry.id →
          p.payout = payout := by
        intro p' hp' hid'
        obtain ⟨q, hq, rfl⟩ := List.mem_map.mp hp'
        show stored q.payout = payout
        rw [hpayout q hq hid']
        exact stored_of_le_two_pow hpayout₀.1 hpayout₀.2
      have hfound : ∃ p ∈ result.payouts.map SettlementPayout.stored, p.entryId = entry.id :=
        ⟨p.stored, List.mem_map_of_mem hp, hpid⟩
      by_cases hlose : sideStake existing entry.side.opposing = 0
      · have hpreview := @previewPayout_of_unopposed js totals entry.side entry.amount rake hamount
          (by rw [hget]; exact hown) (by rw [hget]; omega) ((hget _).trans hlose)
        have hsame : payout = entry.amount := by
          rcases hquote with heq | ⟨hne, -⟩
          · rw [heq, hlose, show rakeAmount = 0 by omega]
            simp
          · omega
        exact ⟨_, entry.amount, payout, rfl, hpreview, hfound, hstored, Or.inl hsame,
          fun _ => ⟨rfl, hsame⟩⟩
      · have hpreview := @previewPayout_of_opposed js totals entry.side entry.amount rakeAmount rake
          hamount (fun side => by rw [hget]; exact sideStake_nonneg hpos side)
          (by rw [hget, hget]; exact hmax) (by rw [hget]; exact hlose) (by rw [hget]; exact hrake)
        rw [hget, hget] at hpreview
        refine ⟨_, _, payout, rfl, hpreview, hfound, hstored, ?_, fun hall =>
          absurd (hempty hall) hlose⟩
        rcases hquote with heq | ⟨-, heq⟩
        · exact Or.inl heq
        · exact Or.inr heq

private def earlierStakes : List SettlementEntry :=
  [⟨"a", .yes, 2, none⟩, ⟨"b", .no, 8, none⟩]

private def lastResult : SettledParimutuelResult :=
  ⟨.yes, ⟨5, 8⟩, 13, 0, 8, [⟨"a", .yes, 2, 5⟩, ⟨"b", .no, 8, 0⟩, ⟨"c", .yes, 3, 8⟩]⟩

/-- The last winner has the largest remainder and gets a unit more than the quoted seven. -/
theorem settleParimutuel_preview_earlierStakes :
    previewPayout (binary64 (JavaScript.reference .exact)) ⟨2, 8⟩ .yes 3 (.finite 0) = .ok 7 ∧
    settleParimutuel (binary64 (JavaScript.reference .exact))
      (earlierStakes ++ [⟨"c", .yes, 3, none⟩]) .yes (.finite 0) = .ok (.settled lastResult) ∧
    ∀ p ∈ lastResult.payouts, p.entryId = "c" → p.payout = 7 ∨ p.payout = 7 + 1 := by
  have hpreview : previewPayout (binary64 (JavaScript.reference .exact)) ⟨2, 8⟩ .yes 3
      (.finite 0) = .ok 7 := by
    decide +kernel
  have hrun : settleParimutuel (binary64 (JavaScript.reference .exact))
      (earlierStakes ++ [⟨"c", .yes, 3, none⟩]) .yes (.finite 0) = .ok (.settled lastResult) := by
    decide +kernel
  have htotals : calculatePoolTotals (binary64 (JavaScript.reference .exact)) earlierStakes =
      .ok ⟨2, 8⟩ := by
    decide +kernel
  obtain ⟨totals, hcomputed, hsettles⟩ := @settleParimutuel_preview (JavaScript.reference .exact)
    earlierStakes ⟨"c", .yes, 3, none⟩ (.finite 0) (by decide) (by decide) (by decide) (by decide)
  obtain rfl := Except.ok.inj (htotals.symm.trans hcomputed)
  obtain ⟨result, preview, payout, hresult, hquoted, -, hpaid, hunit, -⟩ := hsettles _ hrun
  obtain rfl := ParimutuelSettlementResult.settled.inj hresult
  obtain rfl := Except.ok.inj (hpreview.symm.trans hquoted)
  refine ⟨hpreview, hrun, ?_⟩
  intro p hp hid
  rw [hpaid p hp hid]
  exact hunit

end Yevow.DotCast
