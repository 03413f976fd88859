import Yevow.Models.DotCast.Parimutuel.Progress

/-!
# Settling in binary64

The checks of a settlement keep its pools and the winnings in the safe range, where binary64
stores integers as they are. What no check looks at is rounded: the sum of both pools, and each
stake together with its winnings.
-/

namespace Yevow.DotCast

open Except (throwIf)
open JavaScript (Runtime)
open Apportionment

/-- A host that computes in binary64. -/
abbrev binary64 (js : Runtime) : Runtime := js.withArithmetic .double

/-- The same host without the rounding of integers. -/
abbrev unrounded64 (js : Runtime) : Runtime := js.withArithmetic .unbounded

/-- An integer as binary64 stores it. -/
abbrev stored (value : ℤ) : ℤ := Arithmetic.double.integer value

def SettlementPayout.stored (payout : SettlementPayout) : SettlementPayout :=
  { payout with payout := DotCast.stored payout.payout }

/-- A result of unrounded arithmetic with what binary64 rounds of it. -/
def ParimutuelSettlementResult.stored :
    ParimutuelSettlementResult → ParimutuelSettlementResult
  | .settled result => .settled { result with
      totalStaked := DotCast.stored result.totalStaked
      payouts := result.payouts.map SettlementPayout.stored }
  | .voidRequired result => .voidRequired { result with
      totalStaked := DotCast.stored result.totalStaked }

variable {js : Runtime}

theorem stored_of_le {value : ℤ} (h₀ : 0 ≤ value) (h : value ≤ Arithmetic.maxSafeInteger) :
    stored value = value := Arithmetic.double.integer_of_le h₀ h

/-- The first integer past the safe ones is stored exactly, too. -/
theorem stored_of_le_two_pow {value : ℤ} (h₀ : 0 ≤ value) (h : value ≤ 2 ^ 53) :
    stored value = value := by
  rcases h.lt_or_eq with hlt | rfl
  · apply stored_of_le h₀
    unfold Arithmetic.maxSafeInteger
    omega
  · exact Rounding.roundInteger_of_dvd (by decide +kernel)

/-! ## What is checked -/

/-- What is checked is not rounded. -/
private theorem assertSafeMinorUnits_bind {α : Type} (value : ℤ) (label : String)
    (rest : ℤ → Except String α) :
    (assertSafeMinorUnits (binary64 js) (stored value) label >>= fun _ => rest (stored value)) =
      (assertSafeMinorUnits (unrounded64 js) value label >>= fun _ => rest value) := by
  by_cases hsafe : Arithmetic.double.isSafeInteger value = true
  · have hvalue : stored value = value := Arithmetic.double.integer_of_safe hsafe
    rw [hvalue]
    rfl
  · have hrounded : Arithmetic.double.isSafeInteger (stored value) = false := by
      rw [← Bool.not_eq_true]
      intro h
      have hvalue : stored value = value := Arithmetic.double.integer_eq_of_safe h
      rw [hvalue] at h
      exact hsafe h
    have hleft : assertSafeMinorUnits (binary64 js) (stored value) label =
        .error (label ++ " must be a non-negative safe integer minor-unit amount") :=
      if_pos (Or.inl hrounded)
    have hright : assertSafeMinorUnits (unrounded64 js) value label =
        .error (label ++ " must be a non-negative safe integer minor-unit amount") :=
      if_pos (Or.inl (Bool.eq_false_iff.mpr hsafe))
    rw [hleft, hright]
    rfl

private theorem addToTotals_binary64 (totals : SideTotals) (entry : SettlementEntry) :
    addToTotals (binary64 js) totals entry = addToTotals (unrounded64 js) totals entry := by
  have hvalidate : validateEntry (binary64 js) entry = validateEntry (unrounded64 js) entry := rfl
  unfold addToTotals
  rw [hvalidate]
  cases validateEntry (unrounded64 js) entry with
  | error message => rfl
  | ok entry =>
    have := @assertSafeMinorUnits_bind js SideTotals
      (totals.get entry.side + entry.amount) (entry.side.label ++ " pool")
      fun value => return totals.set entry.side value
    simp only [Except.bind_ok, SideTotals.get_set_self]
    exact this

private theorem calculatePoolTotals_binary64 (entries : List SettlementEntry) :
    calculatePoolTotals (binary64 js) entries = calculatePoolTotals (unrounded64 js) entries := by
  unfold calculatePoolTotals
  congr 1
  funext totals entry
  exact addToTotals_binary64 totals entry

theorem calculateRakeAmount_binary64 (losingPool : ℤ) (rake : Number) :
    calculateRakeAmount (binary64 js) losingPool rake =
      calculateRakeAmount (unrounded64 js) losingPool rake := by
  unfold calculateRakeAmount
  cases rake with
  | finite r =>
    have := @assertSafeMinorUnits_bind js ℤ
      ((losingPool * rakeBps (unrounded64 js) r).tdiv 10000) "rake amount" fun value => return value
    show (assertSafeMinorUnits (unrounded64 js) losingPool "losing pool" >>= fun _ =>
      throwIf (r < 0 ∨ 1 < r) "rake must be a finite fraction between 0 and 1" >>= fun _ => _) = _
    congr 1
    funext _
    congr 1
    funext _
    exact this
  | infinite negative => rfl
  | nan => rfl

/-! ## What the checks bound -/

/-- A sum of amounts within the safe range is not rounded on the way. -/
theorem foldl_stored {α : Type} {f : α → ℤ} {xs : List α} {start limit : ℤ} (hstart : 0 ≤ start)
    (hlimit : ∀ value, 0 ≤ value → value ≤ limit → stored value = value)
    (hnonneg : ∀ x ∈ xs, 0 ≤ f x) (hmax : start + (xs.map f).sum ≤ limit) :
    xs.foldl (fun sum x => stored (sum + f x)) start = start + (xs.map f).sum := by
  induction xs generalizing start with
  | nil => exact (add_zero start).symm
  | cons x xs ih =>
    have hx := hnonneg x List.mem_cons_self
    have hrest : 0 ≤ (xs.map f).sum := by
      apply List.sum_nonneg
      intro a ha
      obtain ⟨y, hy, rfl⟩ := List.mem_map.mp ha
      exact hnonneg y (List.mem_cons_of_mem _ hy)
    rw [List.map_cons, List.sum_cons] at hmax ⊢
    rw [List.foldl_cons, hlimit _ (by omega) (by omega),
      ih (by omega) (fun y hy => hnonneg y (List.mem_cons_of_mem _ hy)) (by omega)]
    omega

private theorem distributeRemainder_binary64 {order : List AllocationDraft} {undistributed : ℤ}
    {allocations : Table String ℤ} (h₀ : ∀ id, 0 ≤ (allocations.lookup id).getD 0)
    (hmax : ∀ id, (allocations.lookup id).getD 0 + undistributed ≤ Arithmetic.maxSafeInteger) :
    distributeRemainder (binary64 js) order undistributed allocations =
      distributeRemainder (unrounded64 js) order undistributed allocations := by
  induction order generalizing undistributed allocations with
  | nil => rfl
  | cons draft rest ih =>
    unfold distributeRemainder
    split_ifs with hpos
    · have hbase := h₀ draft.entry.id
      have hunit := hmax draft.entry.id
      have hleft : (binary64 js).arithmetic.integer (undistributed - 1) = undistributed - 1 :=
        stored_of_le (by omega) (by omega)
      have hvalue : (binary64 js).arithmetic.integer
          ((allocations.lookup draft.entry.id).getD 0 + 1) =
            (allocations.lookup draft.entry.id).getD 0 + 1 := stored_of_le (by omega) (by omega)
      rw [hleft, hvalue]
      apply ih
      · intro id
        rw [Table.lookup_insert]
        split_ifs
        · show 0 ≤ (allocations.lookup draft.entry.id).getD 0 + 1
          omega
        · exact h₀ id
      · intro id
        rw [Table.lookup_insert]
        split_ifs
        · show (allocations.lookup draft.entry.id).getD 0 + 1 + (undistributed - 1) ≤ _
          omega
        · have := hmax id
          omega
    · rfl

private theorem allocationDraft_binary64 {winPool prizePool : ℤ} {entry : SettlementEntry}
    (hamount : 0 ≤ entry.amount) (hwin : entry.amount ≤ winPool) (hprize : 0 ≤ prizePool)
    (hmax : prizePool ≤ Arithmetic.maxSafeInteger) (index : ℕ) :
    allocationDraft (binary64 js) winPool prizePool index entry =
      allocationDraft (unrounded64 js) winPool prizePool index entry := by
  have hnum : 0 ≤ entry.amount * prizePool := mul_nonneg hamount hprize
  have hquotient : (entry.amount * prizePool).tdiv winPool ≤ prizePool := by
    rw [Int.tdiv_eq_ediv_of_nonneg hnum]
    rcases (hamount.trans hwin).lt_or_eq with hpos | hzero
    · apply Int.ediv_le_of_le_mul hpos
      rw [mul_comm]
      exact mul_le_mul_of_nonneg_left hwin hprize
    · rw [← hzero, Int.ediv_zero]
      exact hprize
  have hrounded : (binary64 js).arithmetic.integer ((entry.amount * prizePool).tdiv winPool) =
      (entry.amount * prizePool).tdiv winPool :=
    stored_of_le (Int.tdiv_nonneg hnum (hamount.trans hwin)) (hquotient.trans hmax)
  unfold allocationDraft
  rw [hrounded]
  rfl

private theorem allocatePrizePool_binary64 {winners : List SettlementEntry} {prizePool : ℤ}
    (hpos : ∀ e ∈ winners, 0 < e.amount) (hne : winners ≠ []) (hprize : 0 ≤ prizePool)
    (hmax : prizePool ≤ Arithmetic.maxSafeInteger) :
    let winPool := (winners.map SettlementEntry.amount).sum
    allocatePrizePool (binary64 js) winners winPool prizePool =
      allocatePrizePool (unrounded64 js) winners winPool prizePool := by
  intro winPool
  have hle : ∀ e ∈ winners, e.amount ≤ winPool := by
    intro e he
    apply List.single_le_sum
    · intro a ha
      obtain ⟨f, hf, rfl⟩ := List.mem_map.mp ha
      exact (hpos f hf).le
    · exact List.mem_map.mpr ⟨e, he, rfl⟩
  obtain ⟨first, hfirst⟩ := List.exists_mem_of_ne_nil winners hne
  have hwin : 0 < winPool := (hpos first hfirst).trans_le (hle first hfirst)
  have hdrafts : winners.mapIdx (allocationDraft (binary64 js) winPool prizePool) =
      winners.mapIdx (allocationDraft (unrounded64 js) winPool prizePool) := by
    apply List.ext_getElem
    · rw [List.length_mapIdx, List.length_mapIdx]
    · intro i h _
      have hi : i < winners.length := by rwa [List.length_mapIdx] at h
      rw [List.getElem_mapIdx, List.getElem_mapIdx]
      exact allocationDraft_binary64 (hpos _ (List.getElem_mem hi)).le
        (hle _ (List.getElem_mem hi)) hprize hmax i
  unfold allocatePrizePool
  split_ifs
  · rfl
  · have hbase : ∀ d ∈ winners.mapIdx (allocationDraft (unrounded64 js) winPool prizePool),
        d.baseWinnings = share SettlementEntry.amount prizePool winPool d.entry ∧
          0 ≤ d.baseWinnings := by
      intro d hd
      have hshare := (mem_drafts Arithmetic.unbounded_exact hpos hprize hd).1
      refine ⟨hshare, ?_⟩
      rw [hshare]
      obtain ⟨i, hi, rfl⟩ := List.mem_mapIdx.mp hd
      exact share_nonneg _ _ _ (hpos _ (List.getElem_mem hi)).le hprize hwin.le
    have hsum : ((winners.mapIdx (allocationDraft (unrounded64 js) winPool prizePool)).map
        AllocationDraft.baseWinnings).sum ≤ prizePool := by
      rw [List.map_congr_left fun d hd => (hbase d hd).1]
      have hentries := @map_entry_drafts (unrounded64 js) winPool prizePool winners
      calc ((winners.mapIdx (allocationDraft (unrounded64 js) winPool prizePool)).map
              fun d => share SettlementEntry.amount prizePool winPool d.entry).sum
          = (winners.map (share SettlementEntry.amount prizePool winPool)).sum := by
            conv_rhs => rw [← hentries, List.map_map]
            rfl
        _ ≤ prizePool := sum_share_le hwin rfl
    have hnonneg : 0 ≤ ((winners.mapIdx (allocationDraft (unrounded64 js) winPool prizePool)).map
        AllocationDraft.baseWinnings).sum := by
      apply List.sum_nonneg
      intro a ha
      obtain ⟨d, hd, rfl⟩ := List.mem_map.mp ha
      exact (hbase d hd).2
    rw [hdrafts]
    generalize hgen : winners.mapIdx (allocationDraft (unrounded64 js) winPool prizePool) = drafts
      at hbase hsum hnonneg ⊢
    have htotal : drafts.foldl (fun sum draft =>
        (binary64 js).arithmetic.integer (sum + draft.baseWinnings)) 0 =
          (drafts.map AllocationDraft.baseWinnings).sum := by
      rw [← zero_add (drafts.map AllocationDraft.baseWinnings).sum]
      exact foldl_stored le_rfl (fun _ => stored_of_le) (fun d hd => (hbase d hd).2) (by omega)
    have htotal' : drafts.foldl (fun sum draft =>
        (unrounded64 js).arithmetic.integer (sum + draft.baseWinnings)) 0 =
          (drafts.map AllocationDraft.baseWinnings).sum := by
      rw [foldl_baseWinnings Arithmetic.unbounded_exact, zero_add]
    have hleft : (binary64 js).arithmetic.integer
        (prizePool - (drafts.map AllocationDraft.baseWinnings).sum) =
          prizePool - (drafts.map AllocationDraft.baseWinnings).sum :=
      stored_of_le (by omega) (by omega)
    dsimp only
    rw [htotal, htotal', hleft]
    -- a winner's base and all that is left over fit into the pool
    have hlookup : ∀ id, 0 ≤ ((Table.ofList (fun draft : AllocationDraft => draft.entry.id)
          AllocationDraft.baseWinnings drafts).lookup id).getD 0 ∧
        ((Table.ofList (fun draft : AllocationDraft => draft.entry.id)
          AllocationDraft.baseWinnings drafts).lookup id).getD 0 ≤
            (drafts.map AllocationDraft.baseWinnings).sum := by
      intro id
      cases hfound : (Table.ofList (fun draft : AllocationDraft => draft.entry.id)
          AllocationDraft.baseWinnings drafts).lookup id with
      | none => exact ⟨le_rfl, hnonneg⟩
      | some base =>
        obtain ⟨d, hd, -, rfl⟩ := Table.lookup_ofList_eq_some _ _ hfound
        refine ⟨(hbase d hd).2, ?_⟩
        apply List.single_le_sum
        · intro a ha
          obtain ⟨d', hd', rfl⟩ := List.mem_map.mp ha
          exact (hbase d' hd').2
        · exact List.mem_map.mpr ⟨d, hd, rfl⟩
    exact distributeRemainder_binary64 (fun id => (hlookup id).1) fun id => by
      have := (hlookup id).2
      omega

/-! ## The whole settlement -/

/-- A rake that can be taken is a part of the losing pool, and both are safe. -/
theorem calculateRakeAmount_bounds {losingPool rakeAmount : ℤ} {rake : Number}
    (h : calculateRakeAmount (unrounded64 js) losingPool rake = .ok rakeAmount) :
    0 ≤ rakeAmount ∧ rakeAmount ≤ losingPool ∧ losingPool ≤ Arithmetic.maxSafeInteger := by
  unfold calculateRakeAmount at h
  obtain ⟨_, hsafe, h⟩ := Except.bind_eq_ok.mp h
  have hpool := Except.throwIf_eq_ok.mp hsafe
  have hmax : losingPool ≤ Arithmetic.maxSafeInteger ∧ 0 ≤ losingPool := by
    by_contra hnot
    apply hpool
    by_cases hneg : losingPool < 0
    · exact Or.inr hneg
    · refine Or.inl (decide_eq_false ?_)
      rw [abs_of_nonneg (by omega)]
      omega
  cases rake with
  | finite r =>
    obtain ⟨_, hfraction, hrest⟩ := Except.bind_eq_ok.mp h
    have hr := Except.throwIf_eq_ok.mp hfraction
    push Not at hr
    obtain ⟨amount, hamount, h0, h1⟩ := @calculateRakeAmount_of_safe (unrounded64 js) losingPool
      hmax.2 hmax.1 r hr.1 hr.2
    have hsame : calculateRakeAmount (unrounded64 js) losingPool (.finite r) = .ok rakeAmount := by
      unfold calculateRakeAmount
      rw [hsafe]
      exact h
    rw [hsame] at hamount
    obtain rfl := Except.ok.inj hamount
    exact ⟨h0, h1, hmax.1⟩
  | infinite negative => cases h
  | nan => cases h

theorem pos_of_mapM_validateEntry {host : Runtime} {entries out : List SettlementEntry}
    (h : entries.mapM (validateEntry host) = .ok out) : ∀ e ∈ entries, 0 < e.amount := by
  induction entries generalizing out with
  | nil => exact fun _ he => absurd he List.not_mem_nil
  | cons entry entries ih =>
    rw [List.mapM_cons] at h
    obtain ⟨first, hfirst, h⟩ := Except.bind_eq_ok.mp h
    obtain ⟨rest, hrest, -⟩ := Except.bind_eq_ok.mp h
    exact List.forall_mem_cons.mpr ⟨(validateEntry_eq_ok hfirst).2, ih hrest⟩

private theorem sortBy_stored (compare : String → String → ℤ) (payouts : List SettlementPayout) :
    Sorting.sortBy (fun left right => compare left.entryId right.entryId)
        (payouts.map SettlementPayout.stored) =
      (Sorting.sortBy (fun left right : SettlementPayout =>
        compare left.entryId right.entryId) payouts).map SettlementPayout.stored := by
  symm
  apply Sorting.map_sortBy
  intro left _ right _
  exact Iff.rfl

/-- A settlement in binary64 is the unrounded one, with the sum of the pools and the payouts
rounded. -/
theorem settleParimutuel_binary64 (entries : List SettlementEntry) (outcome : Side)
    (rake : Number) :
    settleParimutuel (binary64 js) entries outcome rake =
      (settleParimutuel (unrounded64 js) entries outcome rake).map
        ParimutuelSettlementResult.stored := by
  unfold settleParimutuel
  split_ifs with hempty
  · simp [Except.map, ParimutuelSettlementResult.stored]
  · have hvalidate : entries.mapM (validateEntry (binary64 js)) =
        entries.mapM (validateEntry (unrounded64 js)) := rfl
    rw [hvalidate]
    cases hnormalized : entries.mapM (validateEntry (unrounded64 js)) with
    | error message => rfl
    | ok normalized =>
      obtain rfl := mapM_validateEntry_eq_ok hnormalized
      rw [Except.bind_ok, Except.bind_ok, calculatePoolTotals_binary64]
      cases htotals : calculatePoolTotals (unrounded64 js) normalized with
      | error message => rfl
      | ok totals =>
        rw [Except.bind_ok, Except.bind_ok]
        dsimp only
        split_ifs with hwin
        · rfl
        · rw [calculateRakeAmount_binary64]
          cases hrake : calculateRakeAmount (unrounded64 js) (totals.get outcome.opposing) rake with
          | error message => rfl
          | ok rakeAmount =>
            obtain ⟨h0, hle, hmax⟩ := calculateRakeAmount_bounds hrake
            have hget := calculatePoolTotals_get Arithmetic.unbounded_exact htotals outcome
            have hpos := pos_of_mapM_validateEntry hnormalized
            have hprize : (binary64 js).arithmetic.integer
                (totals.get outcome.opposing - rakeAmount) =
                  totals.get outcome.opposing - rakeAmount := stored_of_le (by omega) (by omega)
            have hne : (normalized.filter fun entry => entry.side = outcome) ≠ [] := by
              intro hnil
              rw [sideStake, hnil] at hget
              exact hwin hget
            have hallocate := @allocatePrizePool_binary64 js
              (normalized.filter fun entry => entry.side = outcome)
              (totals.get outcome.opposing - rakeAmount)
              (fun e he => hpos e (List.mem_of_mem_filter he)) hne (by omega) (by omega)
            have hpool : (((normalized.filter fun entry => entry.side = outcome).map
                SettlementEntry.amount).sum) = totals.get outcome := hget.symm
            rw [hpool] at hallocate
            rw [Except.bind_ok, Except.bind_ok, hprize]
            dsimp only at hallocate ⊢
            rw [hallocate]
            show Except.ok (ParimutuelSettlementResult.settled _) = Except.ok
              (ParimutuelSettlementResult.settled _)
            congr 3
            rw [← sortBy_stored, List.map_append, List.map_map, List.map_map]
            congr 2
            apply List.map_congr_left
            intro entry _
            show losingPayout entry = SettlementPayout.stored (losingPayout entry)
            unfold SettlementPayout.stored losingPayout
            rw [stored_of_le le_rfl (by decide)]

end Yevow.DotCast
