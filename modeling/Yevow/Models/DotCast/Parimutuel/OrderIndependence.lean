import Yevow.Models.DotCast.Parimutuel.Fairness

/-!
# The order of the entries decides nothing

The units left over go by remainder, time and id. Where the collation tells the ids apart the
position in the list is never asked for, and permuted entries settle alike.
-/

namespace Yevow.DotCast

open JavaScript (Runtime Collation)
open Apportionment

/-- Among these texts only equal ones are tied, and exchanging two exchanges the sign. -/
structure StrictOn (collation : Collation) (texts : List String) : Prop where
  eq_of_zero : ∀ a ∈ texts, ∀ b ∈ texts, collation.compare a b = 0 → a = b
  sign : ∀ a ∈ texts, ∀ b ∈ texts, collation.compare a b < 0 ↔ 0 < collation.compare b a

private theorem StrictOn.consistent {collation : Collation} {texts : List String}
    (h : StrictOn collation texts) : Sorting.Consistent collation.compare texts where
  sign := h.sign
  trans a _ b _ c _ := collation.trans a b c

private theorem StrictOn.of_subset {collation : Collation} {texts texts' : List String}
    (h : StrictOn collation texts) (hsub : ∀ a ∈ texts', a ∈ texts) :
    StrictOn collation texts' where
  eq_of_zero a ha b hb := h.eq_of_zero a (hsub a ha) b (hsub b hb)
  sign a ha b hb := h.sign a (hsub a ha) b (hsub b hb)

/-- The text an entry's time is compared by. -/
def SettlementEntry.placedText (entry : SettlementEntry) : String := entry.placedAt.getD ""

variable {js : Runtime}

/-! ## The order of the winners -/

/-- The order of the drafts without their positions. -/
def compareWinners (js : Runtime) (winPool prizePool : ℤ) (left right : SettlementEntry) : ℤ :=
  let byRemainder :=
    if (left.amount * prizePool).tmod winPool ≠ (right.amount * prizePool).tmod winPool then
      if (left.amount * prizePool).tmod winPool > (right.amount * prizePool).tmod winPool then -1
      else 1
    else 0
  if byRemainder ≠ 0 then byRemainder
  else
    if js.localeCompare.compare left.placedText right.placedText ≠ 0 then
      js.localeCompare.compare left.placedText right.placedText
    else js.localeCompare.compare left.id right.id

private theorem consistent_compareWinners {winners : List SettlementEntry} (winPool prizePool : ℤ)
    (hids : StrictOn js.localeCompare (winners.map SettlementEntry.id))
    (htimes : StrictOn js.localeCompare (winners.map SettlementEntry.placedText)) :
    Sorting.Consistent (compareWinners js winPool prizePool) winners :=
  (Sorting.consistent_descending (fun e : SettlementEntry => (e.amount * prizePool).tmod winPool)
    winners).lexicographic
    ((htimes.consistent.comap fun _ => List.mem_map_of_mem).lexicographic
      (hids.consistent.comap fun _ => List.mem_map_of_mem))

/-- Ties between winners are left to none but the same winner. -/
theorem eq_of_compareWinners_eq_zero {winners : List SettlementEntry} {winPool prizePool : ℤ}
    (hnodup : (winners.map SettlementEntry.id).Nodup)
    (hids : StrictOn js.localeCompare (winners.map SettlementEntry.id))
    {left right : SettlementEntry} (hleft : left ∈ winners) (hright : right ∈ winners)
    (h : compareWinners js winPool prizePool left right = 0) : left = right := by
  have hid : js.localeCompare.compare left.id right.id = 0 := by
    unfold compareWinners at h
    dsimp only at h
    split_ifs at h <;> first | exact h | omega
  exact List.inj_on_of_nodup_map hnodup hleft hright
    (hids.eq_of_zero _ (List.mem_map_of_mem hleft) _ (List.mem_map_of_mem hright) hid)

private theorem compareRemainderDrafts_iff {winners : List SettlementEntry} {winPool prizePool : ℤ}
    (hnodup : (winners.map SettlementEntry.id).Nodup)
    (hids : StrictOn js.localeCompare (winners.map SettlementEntry.id))
    {left right : AllocationDraft}
    (hleft : left ∈ winners.mapIdx (allocationDraft js winPool prizePool))
    (hright : right ∈ winners.mapIdx (allocationDraft js winPool prizePool)) :
    compareRemainderDrafts js left right ≤ 0 ↔
      compareWinners js winPool prizePool left.entry right.entry ≤ 0 := by
  obtain ⟨i, hi, rfl⟩ := List.mem_mapIdx.mp hleft
  obtain ⟨j, hj, rfl⟩ := List.mem_mapIdx.mp hright
  -- the positions are only compared where the ids are tied
  have hindex : js.localeCompare.compare winners[i].id winners[j].id = 0 → i = j := by
    intro htie
    have hid := hids.eq_of_zero _ (List.mem_map_of_mem (List.getElem_mem hi)) _
      (List.mem_map_of_mem (List.getElem_mem hj)) htie
    have hentry := List.inj_on_of_nodup_map hnodup (List.getElem_mem hi) (List.getElem_mem hj) hid
    exact (List.Nodup.of_map _ hnodup).getElem_inj_iff.mp hentry
  unfold compareRemainderDrafts compareWinners
  dsimp only [allocationDraft, SettlementEntry.placedText]
  by_cases htie : js.localeCompare.compare winners[i].id winners[j].id = 0
  · obtain rfl := hindex htie
    simp only [htie, ne_eq, not_true_eq_false, if_false, if_true, sub_self]
  · split_ifs <;> omega

/-- The drafts in their order are the winners in theirs. -/
theorem map_entry_sortBy_drafts {winners : List SettlementEntry} (winPool prizePool : ℤ)
    (hnodup : (winners.map SettlementEntry.id).Nodup)
    (hids : StrictOn js.localeCompare (winners.map SettlementEntry.id)) :
    (Sorting.sortBy (compareRemainderDrafts js)
        (winners.mapIdx (allocationDraft js winPool prizePool))).map AllocationDraft.entry =
      Sorting.sortBy (compareWinners js winPool prizePool) winners := by
  have hmap : (Sorting.sortBy (compareRemainderDrafts js)
      (winners.mapIdx (allocationDraft js winPool prizePool))).map AllocationDraft.entry =
        Sorting.sortBy (compareWinners js winPool prizePool)
          ((winners.mapIdx (allocationDraft js winPool prizePool)).map AllocationDraft.entry) := by
    apply Sorting.map_sortBy
    intro left hleft right hright
    exact compareRemainderDrafts_iff hnodup hids hleft hright
  rw [hmap, map_entry_drafts]

/-! ## The allocation -/

/-- A winner's share, with a unit more at the front of the order. -/
theorem lookup_allocatePrizePool {winners : List SettlementEntry} {winPool prizePool : ℤ}
    (hnodup : (winners.map SettlementEntry.id).Nodup) (hpos : ∀ e ∈ winners, 0 < e.amount)
    (hprize : 0 ≤ prizePool) (hids : StrictOn js.localeCompare (winners.map SettlementEntry.id))
    {entry : SettlementEntry} (hentry : entry ∈ winners) :
    ((allocatePrizePool (unrounded64 js) winners winPool prizePool).lookup entry.id).getD 0 =
      share SettlementEntry.amount prizePool winPool entry +
        if entry.id ∈ ((Sorting.sortBy (compareWinners js winPool prizePool) winners).take
          (prizePool -
            (winners.map (share SettlementEntry.amount prizePool winPool)).sum).toNat).map
            SettlementEntry.id then 1 else 0 := by
  by_cases hz : prizePool = 0
  · subst hz
    have hshares : (winners.map (share SettlementEntry.amount 0 winPool)).sum = 0 :=
      List.sum_eq_zero (by simp [share])
    rw [allocatePrizePool, if_pos rfl, Table.lookup_ofList _ _ hnodup hentry, hshares]
    simp [share]
  · let drafts := winners.mapIdx (allocationDraft (unrounded64 js) winPool prizePool)
    have hentries : drafts.map AllocationDraft.entry = winners :=
      map_entry_drafts winPool prizePool winners
    have hids' : drafts.map (fun d => d.entry.id) = winners.map SettlementEntry.id := by
      rw [← hentries, List.map_map]
      rfl
    have hbase : ∀ d ∈ drafts,
        d.baseWinnings = share SettlementEntry.amount prizePool winPool d.entry := fun d hd =>
      (mem_drafts Arithmetic.unbounded_exact hpos hprize hd).1
    have htotal : drafts.foldl (fun sum draft =>
        (unrounded64 js).arithmetic.integer (sum + draft.baseWinnings)) 0 =
          (winners.map (share SettlementEntry.amount prizePool winPool)).sum := by
      rw [foldl_baseWinnings Arithmetic.unbounded_exact, zero_add, List.map_congr_left hbase]
      rw [← hentries, List.map_map]
      rfl
    have horder : (Sorting.sortBy (compareRemainderDrafts (unrounded64 js)) drafts).map
        AllocationDraft.entry = Sorting.sortBy (compareWinners js winPool prizePool) winners :=
      @map_entry_sortBy_drafts (unrounded64 js) winners winPool prizePool hnodup hids
    obtain ⟨d, hd, rfl⟩ : ∃ d ∈ drafts, d.entry = entry := by
      rw [← hentries] at hentry
      exact List.mem_map.mp hentry
    have hcount : ((Sorting.sortBy (compareRemainderDrafts (unrounded64 js)) drafts).map
        fun d => d.entry.id).count d.entry.id ≤ 1 := by
      rw [((Sorting.perm_sortBy _ drafts).map _).count_eq, hids']
      exact List.nodup_iff_count_le_one.mp hnodup _
    rw [allocatePrizePool, if_neg hz]
    dsimp only
    rw [htotal, lookup_distributeRemainder Arithmetic.unbounded_exact hcount,
      Table.lookup_ofList (fun d : AllocationDraft => d.entry.id) _ (hids'.symm ▸ hnodup) hd,
      Option.getD_some, hbase d hd, ← horder, ← List.map_take, List.map_map]
    rfl

/-- The order of the winners changes nobody's allocation. -/
theorem lookup_allocatePrizePool_of_perm {winners winners' : List SettlementEntry}
    {winPool prizePool : ℤ} (hperm : winners.Perm winners')
    (hnodup : (winners.map SettlementEntry.id).Nodup) (hpos : ∀ e ∈ winners, 0 < e.amount)
    (hprize : 0 ≤ prizePool) (hids : StrictOn js.localeCompare (winners.map SettlementEntry.id))
    (htimes : StrictOn js.localeCompare (winners.map SettlementEntry.placedText))
    {entry : SettlementEntry} (hentry : entry ∈ winners) :
    ((allocatePrizePool (unrounded64 js) winners' winPool prizePool).lookup entry.id).getD 0 =
      ((allocatePrizePool (unrounded64 js) winners winPool prizePool).lookup entry.id).getD 0 := by
  have hsorted : Sorting.sortBy (compareWinners js winPool prizePool) winners =
      Sorting.sortBy (compareWinners js winPool prizePool) winners' := by
    apply (consistent_compareWinners winPool prizePool hids htimes).sortBy_eq_of_perm hperm
    intro left hleft right hright htie
    exact eq_of_compareWinners_eq_zero hnodup hids hleft hright htie
  have hnodup' : (winners'.map SettlementEntry.id).Nodup :=
    (hperm.map SettlementEntry.id).nodup_iff.mp hnodup
  have hids' : StrictOn js.localeCompare (winners'.map SettlementEntry.id) :=
    hids.of_subset fun text htext => (hperm.map SettlementEntry.id).mem_iff.mpr htext
  have hpos' : ∀ e ∈ winners', 0 < e.amount := fun e he => hpos e (hperm.mem_iff.mpr he)
  rw [lookup_allocatePrizePool hnodup hpos hprize hids hentry,
    lookup_allocatePrizePool hnodup' hpos' hprize hids' (hperm.mem_iff.mp hentry), hsorted,
    (hperm.map (share SettlementEntry.amount prizePool winPool)).sum_eq]

/-! ## The whole settlement -/

private theorem sideStake_of_perm {left right : List SettlementEntry} (hperm : left.Perm right)
    (side : Side) : sideStake left side = sideStake right side :=
  ((hperm.filter _).map _).sum_eq

/-- Entries that pass the checks pass them in every order, with the same totals. -/
private theorem calculatePoolTotals_of_perm {left right : List SettlementEntry}
    {totals : SideTotals}
    (hperm : left.Perm right) (hpos : ∀ e ∈ left, 0 < e.amount)
    (h : calculatePoolTotals (unrounded64 js) left = .ok totals) :
    right.mapM (validateEntry (unrounded64 js)) = .ok right ∧
      calculatePoolTotals (unrounded64 js) right = .ok totals := by
  have hpos' : ∀ e ∈ right, 0 < e.amount := fun e he => hpos e (hperm.mem_iff.mpr he)
  have hsafe : ∀ side, sideStake right side ≤ Arithmetic.maxSafeInteger := by
    intro side
    rw [← sideStake_of_perm hperm]
    exact sideStake_le_of_totals h side
  constructor
  · apply mapM_validateEntry_of_safe
    intro e he
    exact ⟨Arithmetic.unbounded.safe_of_le (hpos' e he).le
      ((amount_le_sideStake hpos' he).trans (hsafe e.side)), hpos' e he⟩
  · obtain ⟨totals', htotals', hget'⟩ := @calculatePoolTotals_of_safe (unrounded64 js) right hpos'
      fun side v hv hle => Arithmetic.unbounded.safe_of_le hv (hle.trans (hsafe side))
    have hget := calculatePoolTotals_get Arithmetic.unbounded_exact h
    have hyes : totals'.yes = totals.yes :=
      (hget' .yes).trans ((sideStake_of_perm hperm _).symm.trans (hget .yes).symm)
    have hno : totals'.no = totals.no :=
      (hget' .no).trans ((sideStake_of_perm hperm _).symm.trans (hget .no).symm)
    have hsame : totals' = totals := by
      cases totals
      cases totals'
      simp only [SideTotals.mk.injEq]
      exact ⟨hyes, hno⟩
    rw [htotals', hsame]

/-- The list of payouts in the order of their ids. -/
private theorem sortBy_payouts_of_perm {left right : List SettlementPayout}
    (hperm : left.Perm right)
    (hnodup : (left.map SettlementPayout.entryId).Nodup)
    (hids : StrictOn js.localeCompare (left.map SettlementPayout.entryId)) :
    Sorting.sortBy (fun a b : SettlementPayout => js.localeCompare.compare a.entryId b.entryId)
      left =
      Sorting.sortBy (fun a b : SettlementPayout =>
        js.localeCompare.compare a.entryId b.entryId) right := by
  have hconsistent : Sorting.Consistent (fun a b : SettlementPayout =>
      js.localeCompare.compare a.entryId b.entryId) left :=
    hids.consistent.comap fun _ => List.mem_map_of_mem
  apply hconsistent.sortBy_eq_of_perm hperm
  intro a ha b hb htie
  exact List.inj_on_of_nodup_map hnodup ha hb
    (hids.eq_of_zero _ (List.mem_map_of_mem ha) _ (List.mem_map_of_mem hb) htie)

private theorem settled_of_perm {left right : List SettlementEntry} {outcome : Side} {rake : Number}
    {result : SettledParimutuelResult} (hperm : left.Perm right)
    (hnodup : (left.map SettlementEntry.id).Nodup)
    (hids : StrictOn js.localeCompare (left.map SettlementEntry.id))
    (htimes : StrictOn js.localeCompare (left.map SettlementEntry.placedText))
    (h : settleParimutuel (unrounded64 js) left outcome rake = .ok (.settled result)) :
    settleParimutuel (unrounded64 js) right outcome rake = .ok (.settled result) := by
  have hpos := pos_of_settled h
  obtain ⟨totals, rakeAmount, htotals, hwin, hrake, rfl⟩ := settleParimutuel_eq_settled h
  obtain ⟨hvalid, htotals'⟩ := calculatePoolTotals_of_perm hperm hpos htotals
  obtain ⟨-, hrakeLe, -⟩ := calculateRakeAmount_bounds hrake
  have hne : ¬right.length = 0 := by
    intro hlength
    rw [← hperm.length_eq, List.length_eq_zero_iff] at hlength
    subst hlength
    cases h
  have hwinners := hperm.filter fun entry => decide (entry.side = outcome)
  have hlosers := hperm.filter fun entry => decide (entry.side ≠ outcome)
  have hsub : ∀ e ∈ left.filter fun entry => entry.side = outcome, e ∈ left :=
    fun _ => List.mem_of_mem_filter
  have hwinnings : (right.filter fun entry => entry.side = outcome).map
        (winningPayout (unrounded64 js) (allocatePrizePool (unrounded64 js)
          (right.filter fun entry => entry.side = outcome) (totals.get outcome)
          (totals.get outcome.opposing - rakeAmount))) =
      (right.filter fun entry => entry.side = outcome).map
        (winningPayout (unrounded64 js) (allocatePrizePool (unrounded64 js)
          (left.filter fun entry => entry.side = outcome) (totals.get outcome)
          (totals.get outcome.opposing - rakeAmount))) := by
    apply List.map_congr_left
    intro entry hentry
    unfold winningPayout
    rw [lookup_allocatePrizePool_of_perm hwinners
      (hnodup.sublist (List.filter_sublist.map _)) (fun e he => hpos e (hsub e he)) (by omega)
      (hids.of_subset fun text htext => List.map_subset _ hsub htext)
      (htimes.of_subset fun text htext => List.map_subset _ hsub htext)
      (hwinners.mem_iff.mpr hentry)]
  unfold settleParimutuel
  rw [if_neg hne, hvalid, Except.bind_ok, htotals', Except.bind_ok]
  dsimp only
  rw [if_neg hwin, hrake, Except.bind_ok]
  show Except.ok (ParimutuelSettlementResult.settled _) =
    Except.ok (ParimutuelSettlementResult.settled _)
  congr 3
  refine Eq.trans (congrArg (fun payouts => Sorting.sortBy _ (payouts ++ _)) hwinnings) ?_
  have hentryIds : ∀ allocations : Table String ℤ,
      (((left.filter fun entry => entry.side = outcome).map
          (winningPayout (unrounded64 js) allocations) ++
        (left.filter fun entry => entry.side ≠ outcome).map losingPayout).map
          SettlementPayout.entryId).Perm (left.map SettlementEntry.id) := by
    intro allocations
    have hsplit : ((left.filter fun e => e.side = outcome) ++
        left.filter fun e => e.side ≠ outcome).Perm left := by
      simpa using List.filter_append_perm (fun e : SettlementEntry => e.side = outcome) left
    refine List.Perm.trans ?_ (hsplit.map SettlementEntry.id)
    rw [List.map_append, List.map_map, List.map_map, List.map_append]
    exact List.Perm.refl _
  refine (sortBy_payouts_of_perm ((hwinners.map _).append (hlosers.map _)) ?_ ?_).symm
  · exact (hentryIds _).nodup_iff.mpr hnodup
  · exact hids.of_subset fun text htext => (hentryIds _).mem_iff.mp htext

private theorem voidRequired_of_perm {left right : List SettlementEntry} {outcome : Side}
    {rake : Number} {result : VoidRequiredParimutuelResult} (hperm : left.Perm right)
    (h : settleParimutuel (unrounded64 js) left outcome rake = .ok (.voidRequired result)) :
    result.payouts = left.map losingPayout ∧
      settleParimutuel (unrounded64 js) right outcome rake =
        .ok (.voidRequired { result with payouts := right.map losingPayout }) := by
  unfold settleParimutuel at h
  split_ifs at h with hempty
  · obtain rfl := ParimutuelSettlementResult.voidRequired.inj (Except.ok.inj h)
    rw [List.length_eq_zero_iff] at hempty
    subst hempty
    obtain rfl := hperm.nil_eq
    exact ⟨rfl, rfl⟩
  · obtain ⟨normalized, hnormalized, hrest⟩ := Except.bind_eq_ok.mp h
    obtain rfl := mapM_validateEntry_eq_ok hnormalized
    obtain ⟨totals, htotals, hrun⟩ := Except.bind_eq_ok.mp hrest
    obtain ⟨hvalid, htotals'⟩ :=
      calculatePoolTotals_of_perm hperm (pos_of_mapM_validateEntry hnormalized) htotals
    dsimp only at hrun
    split_ifs at hrun with hwin
    · obtain rfl := ParimutuelSettlementResult.voidRequired.inj (Except.ok.inj hrun)
      refine ⟨rfl, ?_⟩
      unfold settleParimutuel
      rw [if_neg (hperm.length_eq ▸ hempty), hvalid, Except.bind_ok, htotals', Except.bind_ok]
      dsimp only
      rw [if_pos hwin]
      rfl
    · obtain ⟨_, -, hout⟩ := Except.bind_eq_ok.mp hrun
      cases hout

/-- Permuted entries settle to the same result, or neither of the lists settles. Where nobody is on
the winning side both lists ask for the same void, each with nothing to pay in its own order. -/
theorem settleParimutuel_order_independent (left right : List SettlementEntry) (outcome : Side)
    (rake : Number) (hperm : left.Perm right) (hnodup : (left.map SettlementEntry.id).Nodup)
    (hids : StrictOn js.localeCompare (left.map SettlementEntry.id))
    (htimes : StrictOn js.localeCompare (left.map SettlementEntry.placedText)) :
    (∀ result, settleParimutuel (binary64 js) left outcome rake = .ok (.settled result) ↔
      settleParimutuel (binary64 js) right outcome rake = .ok (.settled result)) ∧
    ∀ result, settleParimutuel (binary64 js) left outcome rake = .ok (.voidRequired result) →
      result.payouts = left.map losingPayout ∧
      settleParimutuel (binary64 js) right outcome rake =
        .ok (.voidRequired { result with payouts := right.map losingPayout }) := by
  have hforth : ∀ {left right : List SettlementEntry}, left.Perm right →
      (left.map SettlementEntry.id).Nodup →
      StrictOn js.localeCompare (left.map SettlementEntry.id) →
      StrictOn js.localeCompare (left.map SettlementEntry.placedText) → ∀ result,
      settleParimutuel (binary64 js) left outcome rake = .ok (.settled result) →
      settleParimutuel (binary64 js) right outcome rake = .ok (.settled result) := by
    intro left right hperm hnodup hids htimes result h
    rw [settleParimutuel_binary64] at h ⊢
    obtain ⟨unrounded, hunrounded, hstored⟩ := Except.map_eq_ok.mp h
    cases unrounded with
    | settled settled =>
      rw [settled_of_perm hperm hnodup hids htimes hunrounded, ← hstored]
      rfl
    | voidRequired refused => cases hstored
  refine ⟨fun result => ⟨hforth hperm hnodup hids htimes result, hforth hperm.symm
    ((hperm.map _).nodup_iff.mp hnodup)
    (hids.of_subset fun text htext => (hperm.map _).mem_iff.mpr htext)
    (htimes.of_subset fun text htext => (hperm.map _).mem_iff.mpr htext) result⟩, ?_⟩
  intro result h
  rw [settleParimutuel_binary64] at h ⊢
  obtain ⟨unrounded, hunrounded, hstored⟩ := Except.map_eq_ok.mp h
  cases unrounded with
  | settled settled => cases hstored
  | voidRequired refused =>
    obtain ⟨hpayouts, hright⟩ := voidRequired_of_perm hperm hunrounded
    obtain rfl := ParimutuelSettlementResult.voidRequired.inj hstored
    refine ⟨hpayouts, ?_⟩
    rw [hright]
    rfl

private def placedFirst : List SettlementEntry :=
  [⟨"a", .yes, 2, none⟩, ⟨"b", .yes, 2, none⟩, ⟨"c", .no, 3, none⟩]

private def placedLast : List SettlementEntry :=
  [⟨"b", .yes, 2, none⟩, ⟨"a", .yes, 2, none⟩, ⟨"c", .no, 3, none⟩]

/-- The odd unit goes to the same of two equal stakes in either order. -/
theorem settleParimutuel_order_independent_equal_stakes :
    settleParimutuel (binary64 (JavaScript.reference .exact)) placedLast .yes (.finite 0) =
      .ok (.settled ⟨.yes, ⟨4, 3⟩, 7, 0, 3,
        [⟨"a", .yes, 2, 4⟩, ⟨"b", .yes, 2, 3⟩, ⟨"c", .no, 3, 0⟩]⟩) := by
  apply ((@settleParimutuel_order_independent (JavaScript.reference .exact) placedFirst placedLast
    .yes (.finite 0) (by decide) (by decide) ⟨by decide +kernel, by decide +kernel⟩
    ⟨by decide +kernel, by decide +kernel⟩).1 _).mp
  decide +kernel

private def losersFirst : List SettlementEntry := [⟨"a", .no, 1, none⟩, ⟨"b", .no, 2, none⟩]

private def losersLast : List SettlementEntry := [⟨"b", .no, 2, none⟩, ⟨"a", .no, 1, none⟩]

/-- Without a winner the payouts are listed as the entries came. -/
theorem void_keeps_input_order :
    losersFirst.Perm losersLast ∧ (losersFirst.map SettlementEntry.id).Nodup ∧
    (∀ e ∈ losersFirst, 0 < e.amount) ∧
    StrictOn (JavaScript.reference .exact).localeCompare (losersFirst.map SettlementEntry.id) ∧
    StrictOn (JavaScript.reference .exact).localeCompare
      (losersFirst.map SettlementEntry.placedText) ∧
    ∃ first last : VoidRequiredParimutuelResult,
      settleParimutuel (binary64 (JavaScript.reference .exact)) losersFirst .yes (.finite 0) =
        .ok (.voidRequired first) ∧
      settleParimutuel (binary64 (JavaScript.reference .exact)) losersLast .yes (.finite 0) =
        .ok (.voidRequired last) ∧
      first.payouts ≠ last.payouts := by
  refine ⟨by decide, by decide, by decide, ⟨by decide +kernel, by decide +kernel⟩,
    ⟨by decide +kernel, by decide +kernel⟩,
    ⟨.noWinningEntries, .yes, ⟨0, 3⟩, 3, 0, 0, [⟨"a", .no, 1, 0⟩, ⟨"b", .no, 2, 0⟩]⟩,
    ⟨.noWinningEntries, .yes, ⟨0, 3⟩, 3, 0, 0, [⟨"b", .no, 2, 0⟩, ⟨"a", .no, 1, 0⟩]⟩, ?_, ?_, ?_⟩
  · decide +kernel
  · decide +kernel
  · decide

end Yevow.DotCast
