import Mathlib.Algebra.BigOperators.Ring.List
import Yevow.Core.JavaScript.Reference
import Yevow.Models.Paper.Conservation

/-!
# What the paper ledger shows

The loop over the fills ends, and the ledger made of its last state shows for every asset the
position, the profit, the fees and the counts that the fills amount to.
-/

namespace Yevow.Paper

open Engine (EngineArithmetic TradeSide)
open JavaScript (Runtime)

/-! ## The run -/

private theorem ledgerInvariant_of_reaches {fills : List PaperLedgerFill} {moment : LedgerMoment}
    (hfills : ∀ fill ∈ fills, FillInvariant fill) (h : LedgerReaches .unrounded fills moment) :
    ∃ done, fills = done ++ moment.coming ∧ LedgerInvariant done moment := by
  induction h with
  | refl => exact ⟨[], rfl, .start fills⟩
  | tail _ hstep ih =>
    obtain ⟨done, hdone, hinv⟩ := ih
    cases hstep with
    | take fill coming state =>
      refine ⟨done ++ [fill], by simp [hdone], hinv.take (hfills fill ?_)⟩
      simp [hdone]
    | close hclose => exact ⟨done, hdone, hinv.close hclose⟩
    | finish hend => exact ⟨done, hdone, hinv.finish hend⟩

private theorem closeLots_of_none {ar : EngineArithmetic} {s : LedgerState × FillProgress}
    (h : closeOnce ar s = none) (fuel : ℕ) : closeLots ar fuel s = some s := by
  cases fuel <;> simp [closeLots, h]

/-- A fill that is used up closes nothing more. -/
private theorem closeOnce_of_spent {done coming : List PaperLedgerFill} {state : LedgerState}
    {progress : FillProgress} (h : LedgerInvariant done ⟨coming, state, some progress⟩)
    (hspent : progress.outstanding.units = 0) :
    closeOnce .unrounded (state, progress) = none := by
  rw [closeOnce]
  cases hnext : progress.nextLot .unrounded with
  | none => rfl
  | some found =>
    obtain ⟨-, hpos, -⟩ :=
      FillProgress.nextLot_eq_some h.busy.lots (h.progress progress rfl) hnext
    omega

/-- As many rounds as there are lots are enough for a fill. -/
private theorem closeLots_total {done coming : List PaperLedgerFill} {fuel : ℕ}
    {state : LedgerState} {progress : FillProgress}
    (h : LedgerInvariant done ⟨coming, state, some progress⟩)
    (hfuel : progress.lots.length ≤ fuel) :
    ∃ s, closeLots .unrounded fuel (state, progress) = some s := by
  induction fuel generalizing state progress with
  | zero =>
    have hempty : progress.lots = [] := List.length_eq_zero_iff.mp (Nat.le_zero.mp hfuel)
    have hnone : closeOnce .unrounded (state, progress) = none := by
      rw [closeOnce, FillProgress.nextLot, hempty]
      split_ifs <;> rfl
    exact ⟨_, by rw [closeLots, hnone]; rfl⟩
  | succ fuel ih =>
    rw [closeLots]
    cases hnext : closeOnce .unrounded (state, progress) with
    | none => exact ⟨_, rfl⟩
    | some next =>
      obtain ⟨nextState, nextProgress⟩ := next
      have hinv := h.close hnext
      obtain ⟨hwf, hrounds, -⟩ := closeOnce_accounts hnext (h.progress progress rfl) h.busy
      rcases hrounds with hfewer | hspent
      · exact ih hinv (by omega)
      · exact ⟨_, closeLots_of_none (closeOnce_of_spent hinv hspent) fuel⟩

/-- Every fill is processed, and the run goes on from moment to moment. -/
private theorem applyFills_total {fuel : ℕ} {fills coming : List PaperLedgerFill}
    {state : LedgerState} (hfills : ∀ fill ∈ fills, FillInvariant fill)
    (hfuel : fills.length ≤ fuel) (hreach : LedgerReaches .unrounded fills ⟨coming, state, none⟩) :
    ∃ last, coming.foldlM (applyFill .unrounded fuel) state = some last ∧
      LedgerReaches .unrounded fills ⟨[], last, none⟩ := by
  induction coming generalizing state with
  | nil => exact ⟨state, rfl, hreach⟩
  | cons fill coming ih =>
    obtain ⟨done, hdone, hinv⟩ := ledgerInvariant_of_reaches hfills hreach
    have hfill : fill ∈ fills := by simp [hdone]
    have htaken := hinv.take (hfills fill hfill)
    have hslots := (hinv.accounts (normalizeAsset fill.asset)).slots
    have hlength : (fillsOf (normalizeAsset fill.asset) done).length ≤ fills.length := by
      rw [hdone, List.length_append]
      exact (List.length_filter_le _ _).trans (Nat.le_add_right _ _)
    obtain ⟨s, hs⟩ := closeLots_total htaken (hslots.trans (hlength.trans hfuel))
    have hnext : applyFill .unrounded fuel state fill = some (finishFill .unrounded s) := by
      rw [applyFill, hs]
      rfl
    rw [List.foldlM_cons, hnext]
    exact ih (hreach.trans (applyFill_steps hnext coming))

/-- A number of rounds that does for every fill: the number of fills. -/
theorem applyFills_reaches {fuel : ℕ} {fills : List PaperLedgerFill}
    (hfills : ∀ fill ∈ fills, FillInvariant fill) (hfuel : fills.length ≤ fuel) :
    ∃ last, applyFills .unrounded fuel fills = some last ∧
      LedgerReaches .unrounded fills ⟨[], last, none⟩ :=
  applyFills_total hfills hfuel .refl

/-! ## The ledger -/

/-- The accounts that the ledger of a list of fills has to show. -/
structure LedgerAccounts (fills : List PaperLedgerFill) (ledger : PaperLedger) : Prop where
  distinct : (ledger.assets.map PaperLedgerAssetSummary.asset).Nodup
  listed : ∀ asset, (∃ fill ∈ fills, normalizeAsset fill.asset = asset) ↔
    ∃ summary ∈ ledger.assets, summary.asset = asset
  quantity : ∀ summary ∈ ledger.assets, summary.openQuantity =
    tradedSize .buy (fillsOf summary.asset fills) - tradedSize .sell (fillsOf summary.asset fills)
  profit : ∀ summary ∈ ledger.assets,
    summary.realizedGrossPnl = (fifo summary.asset fills).profit
  totalProfit : ledger.summary.realizedGrossPnl =
    (ledger.assets.map fun summary => (fifo summary.asset fills).profit).sum
  queue : ∀ position ∈ ledger.positions,
    unitQueue position.lots = (fifo position.asset fills).queue
  fees : closeFees ledger.events +
    (ledger.positions.map fun position => entryFees position.lots).sum = fillFees fills
  totalFees : ledger.summary.totalFees = fillFees fills
  openFees : ledger.summary.openFees =
    (ledger.positions.map fun position => entryFees position.lots).sum
  net : ∀ summary ∈ ledger.assets, summary.realizedNetPnl = summary.realizedGrossPnl -
    closeFees (ledger.events.filter (·.asset = summary.asset))
  totalNet : ledger.summary.realizedNetPnl =
    ledger.summary.realizedGrossPnl - closeFees ledger.events
  entries : ∀ summary ∈ ledger.assets, summary.entryCount =
    (openEvents (ledger.events.filter (·.asset = summary.asset))).length
  exits : ∀ summary ∈ ledger.assets, summary.exitCount =
    (closeEvents (ledger.events.filter (·.asset = summary.asset))).length
  totalEntries : ledger.summary.entryCount = (openEvents ledger.events).length
  totalExits : ledger.summary.exitCount = (closeEvents ledger.events).length

private theorem netQuantity_of_side {lots : List MutableLot} {side : PaperLedgerSide}
    (h : ∀ lot ∈ lots, lot.side = side) :
    netQuantity lots = side.sign * (lots.map MutableLot.remainingSize).sum := by
  rw [netQuantity, ← List.sum_map_mul_left]
  congr 1
  apply List.map_congr_left
  intro lot hlot
  rw [h lot hlot]

/-- The position that lots make: none, or one of their side, size and fees. -/
theorem positionFromLots_unrounded {lots : List MutableLot} (h : LotsInvariant lots)
    (asset : String) :
    (lots = [] ∧ positionFromLots .unrounded asset lots = []) ∨
    ∃ position, positionFromLots .unrounded asset lots = [position] ∧ position.asset = asset ∧
      position.lots = lots ∧ position.entryFeesRemaining = entryFees lots ∧
      position.quantity * (if position.side = .long then 1 else -1) = netQuantity lots := by
  have hall : lots.filter (fun lot => epsilon .unrounded < lot.remainingSize) = lots := by
    rw [List.filter_eq_self]
    intro lot hlot
    obtain ⟨n, hpos, hn⟩ := h.whole lot hlot
    rw [hn, decide_eq_true_eq, epsilon_lt_div]
    exact hpos
  unfold positionFromLots
  rw [hall]
  cases lots with
  | nil => exact .inl ⟨rfl, rfl⟩
  | cons first rest =>
    right
    refine ⟨_, rfl, rfl, ?_, sumBy_unrounded _ _, ?_⟩
    · simp
    · simp only [sumBy_unrounded, EngineArithmetic.unrounded_roundCrypto]
      rw [netQuantity_of_side h.side_eq, mul_comm]
      cases first.side <;> rfl

section Settled

variable {fills : List PaperLedgerFill} {state : LedgerState}

/-- The assets that fills trade. -/
def assetsOf (fills : List PaperLedgerFill) : Finset String :=
  (fills.map fun fill => normalizeAsset fill.asset).toFinset

private theorem mem_assetsOf {asset : String} :
    asset ∈ assetsOf fills ↔ ∃ fill ∈ fills, normalizeAsset fill.asset = asset := by
  simp [assetsOf]

private theorem mem_assetsOf_iff {asset : String} :
    asset ∈ assetsOf fills ↔ fillsOf asset fills ≠ [] := by
  rw [mem_assetsOf, fillsOf, ne_eq, List.filter_eq_nil_iff]
  simp

/-- The positions before they are sorted. -/
def openPositions (state : LedgerState) : List PaperLedgerPosition :=
  state.openLots.entries.flatMap fun (asset, lots) => positionFromLots .unrounded asset lots

variable (h : LedgerInvariant fills ⟨[], state, none⟩)

include h

private theorem settled (asset : String) : AssetAccounts (fillsOf asset fills) .nothing
    (state.view asset (state.lots asset)) := h.accounts asset

private theorem settledLots (asset : String) : LotsInvariant (state.lots asset) :=
  (settled h asset).lots

private theorem settledBook (asset : String) :
    ⟨unitQueue (state.lots asset), (state.summaryFor asset).realizedGrossPnl⟩ = fifo asset fills :=
  (settled h asset).book

private theorem get?_summaries_iff (asset : String) (summary : MutableAssetSummary) :
    state.summaries.get? asset = some summary ↔
      asset ∈ assetsOf fills ∧ summary = state.summaryFor asset := by
  rw [mem_assetsOf_iff, ← h.summaries, LedgerState.summaryFor]
  cases state.summaries.get? asset <;> simp [eq_comm]

private theorem get?_openLots_iff (asset : String) (lots : List MutableLot) :
    state.openLots.get? asset = some lots ↔
      asset ∈ assetsOf fills ∧ lots = state.lots asset := by
  have hkeys := h.openLots asset
  simp only [reduceCtorEq, false_and, exists_false, or_false] at hkeys
  rw [mem_assetsOf_iff, ← hkeys, LedgerState.lots]
  cases state.openLots.get? asset <;> simp [eq_comm]

private theorem mem_openPositions {position : PaperLedgerPosition} :
    position ∈ openPositions state ↔ ∃ asset ∈ assetsOf fills,
      position ∈ positionFromLots .unrounded asset (state.lots asset) := by
  rw [openPositions, List.mem_flatMap]
  constructor
  · rintro ⟨⟨asset, lots⟩, hentry, hposition⟩
    obtain ⟨hasset, rfl⟩ := (get?_openLots_iff h asset lots).mp (Rows.mem_entries_iff.mp hentry)
    exact ⟨asset, hasset, hposition⟩
  · rintro ⟨asset, hasset, hposition⟩
    exact ⟨(asset, _), Rows.mem_entries_iff.mpr ((get?_openLots_iff h asset _).mpr ⟨hasset, rfl⟩),
      hposition⟩

private theorem openPosition_facts {position : PaperLedgerPosition}
    (hposition : position ∈ openPositions state) :
    position.lots = state.lots position.asset ∧
      position.entryFeesRemaining = entryFees position.lots ∧
      position.quantity * (if position.side = .long then 1 else -1) =
        netQuantity position.lots := by
  obtain ⟨asset, -, hmem⟩ := (mem_openPositions h).mp hposition
  rcases positionFromLots_unrounded (settledLots h asset) asset with ⟨-, hnone⟩ | ⟨_, hone, hfacts⟩
  · rw [hnone] at hmem
    cases hmem
  · rw [hone] at hmem
    obtain rfl := List.mem_singleton.mp hmem
    obtain ⟨rfl, hlots, hfees, hquantity⟩ := hfacts
    exact ⟨hlots, hlots ▸ hfees, hlots ▸ hquantity⟩

/-- What an asset shows as open is what its lots hold. -/
private theorem openQuantity_eq {positions : List PaperLedgerPosition}
    (hperm : positions.Perm (openPositions state)) {asset : String}
    (hasset : asset ∈ assetsOf fills)
    (summary : MutableAssetSummary) :
    (assetSummary .unrounded summary (positions.find? (·.asset = asset))).openQuantity =
      netQuantity (state.lots asset) := by
  cases hfind : positions.find? (·.asset = asset) with
  | none =>
    rcases positionFromLots_unrounded (settledLots h asset) asset with
      ⟨hempty, -⟩ | ⟨position, hone, hname, -⟩
    · rw [hempty]
      rfl
    · have hmem : position ∈ openPositions state :=
        (mem_openPositions h).mpr ⟨asset, hasset, by
          rw [hone]
          exact List.mem_singleton_self position⟩
      have hnone := List.find?_eq_none.mp hfind position (hperm.mem_iff.mpr hmem)
      simp [hname] at hnone
  | some position =>
    have hname : position.asset = asset := by simpa using List.find?_some hfind
    obtain ⟨hlots, -, hquantity⟩ :=
      openPosition_facts h (hperm.mem_iff.mp (List.mem_of_find?_eq_some hfind))
    rw [hlots, hname] at hquantity
    exact hquantity

private theorem sum_openPositions :
    ((openPositions state).map PaperLedgerPosition.entryFeesRemaining).sum =
      ∑ asset ∈ assetsOf fills, entryFees (state.lots asset) := by
  rw [← Rows.total_eq_sum entryFees (get?_openLots_iff h), openPositions, List.map_flatMap,
    List.flatMap, List.sum_flatten, List.map_map, Rows.total]
  congr 1
  apply List.map_congr_left
  rintro ⟨asset, lots⟩ hentry
  obtain ⟨-, rfl⟩ := (get?_openLots_iff h asset lots).mp (Rows.mem_entries_iff.mp hentry)
  rcases positionFromLots_unrounded (settledLots h asset) asset with
    ⟨hempty, hnone⟩ | ⟨position, hone, -, -, hfees, -⟩
  · simp only [Function.comp_apply, hempty]
    rfl
  · simpa [hone] using hfees

/-- The fees of close events, one asset after the other. -/
private theorem sum_closeFees :
    closeFees state.events =
      ∑ asset ∈ assetsOf fills, closeFees (state.events.filter (·.asset = asset)) := by
  rw [closeFees, List.sum_map_eq_sum_filter PaperLedgerEvent.asset PaperLedgerEvent.fees]
  · apply Finset.sum_congr rfl
    intro asset _
    rw [closeFees, closeEvents, closeEvents, List.filter_comm]
  · intro event hevent
    exact mem_assetsOf_iff.mpr (h.events event (List.mem_of_mem_filter hevent)).1

omit h in
private theorem sum_fillFees :
    fillFees fills = ∑ asset ∈ assetsOf fills, fillFees (fillsOf asset fills) :=
  List.sum_map_eq_sum_filter _ _ fun fill hfill => mem_assetsOf.mpr ⟨fill, hfill, rfl⟩

/-- Close events and open lots share out the fees of all fills. -/
private theorem closeFees_add_entryFees :
    closeFees state.events +
      ((openPositions state).map PaperLedgerPosition.entryFeesRemaining).sum = fillFees fills := by
  rw [sum_closeFees h, sum_openPositions h, sum_fillFees, ← Finset.sum_add_distrib]
  apply Finset.sum_congr rfl
  intro asset _
  have hfees := (settled h asset).fees
  rw [(settled h asset).charged] at hfees
  simpa [LedgerState.view, Outstanding.nothing] using hfees

variable (js : Runtime)

private theorem mem_assets {summary : PaperLedgerAssetSummary} :
    summary ∈ (ledgerOf js .unrounded fills state).assets ↔ ∃ asset ∈ assetsOf fills,
      summary = assetSummary .unrounded (state.summaryFor asset)
        ((ledgerOf js .unrounded fills state).positions.find? (·.asset = asset)) := by
  rw [ledgerOf, (Sorting.perm_sortBy _ _).mem_iff, List.mem_map]
  constructor
  · rintro ⟨row, hrow, rfl⟩
    obtain ⟨asset, hget⟩ := Rows.mem_rows_iff.mp hrow
    obtain ⟨hasset, rfl⟩ := (get?_summaries_iff h asset row).mp hget
    refine ⟨asset, hasset, ?_⟩
    simp only [show (state.summaryFor asset).asset = asset from h.named asset]
  · rintro ⟨asset, hasset, rfl⟩
    refine ⟨state.summaryFor asset, Rows.mem_rows_iff.mpr ⟨asset,
      (get?_summaries_iff h asset _).mpr ⟨hasset, rfl⟩⟩, ?_⟩
    simp only [show (state.summaryFor asset).asset = asset from h.named asset]

private theorem nodup_assets :
    ((ledgerOf js .unrounded fills state).assets.map PaperLedgerAssetSummary.asset).Nodup := by
  rw [ledgerOf, ((Sorting.perm_sortBy _ _).map _).nodup_iff, List.map_map]
  have hkeys : state.summaries.rows.map (fun summary => summary.asset) =
      state.summaries.entries.map Prod.fst := by
    rw [Rows.rows, List.map_map]
    apply List.map_congr_left
    rintro ⟨asset, row⟩ hentry
    obtain ⟨-, rfl⟩ := (get?_summaries_iff h asset row).mp (Rows.mem_entries_iff.mp hentry)
    exact h.named asset
  exact hkeys ▸ state.summaries.nodup

private theorem exists_mem_assets (asset : String) :
    (∃ summary ∈ (ledgerOf js .unrounded fills state).assets, summary.asset = asset) ↔
      asset ∈ assetsOf fills := by
  constructor
  · rintro ⟨summary, hsummary, rfl⟩
    obtain ⟨asset, hasset, rfl⟩ := (mem_assets h js).mp hsummary
    rwa [show (assetSummary .unrounded (state.summaryFor asset) _).asset = asset from h.named asset]
  · intro hasset
    exact ⟨_, (mem_assets h js).mpr ⟨asset, hasset, rfl⟩, h.named asset⟩

private theorem sum_assets (g : String → ℚ) :
    ((ledgerOf js .unrounded fills state).assets.map fun summary => g summary.asset).sum =
      ∑ asset ∈ assetsOf fills, g asset := by
  have hset : ((ledgerOf js .unrounded fills state).assets.map
      PaperLedgerAssetSummary.asset).toFinset = assetsOf fills := by
    ext asset
    rw [List.mem_toFinset, List.mem_map, exists_mem_assets h js]
  rw [← hset, List.sum_toFinset g (nodup_assets h js), List.map_map]
  rfl

/-- The ledger made of the last state shows the accounts. -/
theorem ledgerAccounts_of_settled : LedgerAccounts fills (ledgerOf js .unrounded fills state) := by
  have hperm : (ledgerOf js .unrounded fills state).positions.Perm (openPositions state) :=
    Sorting.perm_sortBy _ _
  have hfees : ((ledgerOf js .unrounded fills state).positions.map
      PaperLedgerPosition.entryFeesRemaining).sum =
      ((ledgerOf js .unrounded fills state).positions.map fun position =>
        entryFees position.lots).sum := by
    congr 1
    apply List.map_congr_left
    intro position hposition
    exact (openPosition_facts h (hperm.mem_iff.mp hposition)).2.1
  have hprofit : ∀ summary ∈ (ledgerOf js .unrounded fills state).assets,
      summary.realizedGrossPnl = (fifo summary.asset fills).profit := by
    intro summary hsummary
    obtain ⟨asset, -, rfl⟩ := (mem_assets h js).mp hsummary
    simp only [assetSummary, show (state.summaryFor asset).asset = asset from h.named asset]
    exact congrArg FifoBook.profit (settledBook h asset)
  have hnet : ∀ summary ∈ (ledgerOf js .unrounded fills state).assets,
      summary.realizedNetPnl = summary.realizedGrossPnl -
        closeFees (state.events.filter (·.asset = summary.asset)) := by
    intro summary hsummary
    obtain ⟨asset, -, rfl⟩ := (mem_assets h js).mp hsummary
    simp only [assetSummary, show (state.summaryFor asset).asset = asset from h.named asset]
    exact (settled h asset).net
  constructor
  · exact nodup_assets h js
  · intro asset
    rw [← mem_assetsOf, exists_mem_assets h js]
  · intro summary hsummary
    obtain ⟨asset, hasset, rfl⟩ := (mem_assets h js).mp hsummary
    have hquantity := (settled h asset).quantity
    rw [(settled h asset).bought, (settled h asset).sold] at hquantity
    rw [openQuantity_eq h hperm hasset,
      show (assetSummary .unrounded (state.summaryFor asset) _).asset = asset from h.named asset,
      ← hquantity]
    simp [Outstanding.nothing, LedgerState.view]
  · exact hprofit
  · rw [← List.map_congr_left hprofit]
    exact sumBy_unrounded _ _
  · intro position hposition
    have hlots := (openPosition_facts h (hperm.mem_iff.mp hposition)).1
    rw [hlots]
    exact congrArg FifoBook.queue (settledBook h position.asset)
  · rw [← hfees, (hperm.map _).sum_eq]
    exact closeFees_add_entryFees h
  · exact h.charged
  · exact (sumBy_unrounded _ _).trans hfees
  · exact hnet
  · have hsum := sum_assets h js fun asset => closeFees (state.events.filter (·.asset = asset))
    rw [← sum_closeFees h] at hsum
    have hgross := congrArg List.sum (List.map_congr_left fun summary hsummary =>
      (eq_sub_iff_add_eq.mp (hnet summary hsummary)).symm)
    rw [List.sum_map_add, hsum] at hgross
    refine (sumBy_unrounded _ _).trans (eq_sub_iff_add_eq.mpr ?_)
    exact hgross.symm.trans (sumBy_unrounded _ _).symm
  · intro summary hsummary
    obtain ⟨asset, -, rfl⟩ := (mem_assets h js).mp hsummary
    simp only [assetSummary, show (state.summaryFor asset).asset = asset from h.named asset]
    exact (settled h asset).entries
  · intro summary hsummary
    obtain ⟨asset, -, rfl⟩ := (mem_assets h js).mp hsummary
    simp only [assetSummary, show (state.summaryFor asset).asset = asset from h.named asset]
    exact (settled h asset).exits
  · apply congrArg List.length
    apply List.filter_congr
    intro event hevent
    exact (h.events event hevent).2.1
  · apply congrArg List.length
    apply List.filter_congr
    intro event hevent
    exact (h.events event hevent).2.2

end Settled

/-! ## Every ledger -/

/-- Lots lie on one side, in the order in which they were opened, and the oldest goes first. -/
structure LedgerMoment.InOrder (moment : LedgerMoment) : Prop where
  oneSided : ∀ asset, ∃ side, ∀ lot ∈ moment.lots asset, lot.side = side
  order : ∀ asset, (moment.lots asset).map MutableLot.sourceTradeId <:+
    (openEvents (moment.state.events.filter (·.asset = asset))).map PaperLedgerEvent.fillTradeId
  oldest : ∀ progress index lot, moment.progress = some progress →
    progress.nextLot .unrounded = some (index, lot) → index = 0

private theorem LedgerInvariant.inOrder {done : List PaperLedgerFill} {moment : LedgerMoment}
    (h : LedgerInvariant done moment) : moment.InOrder where
  oneSided asset := (h.accounts asset).lots.oneSided
  order asset := (h.accounts asset).order
  oldest := by
    obtain ⟨coming, state, _⟩ := moment
    rintro progress index lot rfl hnext
    exact (FillProgress.nextLot_eq_some h.busy.lots (h.progress progress rfl) hnext).1

private theorem fillInvariant_of_mem_ledgerFills (js : Runtime)
    {rawFills : List PaperLedgerFillInput}
    (hsizes : ∀ fill ∈ rawFills, isValidFill fill → ∃ n : ℕ, fill.size = n / 10 ^ 8) :
    ∀ fill ∈ ledgerFills js .unrounded rawFills, FillInvariant fill := by
  intro fill hfill
  obtain ⟨raw, hraw, rfl⟩ := List.mem_map.mp ((perm_ledgerFills _ _ _).mem_iff.mp hfill)
  obtain ⟨hmem, hvalid⟩ := List.mem_filter.mp hraw
  have hpositive : 0 < positive raw.size := (of_decide_eq_true hvalid).2.2.2
  refine ⟨hsizes raw hmem hvalid, ?_, ?_⟩
  · unfold positive at hpositive
    split_ifs at hpositive with hsize
    · exact hsize
    · exact absurd hpositive (lt_irrefl 0)
  · show 0 ≤ nonNegative raw.fees
    unfold nonNegative
    split_ifs with hfees
    · exact hfees.le
    · exact le_rfl

/-- Three units bought, then five sold at a higher price. -/
private def flippingFills : List PaperLedgerFillInput :=
  [⟨"a", "o1", "btc", .buy, 10, 3 / 10 ^ 8, 0, 3, "GHOST_FILL", "2026-01-01", "2026-01-01"⟩,
    ⟨"b", "o2", "btc", .sell, 12, 5 / 10 ^ 8, 0, 5, "GHOST_FILL", "2026-01-02", "2026-01-02"⟩]

end Yevow.Paper
