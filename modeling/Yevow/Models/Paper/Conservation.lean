import Yevow.Core.Collection.Support
import Yevow.Models.Paper.Accounts

/-!
# Conservation in the paper ledger

Every moment of the loop over the fills keeps the accounts of every asset balanced, so the
ledger shows the position, the profit, the fees and the counts that the fills amount to.
-/

namespace Yevow.Paper

open Engine (EngineArithmetic TradeSide)
open JavaScript (Runtime)

theorem epsilon_lt_div {n : ℕ} : epsilon .unrounded < (n : ℚ) / 10 ^ 8 ↔ 0 < n := by
  have heps : epsilon .unrounded = 1 / 10 ^ 10 := rfl
  rw [heps, div_lt_div_iff₀ (by norm_num) (by norm_num)]
  constructor
  · intro h
    rcases Nat.eq_zero_or_pos n with rfl | hpos
    · norm_num at h
    · exact hpos
  · intro hpos
    have hone : (1 : ℚ) ≤ n := by exact_mod_cast hpos
    linarith

/-! ## One round -/

namespace FillProgress

/-- A fill of whole units, some of which may be closed. -/
structure WellFormed (progress : FillProgress) : Prop where
  whole : ∃ n : ℕ, progress.remainingSize = n / 10 ^ 8
  positive : 0 < progress.originalSize

/-- What is left of a fill. -/
def outstanding (progress : FillProgress) : Outstanding where
  side := progress.fill.side
  price := progress.fill.price
  units := unitsOf progress.remainingSize
  fee := progress.fillFee * progress.remainingSize / progress.originalSize

variable {progress : FillProgress}

private theorem WellFormed.remainingSize_eq (h : progress.WellFormed) :
    progress.remainingSize = progress.outstanding.units / 10 ^ 8 := by
  obtain ⟨n, hn⟩ := h.whole
  rw [outstanding, hn, unitsOf_div]

/-- The loop goes on with the oldest lot. -/
theorem nextLot_eq_some (hlots : LotsInvariant progress.lots) (hwf : progress.WellFormed)
    {index : ℕ} {lot : MutableLot} (h : progress.nextLot .unrounded = some (index, lot)) :
    index = 0 ∧ 0 < progress.outstanding.units ∧ lot.side = closeSide progress.fill.side ∧
      ∃ later, progress.lots = lot :: later := by
  unfold nextLot at h
  split_ifs at h with hrest
  rw [not_le, hwf.remainingSize_eq, epsilon_lt_div] at hrest
  obtain ⟨found, hfound, h⟩ := Option.bind_eq_some_iff.mp h
  obtain ⟨foundLot, hget, h⟩ := Option.bind_eq_some_iff.mp h
  obtain ⟨rfl, rfl⟩ := Prod.mk.inj (Option.some.inj h)
  obtain ⟨hlt, hmatch, -⟩ := List.findIdx?_eq_some_iff_getElem.mp hfound
  have hside : foundLot.side = closeSide progress.fill.side := by
    rw [List.getElem?_eq_getElem hlt] at hget
    rw [← Option.some.inj hget]
    exact (of_decide_eq_true hmatch).1
  obtain ⟨first, later, hcons⟩ := List.exists_cons_of_length_pos (Nat.zero_lt_of_lt hlt)
  have hinv := hcons ▸ hlots
  have hfirst : first.side = closeSide progress.fill.side := by
    rw [← hside, hinv.side_eq foundLot (hcons ▸ List.mem_of_getElem? hget)]
  obtain ⟨n, hpos, hn⟩ := hinv.whole first List.mem_cons_self
  rw [hcons, List.findIdx?_cons, if_pos (by simp [hfirst, hn, epsilon_lt_div.mpr hpos])] at hfound
  obtain rfl := Option.some.inj hfound
  rw [hcons, List.getElem?_cons_zero] at hget
  obtain rfl := Option.some.inj hget
  exact ⟨rfl, hrest, hfirst, later, hcons⟩

/-- The loop ends with nothing left of the fill or no lot of the other side. -/
theorem nextLot_eq_none (hlots : LotsInvariant progress.lots) (hwf : progress.WellFormed)
    (h : progress.nextLot .unrounded = none) :
    progress.outstanding.units = 0 ∨
      ∀ lot ∈ progress.lots, lot.side = openSide progress.fill.side := by
  unfold nextLot at h
  split_ifs at h with hrest
  · left
    rw [← not_lt, hwf.remainingSize_eq, epsilon_lt_div] at hrest
    omega
  · right
    intro lot hlot
    cases hfound : progress.lots.findIdx? (fun lot =>
        lot.side = closeSide progress.fill.side ∧ epsilon .unrounded < lot.remainingSize) with
    | none =>
      have hnone := List.findIdx?_eq_none_iff.mp hfound lot hlot
      obtain ⟨n, hpos, hn⟩ := hlots.whole lot hlot
      have hne : lot.side ≠ closeSide progress.fill.side := by
        intro hside
        simp [hside, hn, epsilon_lt_div.mpr hpos] at hnone
      cases hlotSide : lot.side <;> cases hfillSide : progress.fill.side <;>
        simp_all [openSide, closeSide]
    | some index =>
      obtain ⟨hlt, -⟩ := List.findIdx?_eq_some_iff_getElem.mp hfound
      rw [hfound] at h
      simp [List.getElem?_eq_getElem hlt] at h

/-- What a close of a lot amounts to in units. -/
structure Closes (progress : FillProgress) (lot : MutableLot) (k m : ℕ) (close : LotClose) :
    Prop where
  rest : progress.remainingSize - close.closeSize = (progress.outstanding.units - k : ℕ) / 10 ^ 8
  left : lot.remainingSize - close.closeSize = m / 10 ^ 8
  profit : close.grossPnl =
    k * OpenUnit.profit ⟨lot.side, lot.entryPrice⟩ progress.fill.price
  spent : m = 0 → lot.entryFeesRemaining - close.entryFeeAllocated = 0
  fee : progress.fillFee * (progress.remainingSize - close.closeSize) / progress.originalSize =
    progress.outstanding.fee - close.exitFeeAllocated

private theorem closes_close (hwf : progress.WellFormed) {lot : MutableLot} {k m : ℕ}
    (hlot : lot.remainingSize = (k + m : ℕ) / 10 ^ 8) (hpos : 0 < k + m)
    (hk : k = min progress.outstanding.units (k + m)) :
    progress.Closes lot k m (progress.close .unrounded lot) := by
  have hrest := hwf.remainingSize_eq
  have hle : k ≤ progress.outstanding.units := hk.trans_le (min_le_left _ _)
  have hsize : min progress.remainingSize lot.remainingSize = k / 10 ^ 8 := by
    rw [hrest, hlot, min_div_div_right (by norm_num), ← Nat.cast_min, ← hk]
  constructor
  · simp only [close, hsize]
    rw [hrest, Nat.cast_sub hle]
    ring
  · simp only [close, hsize]
    rw [hlot]
    push_cast
    ring
  · simp only [close, hsize, EngineArithmetic.unrounded_mul, EngineArithmetic.unrounded_sub]
    cases hside : lot.side with
    | long =>
      simp only [OpenUnit.profit]
      ring
    | short =>
      simp only [OpenUnit.profit]
      ring
  · rintro rfl
    have hne : (k : ℚ) / 10 ^ 8 ≠ 0 := by
      have hk0 : (k : ℚ) ≠ 0 := by exact_mod_cast hpos.ne'
      positivity
    simp only [close, hsize, EngineArithmetic.unrounded_mul, EngineArithmetic.unrounded_div]
    rw [hlot, Nat.add_zero, mul_div_cancel_right₀ _ hne, sub_self]
  · simp only [close, EngineArithmetic.unrounded_mul, EngineArithmetic.unrounded_div, outstanding]
    ring

end FillProgress

/-- The part of the ledger that concerns one asset. -/
def LedgerState.view (state : LedgerState) (asset : String) (lots : List MutableLot) : AssetView :=
  ⟨lots, state.summaryFor asset, state.events.filter (·.asset = asset)⟩

@[simp] theorem summaryFor_set (state : LedgerState) (key asset : String)
    (summary : MutableAssetSummary) (lots : Rows String (List MutableLot))
    (events : List PaperLedgerEvent) (notional fees : ℚ) :
    LedgerState.summaryFor ⟨lots, state.summaries.set key summary, events, notional, fees⟩ asset =
      if asset = key then summary else state.summaryFor asset := by
  rw [LedgerState.summaryFor, Rows.get?_set]
  split_ifs <;> rfl

/-- A round keeps the accounts of the fill's asset balanced. -/
theorem closeOnce_accounts {fills : List PaperLedgerFill} {state next : LedgerState}
    {progress nextProgress : FillProgress}
    (h : closeOnce .unrounded (state, progress) = some (next, nextProgress))
    (hwf : progress.WellFormed)
    (haccounts : AssetAccounts fills progress.outstanding
      (state.view progress.asset progress.lots)) :
    nextProgress.WellFormed ∧
      (nextProgress.lots.length < progress.lots.length ∨ nextProgress.outstanding.units = 0) ∧
      AssetAccounts fills nextProgress.outstanding
        (next.view progress.asset nextProgress.lots) := by
  rw [closeOnce] at h
  cases hnext : progress.nextLot .unrounded with
  | none => simp [hnext] at h
  | some found =>
    obtain ⟨index, lot⟩ := found
    obtain ⟨rfl, hpos, hside, later, hlots⟩ := FillProgress.nextLot_eq_some haccounts.lots hwf hnext
    simp only [hnext] at h
    obtain ⟨rfl, rfl⟩ := Prod.mk.inj (Option.some.inj h)
    obtain ⟨n, hn, hsize⟩ := haccounts.lots.whole lot (by simp [LedgerState.view, hlots])
    have hkn : min progress.outstanding.units n ≤ n := min_le_right _ n
    obtain ⟨m, hm⟩ := Nat.exists_eq_add_of_le hkn
    have hcloses := FillProgress.closes_close hwf (hm ▸ hsize) (hm ▸ hn) (by rw [← hm])
    have hk : min progress.outstanding.units n ≤ progress.outstanding.units := min_le_left _ n
    have hend : m = 0 ∨ min progress.outstanding.units n = progress.outstanding.units := by omega
    generalize progress.close .unrounded lot = close at *
    generalize min progress.outstanding.units n = k at *
    subst hm
    have hempty : (lot.afterClose .unrounded close).remainingSize ≤ epsilon .unrounded ↔
        m = 0 := by
      rw [← not_lt, MutableLot.afterClose]
      simp only [EngineArithmetic.unrounded_roundCrypto, EngineArithmetic.unrounded_sub,
        hcloses.left, epsilon_lt_div]
      omega
    have hlots' : (if (lot.afterClose .unrounded close).remainingSize ≤ epsilon .unrounded
        then progress.lots.eraseIdx 0 else progress.lots.set 0 (lot.afterClose .unrounded close)) =
        if m = 0 then later else lot.afterClose .unrounded close :: later := by
      rw [hlots]
      exact if_congr hempty rfl rfl
    have hrest : (FillProgress.outstanding
        { progress with
          lots := if m = 0 then later else lot.afterClose .unrounded close :: later
          remainingSize := progress.remainingSize - close.closeSize
          closeIndex := progress.closeIndex + 1 }) =
        { progress.outstanding with
          units := progress.outstanding.units - k
          fee := progress.outstanding.fee - close.exitFeeAllocated } := by
      rw [FillProgress.outstanding, Outstanding.mk.injEq]
      refine ⟨rfl, rfl, ?_, hcloses.fee⟩
      rw [hcloses.rest, unitsOf_div]
    have hevent := haccounts.close hlots hside hk hsize hend (lot.afterClose .unrounded close)
      ⟨rfl, rfl, hcloses.left⟩ rfl close.exitFeeAllocated
      (closeEvent .unrounded progress lot close
        (if m = 0 then later else lot.afterClose .unrounded close :: later))
      rfl hcloses.profit (by
        simp only [closeEvent, MutableLot.afterClose, EngineArithmetic.unrounded_roundCrypto,
          EngineArithmetic.unrounded_sub, EngineArithmetic.unrounded_add]
        ring) (sub_sub _ _ _) hcloses.spent
    rw [← hrest] at hevent
    have hprogress : (if m = 0 then later else lot.afterClose .unrounded close :: later).length <
        progress.lots.length ∨ progress.outstanding.units - k = 0 := by
      rw [hlots, List.length_cons]
      rcases hend with rfl | hk
      · left
        rw [if_pos rfl]
        exact Nat.lt_succ_self _
      · right
        omega
    refine ⟨⟨⟨_, hcloses.rest⟩, hwf.positive⟩, ?_, ?_⟩
    · simp only [hlots']
      exact hprogress.imp_right (congrArg Outstanding.units hrest).trans
    · simp only [hlots', LedgerState.view, summaryFor_set, if_pos, List.filter_append]
      have hfilter : [closeEvent .unrounded progress lot close
          (if m = 0 then later else lot.afterClose .unrounded close :: later)].filter
            (·.asset = progress.asset) = [closeEvent .unrounded progress lot close
          (if m = 0 then later else lot.afterClose .unrounded close :: later)] := by
        simp [closeEvent]
      rw [hfilter]
      exact hevent

/-! ## Every moment -/

namespace LedgerMoment

/-- What is left of the fill in progress, if it is of the asset. -/
def outstanding (moment : LedgerMoment) (asset : String) : Outstanding :=
  match moment.progress with
  | some progress => if progress.asset = asset then progress.outstanding else .nothing
  | none => .nothing

/-- An asset and its lots. -/
def view (moment : LedgerMoment) (asset : String) : AssetView :=
  moment.state.view asset (moment.lots asset)

end LedgerMoment

/-- What holds at a moment at which a list of fills has been taken up. -/
structure LedgerInvariant (done : List PaperLedgerFill) (moment : LedgerMoment) : Prop where
  accounts : ∀ asset,
    AssetAccounts (fillsOf asset done) (moment.outstanding asset) (moment.view asset)
  progress : ∀ progress, moment.progress = some progress → progress.WellFormed
  named : ∀ asset, (moment.state.summaryFor asset).asset = asset
  summaries : ∀ asset,
    (moment.state.summaries.get? asset).isSome ↔ fillsOf asset done ≠ []
  openLots : ∀ asset, ((moment.state.openLots.get? asset).isSome ∨
    ∃ progress, moment.progress = some progress ∧ progress.asset = asset) ↔ fillsOf asset done ≠ []
  events : ∀ event ∈ moment.state.events, fillsOf event.asset done ≠ [] ∧
    isEntryEvent event.type = event.exitPrice.isNone ∧
    isExitEvent event.type = event.exitPrice.isSome
  charged : moment.state.totalFees = fillFees done

/-- The accounts of the asset whose fill is in progress. -/
theorem LedgerInvariant.busy {done coming : List PaperLedgerFill} {state : LedgerState}
    {progress : FillProgress} (h : LedgerInvariant done ⟨coming, state, some progress⟩) :
    AssetAccounts (fillsOf progress.asset done) progress.outstanding
      (state.view progress.asset progress.lots) := by
  have hprogress := h.accounts progress.asset
  simpa [LedgerMoment.outstanding, LedgerMoment.view, LedgerMoment.lots] using hprogress

/-- The ledger before its first fill. -/
theorem LedgerInvariant.start (fills : List PaperLedgerFill) :
    LedgerInvariant [] (.start fills) where
  accounts := AssetAccounts.initial
  progress _ h := nomatch h
  named _ := rfl
  summaries _ := by simp [LedgerMoment.start, LedgerState.initial, fillsOf]
  openLots _ := by simp [LedgerMoment.start, LedgerState.initial, fillsOf]
  events _ h := nomatch h
  charged := rfl

/-- A fill as the ledger takes it: of whole units, at least one, and with no negative fee. -/
structure FillInvariant (fill : PaperLedgerFill) : Prop where
  whole : ∃ n : ℕ, fill.size = n / 10 ^ 8
  positive : 0 < fill.size
  fees : 0 ≤ fill.fees

private theorem positive_of_pos {value : ℚ} (h : 0 < value) : positive value = value := if_pos h

/-- A fill is begun. -/
theorem LedgerInvariant.take {done coming : List PaperLedgerFill} {fill : PaperLedgerFill}
    {state : LedgerState} (h : LedgerInvariant done ⟨fill :: coming, state, none⟩)
    (hfill : FillInvariant fill) :
    LedgerInvariant (done ++ [fill]) ⟨coming, (beginFill .unrounded state fill).1,
      some (beginFill .unrounded state fill).2⟩ := by
  obtain ⟨n, hn⟩ := hfill.whole
  have hfees := nonNegative_of_nonneg hfill.fees
  have hsize := positive_of_pos hfill.positive
  have hfills : ∀ asset, fillsOf asset (done ++ [fill]) ≠ [] ↔
      normalizeAsset fill.asset = asset ∨ fillsOf asset done ≠ [] := by
    intro asset
    rw [fillsOf_append]
    split_ifs with hasset <;> simp [hasset]
  constructor
  · intro asset
    have haccounts := h.accounts asset
    rw [fillsOf_append]
    by_cases hasset : normalizeAsset fill.asset = asset
    · have hrest : LedgerMoment.outstanding ⟨coming, (beginFill .unrounded state fill).1,
          some (beginFill .unrounded state fill).2⟩ asset =
            ⟨fill.side, fill.price, n, fill.fees⟩ := by
        simp only [LedgerMoment.outstanding, beginFill, FillProgress.outstanding, if_pos hasset,
          hfees, hsize, mul_div_cancel_right₀ _ hfill.positive.ne']
        rw [hn, unitsOf_div]
      have hview : LedgerMoment.view ⟨coming, (beginFill .unrounded state fill).1,
          some (beginFill .unrounded state fill).2⟩ asset =
          { LedgerMoment.view ⟨fill :: coming, state, none⟩ asset with
            summary := (LedgerMoment.view ⟨fill :: coming, state, none⟩ asset).summary.count
              .unrounded fill } := by
        subst hasset
        simp [LedgerMoment.view, LedgerMoment.lots, LedgerState.view, beginFill]
      rw [if_pos hasset, hrest, hview]
      exact haccounts.take hn hfill.fees
    · have hrest : LedgerMoment.outstanding ⟨coming, (beginFill .unrounded state fill).1,
          some (beginFill .unrounded state fill).2⟩ asset = .nothing := by
        simp [LedgerMoment.outstanding, beginFill, hasset]
      have hview : LedgerMoment.view ⟨coming, (beginFill .unrounded state fill).1,
          some (beginFill .unrounded state fill).2⟩ asset =
          LedgerMoment.view ⟨fill :: coming, state, none⟩ asset := by
        simp [LedgerMoment.view, LedgerMoment.lots, LedgerState.view, beginFill, hasset,
          Ne.symm hasset, LedgerState.lots]
      rw [if_neg hasset, hrest, hview]
      exact haccounts
  · rintro progress ⟨⟩
    exact ⟨⟨n, hsize.trans hn⟩, by simp only [beginFill, hsize, hfill.positive]⟩
  · intro asset
    simp only [beginFill, summaryFor_set]
    split_ifs with hasset
    · exact (h.named _).trans hasset.symm
    · exact h.named asset
  · intro asset
    rw [hfills, ← h.summaries]
    simp only [beginFill, Rows.get?_set]
    split_ifs with hasset
    · simp [hasset]
    · simp [Ne.symm hasset]
  · intro asset
    rw [hfills, ← h.openLots]
    simp [beginFill, or_comm]
  · intro event hevent
    obtain ⟨hasset, hkind⟩ := h.events event hevent
    exact ⟨(hfills _).mpr (.inr hasset), hkind⟩
  · have hcharged := h.charged
    simp only [beginFill, EngineArithmetic.unrounded_add, hfees, fillFees_append] at *
    rw [hcharged]
    simp [fillFees]

/-- What a round and the end of a fill change apart from the lots. -/
structure Records (asset : String) (state next : LedgerState) (summary : MutableAssetSummary)
    (event : PaperLedgerEvent) : Prop where
  summaries : next.summaries = state.summaries.set asset summary
  events : next.events = state.events ++ [event]
  charged : next.totalFees = state.totalFees
  named : summary.asset = (state.summaryFor asset).asset
  asset : event.asset = asset
  kind : isEntryEvent event.type = event.exitPrice.isNone ∧
    isExitEvent event.type = event.exitPrice.isSome

private theorem closeOnce_records {ar : EngineArithmetic} {state next : LedgerState}
    {progress nextProgress : FillProgress}
    (h : closeOnce ar (state, progress) = some (next, nextProgress)) :
    (∃ summary event, Records progress.asset state next summary event) ∧
      next.openLots = state.openLots ∧ nextProgress.asset = progress.asset := by
  rw [closeOnce] at h
  cases hnext : progress.nextLot ar with
  | none => simp [hnext] at h
  | some found =>
    simp only [hnext] at h
    obtain ⟨rfl, rfl⟩ := Prod.mk.inj (Option.some.inj h)
    refine ⟨⟨_, _, rfl, rfl, rfl, rfl, rfl, ?_⟩, rfl, rfl⟩
    simp only [closeEvent]
    split_ifs <;> exact ⟨rfl, rfl⟩

namespace Records

variable {asset other : String} {state next : LedgerState} {summary : MutableAssetSummary}
  {event : PaperLedgerEvent}

private theorem view_of_ne (h : Records asset state next summary event) (hne : other ≠ asset)
    (lots : List MutableLot) : next.view other lots = state.view other lots := by
  simp [LedgerState.view, LedgerState.summaryFor, h.summaries, h.events, Rows.get?_set, hne,
    h.asset, hne.symm]

private theorem named_next (h : Records asset state next summary event)
    (hstate : ∀ asset, (state.summaryFor asset).asset = asset) (other : String) :
    (next.summaryFor other).asset = other := by
  rw [LedgerState.summaryFor, h.summaries, Rows.get?_set]
  split_ifs with heq
  · rw [heq]
    exact h.named.trans (hstate asset)
  · exact hstate other

private theorem isSome_summaries (h : Records asset state next summary event)
    (hasset : (state.summaries.get? asset).isSome) (other : String) :
    (next.summaries.get? other).isSome ↔ (state.summaries.get? other).isSome := by
  rw [h.summaries, Rows.get?_set]
  split_ifs with heq
  · rw [heq]
    exact iff_of_true rfl hasset
  · rfl

end Records

/-- A fill closes the oldest lot against it. -/
theorem LedgerInvariant.close {done coming : List PaperLedgerFill} {state next : LedgerState}
    {progress nextProgress : FillProgress}
    (h : LedgerInvariant done ⟨coming, state, some progress⟩)
    (hclose : closeOnce .unrounded (state, progress) = some (next, nextProgress)) :
    LedgerInvariant done ⟨coming, next, some nextProgress⟩ := by
  obtain ⟨⟨summary, event, hrecords⟩, hopen, hasset⟩ := closeOnce_records hclose
  have hfills : fillsOf progress.asset done ≠ [] :=
    (h.openLots progress.asset).mp (.inr ⟨progress, rfl, rfl⟩)
  have haccounts := h.busy
  obtain ⟨hwf, -, hnext⟩ := closeOnce_accounts hclose (h.progress progress rfl) haccounts
  constructor
  · intro asset
    by_cases heq : progress.asset = asset
    · subst heq
      simpa [LedgerMoment.outstanding, LedgerMoment.view, LedgerMoment.lots, hasset] using hnext
    · have hother := h.accounts asset
      simp only [LedgerMoment.outstanding, LedgerMoment.view, LedgerMoment.lots, hasset,
        if_neg heq] at hother ⊢
      rw [hrecords.view_of_ne (Ne.symm heq), LedgerState.lots, hopen]
      exact hother
  · rintro _ ⟨⟩
    exact hwf
  · exact hrecords.named_next h.named
  · intro asset
    exact (hrecords.isSome_summaries ((h.summaries _).mpr hfills) asset).trans (h.summaries asset)
  · intro asset
    have hkeys := h.openLots asset
    simp only [Option.some.injEq, exists_eq_left', hopen, hasset] at hkeys ⊢
    exact hkeys
  · intro other hother
    rw [hrecords.events, List.mem_append, List.mem_singleton] at hother
    rcases hother with hold | rfl
    · exact h.events other hold
    · exact ⟨hrecords.asset ▸ hfills, hrecords.kind⟩
  · exact hrecords.charged.trans h.charged

private theorem closeOnce_eq_none {ar : EngineArithmetic} {state : LedgerState}
    {progress : FillProgress} (h : closeOnce ar (state, progress) = none) :
    progress.nextLot ar = none := by
  rw [closeOnce] at h
  cases hnext : progress.nextLot ar with
  | none => rfl
  | some found => simp [hnext] at h

/-- The rest of a fill opens a lot. -/
theorem LedgerInvariant.finish {done coming : List PaperLedgerFill} {state : LedgerState}
    {progress : FillProgress} (h : LedgerInvariant done ⟨coming, state, some progress⟩)
    (hend : closeOnce .unrounded (state, progress) = none) :
    LedgerInvariant done ⟨coming, finishFill .unrounded (state, progress), none⟩ := by
  have hwf := h.progress progress rfl
  have hfills : fillsOf progress.asset done ≠ [] :=
    (h.openLots progress.asset).mp (.inr ⟨progress, rfl, rfl⟩)
  have haccounts := h.busy
  have hlast := FillProgress.nextLot_eq_none haccounts.lots hwf (closeOnce_eq_none hend)
  have hkeys : ∀ lots asset, ((state.openLots.set progress.asset lots).get? asset).isSome ↔
      fillsOf asset done ≠ [] := by
    intro lots asset
    rw [← h.openLots asset, Rows.get?_set]
    split_ifs with heq
    · simp [heq]
    · simp [Ne.symm heq]
  have hothers : ∀ asset, asset ≠ progress.asset →
      AssetAccounts (fillsOf asset done) .nothing (state.view asset (state.lots asset)) := by
    intro asset hne
    have hother := h.accounts asset
    simpa [LedgerMoment.outstanding, LedgerMoment.view, LedgerMoment.lots, hne.symm] using hother
  simp only [finishFill]
  split_ifs with hleft
  · rw [hwf.remainingSize_eq, epsilon_lt_div] at hleft
    have hside := hlast.resolve_left hleft.ne'
    set lot := progress.openedLot .unrounded state.events.length with hlot
    set event := openEvent .unrounded progress lot (progress.lots ++ [lot])
    have hopening := haccounts.opening hleft hside lot rfl rfl hwf.remainingSize_eq rfl event rfl
      rfl
    set summary : MutableAssetSummary :=
      { state.summaryFor progress.asset with
        entryCount := (state.summaryFor progress.asset).entryCount + 1 } with hsummary
    have hrecords : Records progress.asset state
        { state with
          openLots := state.openLots.set progress.asset (progress.lots ++ [lot])
          summaries := state.summaries.set progress.asset summary
          events := state.events ++ [event] } summary event := by
      refine ⟨rfl, rfl, rfl, rfl, rfl, ?_⟩
      simp only [event, openEvent]
      split_ifs <;> exact ⟨rfl, rfl⟩
    constructor
    · intro asset
      by_cases heq : asset = progress.asset
      · subst heq
        simpa [LedgerMoment.outstanding, LedgerMoment.view, LedgerMoment.lots, LedgerState.lots,
          LedgerState.view, event, openEvent] using hopening
      · have hother := hothers asset heq
        simp only [LedgerMoment.outstanding, LedgerMoment.view, LedgerMoment.lots]
        rw [hrecords.view_of_ne heq, LedgerState.lots, Rows.get?_set, if_neg heq]
        exact hother
    · rintro _ ⟨⟩
    · exact hrecords.named_next h.named
    · intro asset
      exact (hrecords.isSome_summaries ((h.summaries _).mpr hfills) asset).trans
        (h.summaries asset)
    · intro asset
      simpa using hkeys (progress.lots ++ [lot]) asset
    · intro other hother
      rw [hrecords.events, List.mem_append, List.mem_singleton] at hother
      rcases hother with hold | rfl
      · exact h.events other hold
      · exact ⟨hrecords.asset ▸ hfills, hrecords.kind⟩
    · exact h.charged
  · rw [hwf.remainingSize_eq, epsilon_lt_div] at hleft
    have hunits : progress.outstanding.units = 0 := by omega
    have hfee : progress.outstanding.fee = 0 := by
      rw [FillProgress.outstanding, hwf.remainingSize_eq, hunits]
      simp
    constructor
    · intro asset
      by_cases heq : asset = progress.asset
      · subst heq
        have hrest := haccounts.exhausted hunits hfee
        simpa [LedgerMoment.outstanding, LedgerMoment.view, LedgerMoment.lots, LedgerState.lots,
          LedgerState.view, LedgerState.summaryFor] using hrest
      · have hother := hothers asset heq
        simp only [LedgerMoment.outstanding, LedgerMoment.view, LedgerMoment.lots,
          LedgerState.lots, Rows.get?_set, if_neg heq] at hother ⊢
        exact hother
    · rintro _ ⟨⟩
    · exact h.named
    · exact h.summaries
    · intro asset
      simpa using hkeys progress.lots asset
    · exact h.events
    · exact h.charged

end Yevow.Paper
