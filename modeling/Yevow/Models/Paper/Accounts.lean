import Mathlib.Tactic.FieldSimp
import Mathlib.Tactic.Linarith
import Mathlib.Tactic.Ring
import Yevow.Models.Paper.Fifo
import Yevow.Models.Paper.Processing

/-!
# The accounts of one asset

What the lots, the summary and the events of one asset say about the fills of that asset.
The accounts stay balanced while a fill is in progress if the units of it that are not
processed yet, and their share of its fee, are counted as well.
-/

namespace Yevow.Paper

open Engine (EngineArithmetic TradeSide)

/-- The sign of a side. -/
def PaperLedgerSide.sign : PaperLedgerSide → ℚ
  | .long => 1
  | .short => -1

/-- Lots of whole units, all on one side. -/
structure LotsInvariant (lots : List MutableLot) : Prop where
  whole : ∀ lot ∈ lots, ∃ n : ℕ, 0 < n ∧ lot.remainingSize = n / 10 ^ 8
  oneSided : ∃ side, ∀ lot ∈ lots, lot.side = side

/-- The signed size of the lots. -/
def netQuantity (lots : List MutableLot) : ℚ :=
  (lots.map fun lot => lot.side.sign * lot.remainingSize).sum

/-- The entry fees that the lots still carry. -/
def entryFees (lots : List MutableLot) : ℚ := (lots.map MutableLot.entryFeesRemaining).sum

/-- The events that close lots. -/
def closeEvents (events : List PaperLedgerEvent) : List PaperLedgerEvent :=
  events.filter (·.exitPrice.isSome)

/-- The events that open lots. -/
def openEvents (events : List PaperLedgerEvent) : List PaperLedgerEvent :=
  events.filter (·.exitPrice.isNone)

/-- The fees of the closes. -/
def closeFees (events : List PaperLedgerEvent) : ℚ :=
  ((closeEvents events).map PaperLedgerEvent.fees).sum

/-- The size that fills of a side have traded. -/
def tradedSize (side : TradeSide) (fills : List PaperLedgerFill) : ℚ :=
  ((fills.filter (·.side = side)).map PaperLedgerFill.size).sum

/-- The fees of the fills. -/
def fillFees (fills : List PaperLedgerFill) : ℚ := (fills.map PaperLedgerFill.fees).sum

/-- What the ledger keeps of one asset. -/
structure AssetView where
  lots : List MutableLot
  summary : MutableAssetSummary
  events : List PaperLedgerEvent

/-- The book that lots and profit of an asset stand for. -/
def AssetView.book (view : AssetView) : FifoBook :=
  ⟨unitQueue view.lots, view.summary.realizedGrossPnl⟩

/-- What of a fill is not processed yet. -/
structure Outstanding where
  side : TradeSide
  price : ℚ
  units : ℕ
  fee : ℚ

/-- Nothing is left of a fill. -/
def Outstanding.nothing : Outstanding := ⟨.buy, 0, 0, 0⟩

/-- The accounts of an asset agree with its fills. -/
structure AssetAccounts (fills : List PaperLedgerFill) (rest : Outstanding) (view : AssetView) :
    Prop where
  lots : LotsInvariant view.lots
  slots : view.lots.length ≤ fills.length
  slot : 0 < rest.units → view.lots.length < fills.length
  order : view.lots.map MutableLot.sourceTradeId <:+
    (openEvents view.events).map PaperLedgerEvent.fillTradeId
  book : (FifoBook.trade rest.side rest.price)^[rest.units] view.book =
    fills.foldl FifoBook.fill .empty
  quantity : netQuantity view.lots + (openSide rest.side).sign * (rest.units / 10 ^ 8) =
    view.summary.buySize - view.summary.sellSize
  fees : closeFees view.events + entryFees view.lots + rest.fee = view.summary.totalFees
  net : view.summary.realizedNetPnl = view.summary.realizedGrossPnl - closeFees view.events
  entries : view.summary.entryCount = (openEvents view.events).length
  exits : view.summary.exitCount = (closeEvents view.events).length
  bought : view.summary.buySize = tradedSize .buy fills
  sold : view.summary.sellSize = tradedSize .sell fills
  charged : view.summary.totalFees = fillFees fills

/-! ## Lots -/

@[simp] theorem netQuantity_nil : netQuantity [] = 0 := (rfl)

@[simp] theorem entryFees_nil : entryFees [] = 0 := (rfl)

@[simp] theorem netQuantity_cons (lot : MutableLot) (lots : List MutableLot) :
    netQuantity (lot :: lots) = lot.side.sign * lot.remainingSize + netQuantity lots := rfl

@[simp] theorem netQuantity_append (lots later : List MutableLot) :
    netQuantity (lots ++ later) = netQuantity lots + netQuantity later := by
  simp [netQuantity]

@[simp] theorem entryFees_cons (lot : MutableLot) (lots : List MutableLot) :
    entryFees (lot :: lots) = lot.entryFeesRemaining + entryFees lots := rfl

@[simp] theorem entryFees_append (lots later : List MutableLot) :
    entryFees (lots ++ later) = entryFees lots + entryFees later := by
  simp [entryFees]

private theorem unitQueue_cons {lot : MutableLot} {n : ℕ} (h : lot.remainingSize = n / 10 ^ 8)
    (later : List MutableLot) :
    unitQueue (lot :: later) = List.replicate n ⟨lot.side, lot.entryPrice⟩ ++ unitQueue later := by
  rw [unitQueue, List.flatMap_cons, h, unitsOf_div]
  rfl

private theorem unitQueue_append (lots later : List MutableLot) :
    unitQueue (lots ++ later) = unitQueue lots ++ unitQueue later := List.flatMap_append

private theorem side_of_mem_unitQueue {lots : List MutableLot} {side : PaperLedgerSide}
    (h : ∀ lot ∈ lots, lot.side = side) : ∀ unit ∈ unitQueue lots, unit.side = side := by
  intro unit hunit
  obtain ⟨lot, hlot, hmem⟩ := List.mem_flatMap.mp hunit
  rw [(List.mem_replicate.mp hmem).2]
  exact h lot hlot

private theorem LotsInvariant.nil : LotsInvariant [] where
  whole := by simp
  oneSided := ⟨.long, by simp⟩

private theorem LotsInvariant.tail {lot : MutableLot} {later : List MutableLot}
    (h : LotsInvariant (lot :: later)) : LotsInvariant later where
  whole other hother := h.whole other (List.mem_cons_of_mem _ hother)
  oneSided := by
    obtain ⟨side, hside⟩ := h.oneSided
    exact ⟨side, fun other hother => hside other (List.mem_cons_of_mem _ hother)⟩

/-- All lots are on the side of the first one. -/
theorem LotsInvariant.side_eq {lot : MutableLot} {later : List MutableLot}
    (h : LotsInvariant (lot :: later)) : ∀ other ∈ lot :: later, other.side = lot.side := by
  obtain ⟨side, hside⟩ := h.oneSided
  intro other hother
  rw [hside other hother, hside lot List.mem_cons_self]

private theorem LotsInvariant.cons {lot : MutableLot} {later : List MutableLot}
    (h : LotsInvariant later) (hlot : ∃ n : ℕ, 0 < n ∧ lot.remainingSize = n / 10 ^ 8)
    (hside : ∀ other ∈ later, other.side = lot.side) : LotsInvariant (lot :: later) where
  whole := by
    rintro other (_ | ⟨_, hother⟩)
    · exact hlot
    · exact h.whole other hother
  oneSided := by
    refine ⟨lot.side, ?_⟩
    rintro other (_ | ⟨_, hother⟩)
    · rfl
    · exact hside other hother

private theorem LotsInvariant.snoc {lot : MutableLot} {lots : List MutableLot}
    (h : LotsInvariant lots) (hlot : ∃ n : ℕ, 0 < n ∧ lot.remainingSize = n / 10 ^ 8)
    (hside : ∀ other ∈ lots, other.side = lot.side) : LotsInvariant (lots ++ [lot]) where
  whole := by
    intro other hother
    rcases List.mem_append.mp hother with hold | hnew
    · exact h.whole other hold
    · rw [List.mem_singleton.mp hnew]
      exact hlot
  oneSided := by
    refine ⟨lot.side, ?_⟩
    intro other hother
    rcases List.mem_append.mp hother with hold | hnew
    · exact hside other hold
    · rw [List.mem_singleton.mp hnew]

/-! ## Events -/

private theorem closeEvents_append (events later : List PaperLedgerEvent) :
    closeEvents (events ++ later) = closeEvents events ++ closeEvents later :=
  List.filter_append ..

private theorem openEvents_append (events later : List PaperLedgerEvent) :
    openEvents (events ++ later) = openEvents events ++ openEvents later :=
  List.filter_append ..

private theorem closeFees_append (events later : List PaperLedgerEvent) :
    closeFees (events ++ later) = closeFees events + closeFees later := by
  simp [closeFees, closeEvents_append]

/-- Fees add up over consecutive fills. -/
theorem fillFees_append (fills later : List PaperLedgerFill) :
    fillFees (fills ++ later) = fillFees fills + fillFees later := by
  simp [fillFees]

private theorem tradedSize_append (side : TradeSide) (fills later : List PaperLedgerFill) :
    tradedSize side (fills ++ later) = tradedSize side fills + tradedSize side later := by
  simp [tradedSize]

/-! ## Processing a fill -/

variable {fills : List PaperLedgerFill} {rest : Outstanding} {view : AssetView}

/-- An asset without fills. -/
theorem AssetAccounts.initial (asset : String) :
    AssetAccounts [] .nothing ⟨[], emptySummary asset, []⟩ where
  lots := .nil
  slots := le_rfl
  slot h := absurd h (lt_irrefl 0)
  order := List.suffix_rfl
  book := rfl
  quantity := by simp [Outstanding.nothing, emptySummary]
  fees := by simp [Outstanding.nothing, emptySummary, closeFees, closeEvents]
  net := by simp [emptySummary, closeFees, closeEvents]
  entries := rfl
  exits := rfl
  bought := rfl
  sold := rfl
  charged := rfl

theorem nonNegative_of_nonneg {value : ℚ} (h : 0 ≤ value) : nonNegative value = value := by
  unfold nonNegative
  split_ifs with hpos
  · rfl
  · exact le_antisymm h (not_lt.mp hpos)

/-- A fill is taken up: all of it is outstanding. -/
theorem AssetAccounts.take (h : AssetAccounts fills .nothing view) {fill : PaperLedgerFill}
    {n : ℕ} (hsize : fill.size = n / 10 ^ 8) (hfees : 0 ≤ fill.fees) :
    AssetAccounts (fills ++ [fill]) ⟨fill.side, fill.price, n, fill.fees⟩
      { view with summary := view.summary.count .unrounded fill } where
  lots := h.lots
  slots := by
    rw [List.length_append]
    exact h.slots.trans (Nat.le_add_right _ _)
  slot _ := by
    rw [List.length_append, List.length_singleton]
    exact Nat.lt_succ_of_le h.slots
  order := h.order
  book := by
    rw [List.foldl_append, ← h.book, List.foldl_cons, List.foldl_nil, FifoBook.fill, hsize,
      unitsOf_div]
    rfl
  quantity := by
    have hquantity := h.quantity
    cases hside : fill.side with
    | buy =>
      simp only [MutableAssetSummary.count, Outstanding.nothing, openSide, PaperLedgerSide.sign,
        hside, hsize, EngineArithmetic.unrounded_add] at *
      simp at *
      linarith
    | sell =>
      simp only [MutableAssetSummary.count, Outstanding.nothing, openSide, PaperLedgerSide.sign,
        hside, hsize, EngineArithmetic.unrounded_add] at *
      simp at *
      linarith
  fees := by
    have hbefore := h.fees
    simp only [MutableAssetSummary.count, Outstanding.nothing,
      EngineArithmetic.unrounded_add, nonNegative_of_nonneg hfees] at *
    linarith
  net := h.net
  entries := h.entries
  exits := h.exits
  bought := by
    have hbought := h.bought
    simp only [MutableAssetSummary.count, tradedSize_append, EngineArithmetic.unrounded_add]
    rw [hbought]
    cases hside : fill.side <;> simp [tradedSize, hside]
  sold := by
    have hsold := h.sold
    simp only [MutableAssetSummary.count, tradedSize_append, EngineArithmetic.unrounded_add]
    rw [hsold]
    cases hside : fill.side <;> simp [tradedSize, hside]
  charged := by
    have hcharged := h.charged
    simp only [MutableAssetSummary.count, fillFees_append, EngineArithmetic.unrounded_add,
      nonNegative_of_nonneg hfees]
    rw [hcharged]
    simp [fillFees]

/-- What is left of a fill opens a lot behind those of its own side. -/
theorem AssetAccounts.opening (h : AssetAccounts fills rest view) (hpos : 0 < rest.units)
    (hside : ∀ lot ∈ view.lots, lot.side = openSide rest.side) (lot : MutableLot)
    (hlot : lot.side = openSide rest.side) (hprice : lot.entryPrice = rest.price)
    (hsize : lot.remainingSize = rest.units / 10 ^ 8) (hfee : lot.entryFeesRemaining = rest.fee)
    (event : PaperLedgerEvent) (hevent : event.exitPrice = none)
    (hsource : event.fillTradeId = lot.sourceTradeId) :
    AssetAccounts fills .nothing
      ⟨view.lots ++ [lot], { view.summary with entryCount := view.summary.entryCount + 1 },
        view.events ++ [event]⟩ where
  lots := by
    apply h.lots.snoc ⟨rest.units, hpos, hsize⟩
    rw [hlot]
    exact hside
  slots := by
    rw [List.length_append, List.length_singleton]
    exact h.slot hpos
  slot hnone := absurd hnone (lt_irrefl 0)
  order := by
    rw [openEvents_append, List.map_append, List.map_append]
    have hopened : (openEvents [event]).map PaperLedgerEvent.fillTradeId = [lot.sourceTradeId] := by
      simp [openEvents, hevent, hsource]
    rw [hopened]
    exact List.suffix_append_inj_of_length_eq rfl |>.mpr ⟨h.order, rfl⟩
  book := by
    have hbook := h.book
    rw [AssetView.book, FifoBook.trade_iterate_open rest.units (side_of_mem_unitQueue hside)]
      at hbook
    rw [← hbook, AssetView.book, unitQueue_append, unitQueue_cons hsize, hlot, hprice]
    simp [unitQueue, Outstanding.nothing]
  quantity := by
    have hquantity := h.quantity
    simp only [netQuantity_append, netQuantity_cons, netQuantity_nil, hlot, hsize,
      Outstanding.nothing]
    rw [Nat.cast_zero, zero_div, mul_zero, add_zero, add_zero]
    exact hquantity
  fees := by
    have hfees := h.fees
    simp only [closeFees_append, entryFees_append, entryFees_cons, entryFees_nil, hfee,
      Outstanding.nothing]
    simp [closeFees, closeEvents, hevent] at *
    linarith
  net := by
    rw [closeFees_append, h.net]
    simp [closeFees, closeEvents, hevent]
  entries := by
    rw [openEvents_append, List.length_append, ← h.entries]
    simp [openEvents, hevent]
  exits := by
    rw [closeEvents_append, List.length_append, ← h.exits]
    simp [closeEvents, hevent]
  bought := h.bought
  sold := h.sold
  charged := h.charged

/-- A fill that is used up leaves nothing outstanding. -/
theorem AssetAccounts.exhausted (h : AssetAccounts fills rest view) (hunits : rest.units = 0)
    (hfee : rest.fee = 0) : AssetAccounts fills .nothing view where
  lots := h.lots
  slots := h.slots
  slot hnone := absurd hnone (lt_irrefl 0)
  order := h.order
  book := by
    rw [← h.book, hunits]
    rfl
  quantity := by
    rw [← h.quantity, hunits]
    simp [Outstanding.nothing]
  fees := by
    rw [← h.fees, hfee]
    rfl
  net := h.net
  entries := h.entries
  exits := h.exits
  bought := h.bought
  sold := h.sold
  charged := h.charged

/-- A fill closes units of the oldest lot: the whole lot, or all that is left of the fill. -/
theorem AssetAccounts.close (h : AssetAccounts fills rest view) {lot : MutableLot}
    {later : List MutableLot} (hlots : view.lots = lot :: later)
    (hside : lot.side = closeSide rest.side) {k m : ℕ} (hk : k ≤ rest.units)
    (hsize : lot.remainingSize = (k + m : ℕ) / 10 ^ 8) (hend : m = 0 ∨ k = rest.units)
    (after : MutableLot) (hafter : after.side = lot.side ∧ after.entryPrice = lot.entryPrice ∧
      after.remainingSize = m / 10 ^ 8) (hsource : after.sourceTradeId = lot.sourceTradeId)
    (exitFee : ℚ) (event : PaperLedgerEvent)
    (hclose : event.exitPrice.isSome)
    (hgross : event.grossPnl = k * OpenUnit.profit ⟨lot.side, lot.entryPrice⟩ rest.price)
    (hfees : event.fees = lot.entryFeesRemaining - after.entryFeesRemaining + exitFee)
    (hpnl : event.realizedPnl = event.grossPnl - event.fees)
    (hspent : m = 0 → after.entryFeesRemaining = 0) :
    AssetAccounts fills { rest with units := rest.units - k, fee := rest.fee - exitFee }
      ⟨if m = 0 then later else after :: later,
        { view.summary with
          exitCount := view.summary.exitCount + 1
          realizedGrossPnl := view.summary.realizedGrossPnl + event.grossPnl
          realizedNetPnl := view.summary.realizedNetPnl + event.realizedPnl },
        view.events ++ [event]⟩ where
  lots := by
    have hinv := hlots ▸ h.lots
    split_ifs with hm
    · exact hinv.tail
    · apply hinv.tail.cons ⟨m, Nat.pos_of_ne_zero hm, hafter.2.2⟩
      intro other hother
      rw [hafter.1]
      exact hinv.side_eq other (List.mem_cons_of_mem _ hother)
  slots := by
    have hslots := h.slots
    rw [hlots, List.length_cons] at hslots
    split_ifs
    · exact Nat.le_of_succ_le hslots
    · exact hslots
  slot hpos := by
    have hslots := h.slots
    rw [hlots, List.length_cons] at hslots
    have hm : m = 0 := by
      simp only at hpos
      omega
    rw [if_pos hm]
    exact hslots
  order := by
    have horder := h.order
    have hopen : event.exitPrice ≠ none := Option.isSome_iff_ne_none.mp hclose
    have hnone : openEvents [event] = [] := by simp [openEvents, hopen]
    rw [hlots, List.map_cons] at horder
    rw [openEvents_append, hnone, List.append_nil]
    split_ifs
    · exact (List.suffix_cons _ _).trans horder
    · rw [List.map_cons, hsource]
      exact horder
  book := by
    have hbook := h.book
    have hqueue : view.book = ⟨List.replicate (k + m) ⟨lot.side, lot.entryPrice⟩ ++
        unitQueue later, view.summary.realizedGrossPnl⟩ := by
      rw [AssetView.book, hlots, unitQueue_cons hsize]
    rw [← Nat.sub_add_cancel hk, Function.iterate_add_apply, hqueue,
      FifoBook.trade_iterate_close hside, ← hgross] at hbook
    rw [← hbook]
    congr 1
    rw [AssetView.book]
    congr 1
    split_ifs with hm
    · rw [hm, List.replicate_zero, List.nil_append]
    · rw [unitQueue_cons hafter.2.2, hafter.1, hafter.2.1]
  quantity := by
    have hquantity := h.quantity
    rw [hlots, netQuantity_cons, hsize] at hquantity
    have hsign : lot.side.sign = -(openSide rest.side).sign := by
      rw [hside]
      cases rest.side <;> simp [openSide, closeSide, PaperLedgerSide.sign]
    have hlater : netQuantity (if m = 0 then later else after :: later) =
        lot.side.sign * (m / 10 ^ 8) + netQuantity later := by
      split_ifs with hm
      · simp [hm]
      · rw [netQuantity_cons, hafter.1, hafter.2.2]
    rw [hlater]
    simp only [Nat.cast_sub hk]
    rw [← hquantity, hsign]
    push_cast
    ring
  fees := by
    have hbefore := h.fees
    rw [hlots, entryFees_cons] at hbefore
    have hlater : entryFees (if m = 0 then later else after :: later) =
        after.entryFeesRemaining + entryFees later := by
      split_ifs with hm
      · rw [hspent hm, zero_add]
      · rw [entryFees_cons]
    have hevent : closeFees [event] = event.fees := by simp [closeFees, closeEvents, hclose]
    simp only [closeFees_append, hlater, hevent, hfees]
    linarith
  net := by
    have hevent : closeFees [event] = event.fees := by simp [closeFees, closeEvents, hclose]
    simp only [closeFees_append, hevent, h.net, hpnl]
    ring
  entries := by
    rw [openEvents_append, List.length_append, ← h.entries]
    have hopen : event.exitPrice ≠ none := Option.isSome_iff_ne_none.mp hclose
    simp [openEvents, hopen]
  exits := by
    rw [closeEvents_append, List.length_append, ← h.exits]
    simp [closeEvents, hclose]
  bought := h.bought
  sold := h.sold
  charged := h.charged

end Yevow.Paper
