import Mathlib.Algebra.Order.Floor.Semiring
import Mathlib.Logic.Function.Iterate
import Yevow.Models.Paper.Ledger

/-!
# First in, first out

Sizes are whole numbers of units of `0.00000001`. A book of single units is what a ledger of
lots is meant to show: each unit traded closes the oldest open unit of the other side and
earns their difference in price, or else opens a unit of its own.
-/

namespace Yevow.Paper

open Engine (TradeSide)

/-- One unit held at a price. -/
structure OpenUnit where
  side : PaperLedgerSide
  price : ℚ
  deriving DecidableEq

/-- The open units of an asset, the oldest first, and the profit that closed ones made. -/
structure FifoBook where
  queue : List OpenUnit
  profit : ℚ

/-- What closing a unit at a price earns. -/
def OpenUnit.profit (unit : OpenUnit) (price : ℚ) : ℚ :=
  match unit.side with
  | .long => (price - unit.price) / 10 ^ 8
  | .short => (unit.price - price) / 10 ^ 8

namespace FifoBook

/-- A book that holds nothing. -/
def empty : FifoBook := ⟨[], 0⟩

/-- One unit is bought or sold. -/
def trade (side : TradeSide) (price : ℚ) (book : FifoBook) : FifoBook :=
  match book.queue with
  | [] => ⟨[⟨openSide side, price⟩], book.profit⟩
  | oldest :: later =>
    if oldest.side = closeSide side then ⟨later, book.profit + oldest.profit price⟩
    else ⟨book.queue ++ [⟨openSide side, price⟩], book.profit⟩

variable {side : TradeSide} {price : ℚ}

/-- Units traded against enough old units of one lot close them one after the other. -/
theorem trade_iterate_close {unit : OpenUnit} (hside : unit.side = closeSide side) (k m : ℕ)
    (later : List OpenUnit) (profit : ℚ) :
    (trade side price)^[k] ⟨List.replicate (k + m) unit ++ later, profit⟩ =
      ⟨List.replicate m unit ++ later, profit + k * unit.profit price⟩ := by
  induction k generalizing profit with
  | zero => simp
  | succ k ih =>
    have hstep : trade side price ⟨List.replicate (k + 1 + m) unit ++ later, profit⟩ =
        ⟨List.replicate (k + m) unit ++ later, profit + unit.profit price⟩ := by
      rw [Nat.add_right_comm, List.replicate_succ, List.cons_append, trade]
      exact if_pos hside
    rw [Function.iterate_succ_apply, hstep, ih]
    congr 1
    push_cast
    ring

private theorem openSide_ne_closeSide (side : TradeSide) : openSide side ≠ closeSide side := by
  cases side <;> decide

/-- Units traded against none of the other side open units of their own. -/
theorem trade_iterate_open (k : ℕ) {queue : List OpenUnit}
    (hqueue : ∀ unit ∈ queue, unit.side = openSide side) (profit : ℚ) :
    (trade side price)^[k] ⟨queue, profit⟩ =
      ⟨queue ++ List.replicate k ⟨openSide side, price⟩, profit⟩ := by
  induction k generalizing queue with
  | zero => simp
  | succ k ih =>
    have hstep :
      trade side price ⟨queue, profit⟩ = ⟨queue ++ [⟨openSide side, price⟩], profit⟩ := by
      cases queue with
      | nil => rfl
      | cons oldest later =>
        have hside := hqueue oldest List.mem_cons_self
        rw [trade]
        exact if_neg (hside ▸ openSide_ne_closeSide side)
    rw [Function.iterate_succ_apply, hstep, ih]
    · rw [List.append_assoc, List.replicate_succ, List.singleton_append]
    · intro unit hunit
      rcases List.mem_append.mp hunit with hold | hnew
      · exact hqueue unit hold
      · rw [List.mem_singleton.mp hnew]

end FifoBook

/-! ## Fills and lots in units -/

/-- The number of units of a size. -/
def unitsOf (size : ℚ) : ℕ := ⌊size * 10 ^ 8⌋₊

/-- Whole units are read back. -/
theorem unitsOf_div (n : ℕ) : unitsOf ((n : ℚ) / 10 ^ 8) = n := by
  rw [unitsOf, div_mul_cancel₀ _ (by norm_num), Nat.floor_natCast]

/-- The book after a fill. -/
def FifoBook.fill (book : FifoBook) (fill : PaperLedgerFill) : FifoBook :=
  (FifoBook.trade fill.side fill.price)^[unitsOf fill.size] book

/-- The fills of an asset. -/
def fillsOf (asset : String) (fills : List PaperLedgerFill) : List PaperLedgerFill :=
  fills.filter fun fill => normalizeAsset fill.asset = asset

/-- The book of an asset after a list of fills. -/
def fifo (asset : String) (fills : List PaperLedgerFill) : FifoBook :=
  (fillsOf asset fills).foldl FifoBook.fill .empty

/-- The units of lots, in their order. -/
def unitQueue (lots : List MutableLot) : List OpenUnit :=
  lots.flatMap fun lot => List.replicate (unitsOf lot.remainingSize) ⟨lot.side, lot.entryPrice⟩

/-- A fill concerns its own asset. -/
theorem fillsOf_append (asset : String) (fills : List PaperLedgerFill) (fill : PaperLedgerFill) :
    fillsOf asset (fills ++ [fill]) =
      if normalizeAsset fill.asset = asset then fillsOf asset fills ++ [fill]
      else fillsOf asset fills := by
  unfold fillsOf
  rw [List.filter_append]
  split_ifs with h <;> simp [h]

end Yevow.Paper
