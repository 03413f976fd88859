import Mathlib.Logic.Relation
import Yevow.Models.Paper.Ledger

/-!
# Moments of the ledger

The loop over the fills as steps: a fill is taken up, closes lots one by one and is put away.
A run of the loop goes through these steps, so what each of them preserves holds at every
moment of it.
-/

namespace Yevow.Paper

open Engine (EngineArithmetic)

/-- The fills still to come, and the fill in progress. -/
structure LedgerMoment where
  coming : List PaperLedgerFill
  state : LedgerState
  progress : Option FillProgress

namespace LedgerMoment

/-- All fills are still to come. -/
def start (fills : List PaperLedgerFill) : LedgerMoment := ⟨fills, .initial, none⟩

/-- The lots of an asset. Those of the fill in progress are the array that is being changed. -/
def lots (moment : LedgerMoment) (asset : String) : List MutableLot :=
  match moment.progress with
  | some progress =>
    if progress.asset = asset then progress.lots else moment.state.lots asset
  | none => moment.state.lots asset

end LedgerMoment

variable (ar : EngineArithmetic)

/-- A fill is begun, closes a lot, or is finished. -/
inductive LedgerStep : LedgerMoment → LedgerMoment → Prop
  | take (fill : PaperLedgerFill) (coming : List PaperLedgerFill) (state : LedgerState) :
    LedgerStep ⟨fill :: coming, state, none⟩
      ⟨coming, (beginFill ar state fill).1, some (beginFill ar state fill).2⟩
  | close {coming : List PaperLedgerFill} {state next : LedgerState}
      {progress nextProgress : FillProgress} :
    closeOnce ar (state, progress) = some (next, nextProgress) →
    LedgerStep ⟨coming, state, some progress⟩ ⟨coming, next, some nextProgress⟩
  | finish {coming : List PaperLedgerFill} {state : LedgerState} {progress : FillProgress} :
    closeOnce ar (state, progress) = none →
    LedgerStep ⟨coming, state, some progress⟩ ⟨coming, finishFill ar (state, progress), none⟩

/-- A moment that the loop over the fills passes through. -/
def LedgerReaches (fills : List PaperLedgerFill) (moment : LedgerMoment) : Prop :=
  Relation.ReflTransGen (LedgerStep ar) (.start fills) moment

variable {ar}

private theorem closeLots_steps {fuel : ℕ} {s t : LedgerState × FillProgress}
    (h : closeLots ar fuel s = some t) (coming : List PaperLedgerFill) :
    Relation.ReflTransGen (LedgerStep ar) ⟨coming, s.1, some s.2⟩ ⟨coming, t.1, some t.2⟩ ∧
      closeOnce ar t = none := by
  induction fuel generalizing s with
  | zero =>
    rw [closeLots] at h
    split_ifs at h with hend
    obtain rfl := Option.some.inj h
    exact ⟨.refl, Option.isNone_iff_eq_none.mp hend⟩
  | succ fuel ih =>
    rw [closeLots] at h
    cases hnext : closeOnce ar s with
    | none =>
      rw [hnext] at h
      obtain rfl := Option.some.inj h
      exact ⟨.refl, hnext⟩
    | some next =>
      rw [hnext] at h
      obtain ⟨hsteps, hend⟩ := ih h
      exact ⟨.head (.close hnext) hsteps, hend⟩

/-- A processed fill is taken up, closes and is put away. -/
theorem applyFill_steps {fuel : ℕ} {state next : LedgerState} {fill : PaperLedgerFill}
    (h : applyFill ar fuel state fill = some next) (coming : List PaperLedgerFill) :
    Relation.ReflTransGen (LedgerStep ar) ⟨fill :: coming, state, none⟩ ⟨coming, next, none⟩ := by
  obtain ⟨closed, hclosed, rfl⟩ := Option.map_eq_some_iff.mp h
  obtain ⟨hsteps, hend⟩ := closeLots_steps hclosed coming
  exact .head (.take fill coming state) (hsteps.tail (.finish hend))

end Yevow.Paper
