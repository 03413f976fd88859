import Yevow.Core.JavaScript.Value
import Yevow.Models.DotCast.Funding.Store

/-!
# Reading rows and configuration

What the stores check of a row before they hand it out, and what the services check of a
configured number. Each module has its own code for these errors.
-/

namespace Yevow.DotCast

open Except (throwIf)
open JavaScript (Runtime)

/-! ## Rows -/

/-- `row ? fromRow(row) : null`. -/
def readRow {β : Type} (fromRow : β → Except Fault β) : Option β → Except Fault (Option β)
  | none => .ok none
  | some row => (fromRow row).map some

theorem readRow_eq_ok_none {β : Type} {fromRow : β → Except Fault β} {row : Option β} :
    readRow fromRow row = .ok none ↔ row = none := by
  cases row with
  | none => simp [readRow]
  | some b => cases h : fromRow b <;> simp [readRow, h, Except.map]

theorem readRow_eq_ok_some {β : Type} {fromRow : β → Except Fault β} {row : Option β} {b : β} :
    readRow fromRow row = .ok (some b) ↔ ∃ r, row = some r ∧ fromRow r = .ok b := by
  cases row with
  | none => simp [readRow]
  | some r => cases h : fromRow r <;> simp [readRow, h, Except.map]

/-- A text column that must not be empty. -/
def textColumn (code value label : String) : Except Fault String :=
  if value = "" then .error ⟨label ++ " is required", some code, some 500⟩ else .ok value

theorem textColumn_eq_ok {code value label text : String} :
    textColumn code value label = .ok text ↔ value ≠ "" ∧ value = text := by
  unfold textColumn
  split_ifs with h <;> simp [h]

/-- An integer column. -/
def integerColumn (js : Runtime) (code : String) (value : ℤ) (label : String) :
    Except Fault ℤ :=
  if js.arithmetic.isSafeInteger value = true then .ok value
  else .error ⟨label ++ " must be a safe integer", some code, some 500⟩

theorem integerColumn_eq_ok {js : Runtime} {code label : String} {value n : ℤ} :
    integerColumn js code value label = .ok n ↔
      js.arithmetic.isSafeInteger value = true ∧ value = n := by
  unfold integerColumn
  split_ifs with h <;> simp [h]

/-! ## Configuration -/

/-- A configured integer, or the default where none is configured. -/
def configInteger (js : Runtime) (code : String) (value : Option String) (fallback : ℤ)
    (label : String) : Except Fault ℤ :=
  match value with
  | none => .ok fallback
  | some text =>
    if JavaScript.trim text = "" then .ok fallback
    else match JavaScript.safeInteger? js.arithmetic (js.toNumber text) with
      | some parsed => .ok parsed
      | none => .error ⟨label ++ " must be a safe integer", some code, some 500⟩

def configPositive (js : Runtime) (code : String) (value : Option String) (fallback : ℤ)
    (label : String) : Except Fault ℤ := do
  let parsed ← configInteger js code value fallback label
  throwIf (parsed ≤ 0) ⟨label ++ " must be positive", some code, some 500⟩
  return parsed

def configNonNegative (js : Runtime) (code : String) (value : Option String) (fallback : ℤ)
    (label : String) : Except Fault ℤ := do
  let parsed ← configInteger js code value fallback label
  throwIf (parsed < 0) ⟨label ++ " must be non-negative", some code, some 500⟩
  return parsed

end Yevow.DotCast
