import Yevow.Core.JavaScript.Runtime

/-!
# A reference runtime

Host services that can be evaluated: dates in the `toISOString` format, strings compared by
code points, decimal digits converted to numbers.
-/

namespace JavaScript

private def digit (c : Char) : Option ℤ :=
  if '0' ≤ c ∧ c ≤ '9' then some ((c.toNat : ℤ) - 48) else none

private def digits (cs : List Char) : Option ℤ :=
  cs.foldlM (fun n c => (digit c).map (10 * n + ·)) 0

private def digitsIn (least greatest : ℤ) (cs : List Char) : Option ℤ := do
  let n ← digits cs
  if least ≤ n ∧ n ≤ greatest then return n else none

/-- Days from the epoch to a date of the Gregorian calendar, years counted from March. -/
def daysFromCivil (year month day : ℤ) : ℤ :=
  let y := if month ≤ 2 then year - 1 else year
  let m := if month ≤ 2 then month + 9 else month - 3
  365 * y + y / 4 - y / 100 + y / 400 + (153 * m + 2) / 5 + day - 719469

/-- Milliseconds since the epoch of a timestamp such as `2026-07-01T12:00:00.000Z`. -/
def isoDateParse (text : String) : Option ℤ :=
  match text.toList with
  | [y₁, y₂, y₃, y₄, '-', m₁, m₂, '-', d₁, d₂, 'T', h₁, h₂, ':', n₁, n₂, ':', s₁, s₂, '.',
      f₁, f₂, f₃, 'Z'] => do
    let days := daysFromCivil (← digits [y₁, y₂, y₃, y₄]) (← digitsIn 1 12 [m₁, m₂])
      (← digitsIn 1 31 [d₁, d₂])
    let minutes := (days * 24 + (← digitsIn 0 23 [h₁, h₂])) * 60 + (← digitsIn 0 59 [n₁, n₂])
    return (minutes * 60 + (← digitsIn 0 59 [s₁, s₂])) * 1000 + (← digits [f₁, f₂, f₃])
  | _ => none

example : isoDateParse "2026-07-01T12:00:00.000Z" = some 1782907200000 := by decide

/-- A numeral without sign, point or exponent; blank text counts as zero. -/
def decimalNumber (text : String) : Number :=
  match digits text.toList with
  | some n => .finite n
  | none => .nan

/-- The reference runtime over a given arithmetic. -/
def reference (A : Arithmetic) : Runtime where
  arithmetic := A
  dateParse := isoDateParse
  localeCompare := codePointCollation
  toNumber := decimalNumber

end JavaScript
