import Yevow.Core.JavaScript.Value

/-!
# Timestamps

A timestamp is a text received from outside or the `toISOString` of a time; the latter is
kept as its milliseconds, which is what `Date.parse` gives for it.
-/

namespace JavaScript

/-- A text of a date, or the moment an ISO text was made from. -/
inductive Timestamp
  | text (value : String)
  | iso (ms : ℤ)
  deriving DecidableEq, Repr

namespace Timestamp

/-- `Date.parse`, absent where the call gives NaN. -/
def parse (js : Runtime) : Timestamp → Option ℤ
  | text value => js.dateParse value
  | iso ms => some ms

/-- The text is empty, which counts as no timestamp. -/
def isEmpty : Timestamp → Bool
  | text value => value == ""
  | iso _ => false

/-- `Date.parse(a) > Date.parse(b)`; no comparison with NaN holds. -/
def after (js : Runtime) (a b : Timestamp) : Bool :=
  match a.parse js, b.parse js with
  | some s, some t => t < s
  | _, _ => false

/-- The greatest time a date can have. -/
def maxTime : ℤ := 8640000000000000

/-- `ToIntegerOrInfinity` on a finite number. -/
def truncate (q : ℚ) : ℤ := if 0 ≤ q then ⌊q⌋ else ⌈q⌉

/-- `new Date(Date.parse(start) + ms).toISOString()`, which throws on an invalid date. -/
def plus (js : Runtime) (start : Timestamp) (ms : Number) : Except String Timestamp :=
  match start.parse js, ms with
  | some t, .finite q =>
    let time := truncate (js.arithmetic.fraction (t + q))
    if |time| ≤ maxTime then .ok (iso time) else .error "Invalid time value"
  | _, _ => .error "Invalid time value"

/-! ## `toISOString` -/

/-- A date of the Gregorian calendar, with astronomical years. -/
structure Date where
  year : ℤ
  month : ℤ
  day : ℤ
  deriving DecidableEq

/-- The date that many days after 1 January 1970. Years are counted from March, so that a leap
day ends one; 400 of them have 146097 days. -/
def Date.ofDays (days : ℤ) : Date :=
  let shifted := days + 719468
  let era := shifted / 146097
  let dayOfEra := shifted % 146097
  let yearOfEra :=
    (dayOfEra - dayOfEra / 1460 + dayOfEra / 36524 - dayOfEra / 146096) / 365
  let dayOfYear := dayOfEra - (365 * yearOfEra + yearOfEra / 4 - yearOfEra / 100)
  let fromMarch := (5 * dayOfYear + 2) / 153
  let month := if fromMarch < 10 then fromMarch + 3 else fromMarch - 9
  { year := yearOfEra + era * 400 + if month ≤ 2 then 1 else 0
    month
    day := dayOfYear - (153 * fromMarch + 2) / 5 + 1 }

/-- The decimal digits of a number, at least `width` of them. -/
def padded (width : ℕ) (n : ℤ) : String :=
  let digits := toString n.natAbs
  String.ofList (List.replicate (width - digits.length) '0') ++ digits

/-- A year as ISO 8601 writes it, in its expanded form where four digits do not hold it. -/
def isoYear (year : ℤ) : String :=
  if 0 ≤ year ∧ year ≤ 9999 then padded 4 year
  else (if year < 0 then "-" else "+") ++ padded 6 year

/-- `new Date(ms).toISOString()`. -/
def isoText (ms : ℤ) : String :=
  let date := Date.ofDays (ms / 86400000)
  let inDay := ms % 86400000
  isoYear date.year ++ "-" ++ padded 2 date.month ++ "-" ++ padded 2 date.day ++ "T" ++
    padded 2 (inDay / 3600000) ++ ":" ++ padded 2 (inDay / 60000 % 60) ++ ":" ++
    padded 2 (inDay / 1000 % 60) ++ "." ++ padded 3 (inDay % 1000) ++ "Z"

/-- The text of a timestamp. -/
def toText : Timestamp → String
  | text value => value
  | iso ms => isoText ms

end Timestamp

end JavaScript
