import Yevow.Core.JavaScript.Timestamp

/-!
# Days of dates

The day a calendar date falls on, counted from 1970.
-/

namespace JavaScript.Timestamp

/-- The days before 1 March of a year. -/
def marchStart (year : ℤ) : ℤ := 365 * year + year / 4 - year / 100 + year / 400

/-- The day of a date whose month is counted from 0 and may lie in another year. -/
def makeDay (year month day : ℤ) : ℤ :=
  let fromMarch := (month + 10) % 12
  marchStart (year + (month + 10) / 12 - 1) + (153 * fromMarch + 2) / 5 + day - 1 - 719468

example : makeDay 2024 1 29 = 19782 := by decide

end JavaScript.Timestamp
