import Yevow.Core.Control.Except
import Yevow.Core.JavaScript.Calendar

/-!
# Games, draw days and sales cutoffs

The games, the days on which they are drawn, and the window in which their tickets are sold.
Wall-clock time in Texas comes from the host.
-/

namespace Yevow.Lotto

open JavaScript (Timestamp.Date)

/-- A thrown value: the name of its class and its message. -/
structure Fault where
  name : String
  message : String
  deriving DecidableEq, Repr

/-- A plain `Error`. -/
def Fault.plain (message : String) : Fault := ⟨"Error", message⟩

def Fault.range (message : String) : Fault := ⟨"RangeError", message⟩

/-- The games. -/
inductive GameCode
  | lotto | twostep | cash5 | pb | mm | p3 | d4 | aon
  deriving DecidableEq, Repr

namespace GameCode

/-- The code of a game. -/
def code : GameCode → String
  | lotto => "lotto"
  | twostep => "twostep"
  | cash5 => "cash5"
  | pb => "pb"
  | mm => "mm"
  | p3 => "p3"
  | d4 => "d4"
  | aon => "aon"

/-- The name of a game. -/
def name : GameCode → String
  | lotto => "Lotto Texas"
  | twostep => "Texas Two Step"
  | cash5 => "Cash Five"
  | pb => "Powerball"
  | mm => "Mega Millions"
  | p3 => "Pick 3"
  | d4 => "Daily 4"
  | aon => "All or Nothing"

/-- The game is drawn four times a day. -/
def Intraday (game : GameCode) : Prop := game = p3 ∨ game = d4 ∨ game = aon

instance (game : GameCode) : Decidable game.Intraday := inferInstanceAs (Decidable (_ ∨ _))

/-- How many exports the game is read from: one for each draw of a day. -/
def sourceCount (game : GameCode) : ℕ := if game.Intraday then 4 else 1

end GameCode

/-- The draws of a day. -/
inductive Session
  | none | morning | day | evening | night
  deriving DecidableEq, Repr

/-- The session as it is stored. -/
def Session.text : Session → String
  | none => ""
  | morning => "morning"
  | day => "day"
  | evening => "evening"
  | night => "night"

/-- The slots of generation. -/
inductive DrawSlot
  | daily | morning
  deriving DecidableEq, Repr

/-- The slot as it is stored. -/
def DrawSlot.text : DrawSlot → String
  | daily => "daily"
  | morning => "morning"

/-- The days of a week. -/
inductive Weekday
  | sun | mon | tue | wed | thu | fri | sat
  deriving DecidableEq, Repr

/-- `WEEKDAY_BY_UTC_DAY`. -/
def weekdayByUtcDay : ℤ → Weekday
  | 0 => .sun
  | 1 => .mon
  | 2 => .tue
  | 3 => .wed
  | 4 => .thu
  | 5 => .fri
  | _ => .sat

/-- What `Intl` reads off a moment for `America/Chicago`. -/
structure TexasClock where
  date : String
  weekday : Weekday
  hour : ℤ
  minute : ℤ
  deriving DecidableEq, Repr

/-- The slot of a game. -/
def drawSlot (game : GameCode) : DrawSlot := if game = .aon then .morning else .daily

/-- The session that tickets of a run are for. -/
def ledgerSession (game : GameCode) : Session := if game.Intraday then .morning else .none

private def mondayToSaturday : List Weekday := [.mon, .tue, .wed, .thu, .fri, .sat]

/-- The days that tickets are generated for. -/
def drawWeekdays : GameCode → List Weekday
  | .lotto => [.mon, .wed]
  | .twostep => [.mon, .thu]
  | .pb => [.wed, .sat]
  | .mm => [.tue, .fri]
  | .cash5 | .p3 | .d4 | .aon => mondayToSaturday

/-- The days of the official draws. -/
def officialDrawWeekdays : GameCode → List Weekday
  | .lotto | .pb => [.mon, .wed, .sat]
  | .twostep => [.mon, .thu]
  | .mm => [.tue, .fri]
  | .cash5 | .p3 | .d4 | .aon => mondayToSaturday

/-! ## Dates -/

/-- The value of a text of decimal digits only. -/
def decimalDigits? (cs : List Char) : Option ℤ :=
  if cs ≠ [] ∧ cs.all Char.isDigit then
    some (cs.foldl (fun n c => 10 * n + ((c.toNat : ℤ) - 48)) 0)
  else none

/-- The parts of a text that `/^\d{4}-\d{2}-\d{2}$/` matches. -/
def isoDateParts (value : String) : Option Timestamp.Date :=
  match value.toList with
  | [y₁, y₂, y₃, y₄, '-', m₁, m₂, '-', d₁, d₂] => do
    return ⟨← decimalDigits? [y₁, y₂, y₃, y₄], ← decimalDigits? [m₁, m₂], ← decimalDigits? [d₁, d₂]⟩
  | _ => none

/-- The day of the week of a date, which has to be one of the calendar. -/
def weekdayForIsoDate (value : String) : Except Fault Weekday :=
  match isoDateParts value with
  | none => .error (.range "draw date must be ISO-8601")
  | some date =>
    let days := JavaScript.Timestamp.makeDay date.year (date.month - 1) date.day
    if Timestamp.Date.ofDays days = date then .ok (weekdayByUtcDay ((days + 4) % 7))
    else .error (.range "draw date must be a valid calendar date")

example : weekdayForIsoDate "2026-07-01" = .ok .wed := by decide +kernel

/-! ## Sales -/

/-- `POOL_CUTOFF_MINUTES` and `INTRADAY_CUTOFF_MINUTES`: minutes after local midnight. -/
def ticketSalesCutoffMinutes (game : GameCode) (session : Session) : Except Fault ℤ :=
  if game.Intraday then
    match session with
    | .none => .error (.range s!"{game.code} requires an explicit draw session")
    | .morning => .ok (9 * 60 + 50)
    | .day => .ok (12 * 60 + 17)
    | .evening => .ok (17 * 60 + 50)
    | .night => .ok (22 * 60 + 2)
  else if session ≠ .none then
    .error (.range s!"{game.code} does not use an intraday draw session")
  else
    match game with
    | .pb => .ok (21 * 60)
    | .mm => .ok (21 * 60 + 45)
    | _ => .ok (22 * 60 + 2)

/-- Whether and until when tickets are sold. -/
structure TicketSalesWindow where
  isDrawDay : Bool
  beforeCutoff : Bool
  cutoffLocalTime : String
  deriving DecidableEq, Repr

/-- The window for tickets of a draw, at what the clock in Texas shows. -/
def ticketSalesWindow (game : GameCode) (drawDate : String) (session : Session)
    (clock : TexasClock) :
    Except Fault TicketSalesWindow := do
  let cutoff ← ticketSalesCutoffMinutes game session
  let weekday ← weekdayForIsoDate drawDate
  let isOfficialDay := (officialDrawWeekdays game).contains weekday
  return {
    isDrawDay := isOfficialDay
    beforeCutoff := isOfficialDay && (clock.date < drawDate ||
      (drawDate == clock.date && clock.hour * 60 + clock.minute < cutoff))
    cutoffLocalTime := JavaScript.Timestamp.padded 2 (cutoff / 60) ++ ":" ++
      JavaScript.Timestamp.padded 2 (cutoff % 60) ++ " CT" }

/-- `GENERATION_DEADLINE_HOUR`. -/
def generationDeadlineHour : ℤ := 9

/-- Hours and minutes. -/
def parseLocalTime (raw : String) : Except Fault (ℤ × ℤ) :=
  match (JavaScript.trim raw).toList with
  | [h₁, h₂, ':', m₁, m₂] =>
    match decimalDigits? [h₁, h₂], decimalDigits? [m₁, m₂] with
    | some hour, some minute =>
      if hour > 23 ∨ minute > 59 then .error (.range "generation local time is invalid")
      else .ok (hour, minute)
    | _, _ => .error (.range "generation local time must use HH:MM")
  | _ => .error (.range "generation local time must use HH:MM")

/-- A local time before the deadline. -/
def isGenerationTimeBeforeDeadline (localTime : String) : Except Fault Bool := do
  let (hour, _) ← parseLocalTime localTime
  return hour < generationDeadlineHour

/-- The deadline has passed. -/
def isPastGenerationDeadline (clock : TexasClock) : Bool := clock.hour ≥ generationDeadlineHour

end Yevow.Lotto
