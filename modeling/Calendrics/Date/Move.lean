import Calendrics.Amount
import Calendrics.Date.Make

/-!
# Moving a date by days and by months

All arithmetic on dates comes down to two kinds of moves.

- A **day move** adds to the day number. It never looks at months, so it never moves a day back.
- A **month move** adds to the month since year zero, or to the year, and keeps the day of the
  month if the month reached is long enough; otherwise the day becomes that month's last, and is
  logged.

A move by nothing is the date itself. A move that leaves the supported years, or whose amount
cannot be added, is an overflow.
-/

namespace Calendrics.Date

/-- The date a number of days later. -/
def plusDays (d : Date) (days : Int) : Except CalendarError Date :=
  if days = 0 then
    .ok d
  else do
    let e ← Amount.add d.epochDay days
    (ofEpochDay d.chronology e).mapError fun _ => .arithmeticOverflow

/-- The date a number of weeks later. -/
def plusWeeks (d : Date) (weeks : Int) : Except CalendarError Date := do
  d.plusDays (← Amount.mul weeks daysPerWeek)

/-- The date with the day of the month kept, as far as possible, in another month. -/
def resolveIn (d : Date) (year month : Int) : Logged Date :=
  if year ∈ yearRange then
    resolve d.chronology year month d.day
  else
    .ofExcept (.error .arithmeticOverflow)

/-- The date a number of months later. -/
def plusMonths (d : Date) (months : Int) : Logged Date :=
  if months = 0 then
    pure d
  else do
    let m ← Amount.add d.prolepticMonth months
    d.resolveIn (m / monthsPerYear) (m % monthsPerYear + 1)

/-- The date a number of years later. -/
def plusYears (d : Date) (years : Int) : Logged Date :=
  if years = 0 then
    pure d
  else do
    let year ← Amount.add d.year years
    d.resolveIn year d.month

end Calendrics.Date
