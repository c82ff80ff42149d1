import Calendrics.Date.Edit
import Calendrics.Date.Order
import Calendrics.Period

/-!
# Date arithmetic

Dates are moved by an amount of a unit (`plus`, `minus`) or by a period (`plusPeriod`), and the
gap between two dates of one chronology is counted in whole units (`unitsUntil`) or split in a
period (`periodUntil`).

Whole units are counted towards zero, so the count changes its sign with the direction. A month
counts as whole when the day of the month is reached, whatever the lengths of the months.
-/

namespace Calendrics.Date

/-- The date an amount of a unit later, and the log of it. Eras are added to the number of the
era. -/
def plusLogged (d : Date) (amount : Int) : TimeUnit → Logged Date
  | .days => .ofExcept (d.plusDays amount)
  | .weeks => .ofExcept (d.plusWeeks amount)
  | .months => d.plusMonths amount
  | .years => d.plusYears amount
  | .decades => do d.plusYears (← Amount.mul amount 10)
  | .centuries => do d.plusYears (← Amount.mul amount 100)
  | .millennia => do d.plusYears (← Amount.mul amount 1000)
  | .eras => do d.setLogged .era (← Amount.add d.era.value amount)

/-- The date an amount of a unit later. -/
def plus (d : Date) (amount : Int) (unit : TimeUnit) : Except CalendarError Date :=
  (d.plusLogged amount unit).result

/-- The date an amount of a unit earlier, and the log of it. -/
def minusLogged (d : Date) (amount : Int) (unit : TimeUnit) : Logged Date := do
  d.plusLogged (← Amount.neg amount) unit

/-- The date an amount of a unit earlier. -/
def minus (d : Date) (amount : Int) (unit : TimeUnit) : Except CalendarError Date :=
  (d.minusLogged amount unit).result

/-- Refuses to go on with a value of another chronology. -/
def requireChronology (d : Date) (c : Chronology) : Except CalendarError Unit :=
  if d.chronology = c then .ok () else .error (.chronologyMismatch d.chronology c)

/-- The date a period later, and the log of it: the years and months are added as one number of
months, and then the days. -/
def plusPeriodLogged (d : Date) (p : Period) : Logged Date := do
  d.requireChronology p.chronology
  let moved ← d.plusMonths p.totalMonths
  moved.plusDays p.days

/-- The date a period later. -/
def plusPeriod (d : Date) (p : Period) : Except CalendarError Date :=
  (d.plusPeriodLogged p).result

/-- The steps of a move by a period, without their log. -/
theorem plusPeriod_eq (d : Date) (p : Period) :
    d.plusPeriod p = (do
      d.requireChronology p.chronology
      let moved ← (d.plusMonths p.totalMonths).result
      moved.plusDays p.days) := by
  rw [plusPeriod, plusPeriodLogged, Logged.result_bind]
  refine congrArg (d.requireChronology p.chronology >>= ·) (funext fun _ => ?_)
  rw [Logged.result_bind]
  rfl

/-- The days from one date to another. -/
def daysUntil (start finish : Date) : Int :=
  finish.epochDay - start.epochDay

/-- The whole months from one date to another. -/
def monthsUntil (start finish : Date) : Int :=
  (finish.packedMonthDay - start.packedMonthDay).tdiv packingFactor

/-- The whole units from one date to another, negative if the other is earlier. -/
def unitsUntil (start finish : Date) (unit : TimeUnit) : Except CalendarError Int := do
  start.requireChronology finish.chronology
  return match unit with
    | .days => start.daysUntil finish
    | .weeks => (start.daysUntil finish).tdiv daysPerWeek
    | .months => start.monthsUntil finish
    | .years => (start.monthsUntil finish).tdiv monthsPerYear
    | .decades => (start.monthsUntil finish).tdiv (monthsPerYear * 10)
    | .centuries => (start.monthsUntil finish).tdiv (monthsPerYear * 100)
    | .millennia => (start.monthsUntil finish).tdiv (monthsPerYear * 1000)
    | .eras => finish.era.value - start.era.value

/-- The gap between two dates as years, months and days, and the log of it. Where the months and
the days would point in different directions, a month is taken back: going forward the days are
then counted from the date that the remaining months lead to, going backward they are counted
back from the end of the month that the gap ends in. -/
def periodUntilLogged (start finish : Date) : Logged Period := do
  start.requireChronology finish.chronology
  let months := finish.prolepticMonth - start.prolepticMonth
  let days := finish.day - start.day
  if 0 < months ∧ days < 0 then
    let moved ← start.plusMonths (months - 1)
    Period.ofMonthsDays start.chronology (months - 1) (finish.epochDay - moved.epochDay)
  else if months < 0 ∧ 0 < days then
    Period.ofMonthsDays start.chronology (months + 1) (days - finish.lengthOfMonth)
  else
    Period.ofMonthsDays start.chronology months days

/-- The gap between two dates as years, months and days. -/
def periodUntil (start finish : Date) : Except CalendarError Period :=
  (start.periodUntilLogged finish).result

/-- The dates reached by moving a number of times by the same amount of a unit, the start first,
and the error that ended the walk early, if any. -/
def walk (d : Date) (amount : Int) (unit : TimeUnit) : Nat → List Date × Option CalendarError
  | 0 => ([d], none)
  | count + 1 =>
    match d.plus amount unit with
    | .ok next =>
      let r := next.walk amount unit count
      (d :: r.1, r.2)
    | .error e => ([d], some e)

end Calendrics.Date
