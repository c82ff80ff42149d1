import Calendrics.Date.Basic
import Calendrics.Log

/-!
# Making dates

Dates come from numbers in three ways, and differ in how they treat a day that the month does not
have in that year:

- `ofFields` is lenient: a day that the month has in some other year is moved back to the month's
  last day, and the log says so; a day that the month never has is refused.
- `ofFieldsExactly` is strict: it refuses what would have to be moved, so that a stored date is
  read back as it was written or not at all.
- `ofEpochDay` takes a day number, and `convertTo` the day number of a date of another chronology.

All of them refuse years that are not supported. `resolve` is the common end of everything that
computes a year, a month and a day: it is the only place where a day is moved back.
-/

namespace Calendrics.Date

/-- The date in an existing month, with the day moved back to the month's last if it is later. -/
def clamp (c : Chronology) (year month day : Int) (hy : year ∈ yearRange) (hm : month ∈ monthRange)
    (hd : 1 ≤ day) : Date where
  year := year
  month := month
  day := min day (c.lengthOfMonth year month)
  chronology := c
  isDate :=
    { min_le_year := hy.1
      year_le_max := hy.2
      one_le_month := hm.1
      month_le := hm.2
      one_le_day := by
        have := (c.lengthOfMonth_bounds year hm.1 hm.2).1
        show 1 ≤ min day (c.lengthOfMonth year month)
        omega
      day_le := Int.min_le_right _ _ }

/-- The event of making a date for a requested day: none, unless the day was moved. -/
def clampEvents (requested : Int) (d : Date) : List Event :=
  if d.day = requested then []
  else [.clampedDay d.chronology d.year d.month requested d.day]

/-- The date with a computed year, month and day. The year and the month have to exist and the day
to be positive; a day beyond the end of the month becomes the month's last, and is logged. -/
def resolve (c : Chronology) (year month day : Int) : Logged Date :=
  if hy : year ∈ yearRange then
    if hm : month ∈ monthRange then
      if hd : 1 ≤ day then
        let d := clamp c year month day hy hm hd
        ⟨clampEvents day d, .ok d⟩
      else
        .ofExcept (.error (.invalidFieldValue .dayOfMonth day 1 (c.lengthOfMonth year month)))
    else
      .ofExcept (.error (monthRange.refusal .monthOfYear month))
  else
    .ofExcept (.error (yearRange.refusal .year year))

/-- Whether some year gives the month that day. -/
theorem one_le_longestMonth (c : Chronology) {month : Int} (hm : month ∈ monthRange) :
    1 ≤ c.longestMonth month :=
  Int.le_trans (Int.le_trans (by decide) (c.lengthOfMonth_bounds 0 hm.1 hm.2).1)
    (c.lengthOfMonth_le_longestMonth 0 hm.1 hm.2)

/-- The days that a month of the chronology has in some year. -/
def longestMonthRange (c : Chronology) (month : Int) (hm : month ∈ monthRange) : ValueRange :=
  .upTo (c.longestMonth month) (one_le_longestMonth c hm)

/-- The date with a given year, month and day, and the log of it. The month is checked first, then
the day against the longest that the month can be, then the year. -/
def ofFieldsLogged (c : Chronology) (year month day : Int) : Logged Date :=
  if hm : month ∈ monthRange then
    if day ∈ longestMonthRange c month hm then
      resolve c year month day
    else
      .ofExcept (.error ((longestMonthRange c month hm).refusal .dayOfMonth day))
  else
    .ofExcept (.error (monthRange.refusal .monthOfYear month))

/-- The date with a given year, month and day, where the day may be moved back to the end of the
month. -/
def ofFields (c : Chronology) (year month day : Int) : Except CalendarError Date :=
  (ofFieldsLogged c year month day).result

/-- The date with exactly the given year, month and day. -/
def ofFieldsExactly (c : Chronology) (year month day : Int) : Except CalendarError Date := do
  let d ← ofFields c year month day
  if d.day = day then
    return d
  else
    throw (.invalidFieldValue .dayOfMonth day 1 d.lengthOfMonth)

/-- The date of the day with a given number. -/
def ofEpochDay (c : Chronology) (e : Int) : Except CalendarError Date :=
  if h : e ∈ c.epochDayRange then
    .ok { toYearMonthDay := c.ofEpochDay e, chronology := c, isDate := c.isDate_ofEpochDay h }
  else
    .error (c.epochDayRange.refusal .epochDay e)

/-- The same day as a date of another chronology. -/
def convertTo (d : Date) (c : Chronology) : Except CalendarError Date :=
  ofEpochDay c d.epochDay

end Calendrics.Date
