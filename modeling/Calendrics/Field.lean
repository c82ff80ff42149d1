/-!
# Fields

A **field** is a number that can be read off a date, and that a date can be edited by. The
thirteen fields fall into four groups:

- *positions of the day* — in the week, the month, the year, and in the seven-day groups that
  are counted from the first of the month or of the year (the *aligned* fields);
- *numbers of those seven-day groups* in the month and in the year;
- *months and years* — the month of the year, the month counted from year zero, the year, and the
  year counted within its era;
- *absolute positions* — the day number and the era.
-/

namespace Calendrics

/-- A number that a date has and can be edited by. -/
inductive Field where
  /-- day of the seven-day week, 1 for Monday to 7 for Sunday -/
  | dayOfWeek
  /-- place in a seven-day group counted from the first of the month -/
  | alignedDayOfWeekInMonth
  /-- place in a seven-day group counted from the first of the year -/
  | alignedDayOfWeekInYear
  /-- day of the month, from 1 -/
  | dayOfMonth
  /-- day of the year, from 1 -/
  | dayOfYear
  /-- days since 1 January 1970 of the proleptic Gregorian calendar -/
  | epochDay
  /-- number of the seven-day group of the month, from 1 -/
  | alignedWeekOfMonth
  /-- number of the seven-day group of the year, from 1 -/
  | alignedWeekOfYear
  /-- month of the year, from 1 -/
  | monthOfYear
  /-- months since January of year zero -/
  | prolepticMonth
  /-- year counted within its era, from 1 -/
  | yearOfEra
  /-- year, where year zero comes before year one -/
  | year
  /-- 0 before year one, 1 from year one on -/
  | era
deriving DecidableEq

namespace Field

/-- Every field, in the order in which they are listed. -/
def all : List Field :=
  [dayOfWeek, alignedDayOfWeekInMonth, alignedDayOfWeekInYear, dayOfMonth, dayOfYear, epochDay,
    alignedWeekOfMonth, alignedWeekOfYear, monthOfYear, prolepticMonth, yearOfEra, year, era]

/-- The name of a field: lower case, words joined by hyphens. -/
def name : Field → String
  | dayOfWeek => "day-of-week"
  | alignedDayOfWeekInMonth => "aligned-day-of-week-in-month"
  | alignedDayOfWeekInYear => "aligned-day-of-week-in-year"
  | dayOfMonth => "day-of-month"
  | dayOfYear => "day-of-year"
  | epochDay => "epoch-day"
  | alignedWeekOfMonth => "aligned-week-of-month"
  | alignedWeekOfYear => "aligned-week-of-year"
  | monthOfYear => "month-of-year"
  | prolepticMonth => "proleptic-month"
  | yearOfEra => "year-of-era"
  | year => "year"
  | era => "era"

/-- The list is complete. -/
theorem mem_all (f : Field) : f ∈ all := by
  cases f <;> decide

/-- The name tells fields apart. -/
theorem name_inj {f f' : Field} : f.name = f'.name ↔ f = f' := by
  have hdistinct : ∀ f ∈ all, ∀ f' ∈ all, f.name = f'.name → f = f' := by decide
  exact ⟨hdistinct f f.mem_all f' f'.mem_all, congrArg name⟩

end Field

end Calendrics
