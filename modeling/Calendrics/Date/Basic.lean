import Calendrics.Chronology.Range

/-!
# Dates

A `Date` is a year, a month and a day together with the chronology they are counted in. It always
names a supported day of that chronology: the proof is part of the date, so whoever builds a date
has to give it, and nobody who is given one has to check again.

What can be read off a date are the thirteen fields (`Date.get`); each has the range of the
chronology, or for three fields the narrower one of the date's own month or year (`Date.range`).
-/

namespace Calendrics

/-- A supported day of a chronology. -/
@[ext]
structure Date extends YearMonthDay where
  /-- the calendar system that the year, month and day are counted in -/
  chronology : Chronology
  /-- the year is supported, and the month and the day exist in it -/
  isDate : chronology.IsDate toYearMonthDay
deriving DecidableEq

namespace Date

/-- The number of the day. -/
def epochDay (d : Date) : Int :=
  d.chronology.epochDay d.toYearMonthDay

/-- The day of the year, from 1. -/
def dayOfYear (d : Date) : Int :=
  d.chronology.daysBeforeMonth d.year d.month + d.day

/-- The day of the week, 1 for Monday to 7 for Sunday. All chronologies share one unbroken cycle
of weekdays, in which day 0 is a Thursday. -/
def dayOfWeek (d : Date) : Int :=
  (d.epochDay + 3) % daysPerWeek + 1

/-- Where a count from 1 stands in its group of seven. -/
def placeInWeek (n : Int) : Int :=
  (n - 1) % daysPerWeek + 1

/-- Which group of seven a count from 1 is in. -/
def numberOfWeek (n : Int) : Int :=
  (n - 1) / daysPerWeek + 1

/-- The place in a seven-day group counted from the first of the month. -/
def alignedDayOfWeekInMonth (d : Date) : Int :=
  placeInWeek d.day

/-- The place in a seven-day group counted from the first of the year. -/
def alignedDayOfWeekInYear (d : Date) : Int :=
  placeInWeek d.dayOfYear

/-- The number of the seven-day group of the month. -/
def alignedWeekOfMonth (d : Date) : Int :=
  numberOfWeek d.day

/-- The number of the seven-day group of the year. -/
def alignedWeekOfYear (d : Date) : Int :=
  numberOfWeek d.dayOfYear

/-- The months since January of year zero. -/
def prolepticMonth (d : Date) : Int :=
  d.year * monthsPerYear + d.month - 1

/-- The era of the year. -/
def era (d : Date) : Era :=
  .ofYear d.year

/-- The year counted within its era. -/
def yearOfEra (d : Date) : Int :=
  Era.yearOfEra d.year

/-- Whether the year is a leap year. -/
def isLeapYear (d : Date) : Bool :=
  d.chronology.isLeapYear d.year

/-- The length of the month. -/
def lengthOfMonth (d : Date) : Int :=
  d.chronology.lengthOfMonth d.year d.month

/-- The length of the year. -/
def lengthOfYear (d : Date) : Int :=
  d.chronology.lengthOfYear d.year

/-- The value of a field. -/
def get (d : Date) : Field → Int
  | .dayOfWeek => d.dayOfWeek
  | .alignedDayOfWeekInMonth => d.alignedDayOfWeekInMonth
  | .alignedDayOfWeekInYear => d.alignedDayOfWeekInYear
  | .dayOfMonth => d.day
  | .dayOfYear => d.dayOfYear
  | .epochDay => d.epochDay
  | .alignedWeekOfMonth => d.alignedWeekOfMonth
  | .alignedWeekOfYear => d.alignedWeekOfYear
  | .monthOfYear => d.month
  | .prolepticMonth => d.prolepticMonth
  | .yearOfEra => d.yearOfEra
  | .year => d.year
  | .era => d.era.value

/-- A month has a first day. -/
theorem one_le_lengthOfMonth (d : Date) : 1 ≤ d.lengthOfMonth :=
  Int.le_trans d.isDate.one_le_day d.isDate.day_le

/-- A year has a first day. -/
theorem one_le_lengthOfYear (d : Date) : 1 ≤ d.lengthOfYear := by
  unfold lengthOfYear Chronology.lengthOfYear Chronology.monthsOf
  generalize d.chronology.isLeapYear d.year = leap
  cases d.chronology <;> cases leap <;> decide

/-- The values that a field can take in the month or the year of the date, for the fields that
count days or weeks of them from 1; for every other field, the range of the chronology. -/
def range (d : Date) : Field → ValueRange
  | .dayOfMonth => .upTo d.lengthOfMonth d.one_le_lengthOfMonth
  | .dayOfYear => .upTo d.lengthOfYear d.one_le_lengthOfYear
  | .alignedWeekOfMonth =>
    .upTo (weeksCovering d.lengthOfMonth)
      (Chronology.one_le_weeksCovering d.one_le_lengthOfMonth)
  | f => d.chronology.validRange f

/-! ## Text -/

/-- A number from 1 to 99 in two digits. -/
def twoDigits (n : Int) : String :=
  if n < 10 then "0" ++ toString n else toString n

/-- The text of a date: chronology, era, and then the year of the era, the month and the day
joined by hyphens. The year is as long as it needs to be; the month and the day have two digits. -/
def text (d : Date) : String :=
  d.chronology.name ++ " " ++ d.era.name ++ " " ++ toString d.yearOfEra ++ "-" ++
    twoDigits d.month ++ "-" ++ twoDigits d.day

end Date

end Calendrics
