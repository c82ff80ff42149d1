/-!
# Years, months and days

A `YearMonthDay` is a year, a month of the year and a day of the month, of no calendar in
particular: nothing says that the month or the day exists. It is what the rules of a calendar
compute with, and what a date consists of besides its chronology.

Years run through zero and below it; months and days count from 1. All three are exact integers,
so that no step of a calculation on them can wrap or truncate.
-/

namespace Calendrics

/-- A year, a month and a day of the month. -/
@[ext]
structure YearMonthDay where
  /-- the year; year zero comes before year one -/
  year : Int
  /-- the month of the year, 1 for January -/
  month : Int
  /-- the day of the month, from 1 -/
  day : Int
deriving DecidableEq

namespace YearMonthDay

/-- The first day of a year. -/
def newYear (year : Int) : YearMonthDay := ⟨year, 1, 1⟩

end YearMonthDay

/-- The smallest year that dates can have. -/
def minYear : Int := -999999999

/-- The largest year that dates can have. -/
def maxYear : Int := 999999999

/-- Months of a year, in every chronology. -/
def monthsPerYear : Int := 12

/-- Days of a week. -/
def daysPerWeek : Int := 7

end Calendrics
