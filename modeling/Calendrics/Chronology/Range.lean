import Calendrics.Chronology.EpochDay
import Calendrics.Era

/-!
# The ranges of fields

Each field has a range of values in each chronology: the smallest and the largest that any
supported date of the chronology has. An edit accepts a value only if it lies in the range of its
field, whatever the date that is edited.
-/

namespace Calendrics

/-- How many seven-day groups it takes to cover a number of days. -/
def weeksCovering (days : Int) : Int :=
  (days + 6) / 7

/-- The supported years. -/
def yearRange : ValueRange where
  min := minYear
  max := maxYear

theorem mem_yearRange {year : Int} : year ∈ yearRange ↔ minYear ≤ year ∧ year ≤ maxYear :=
  Iff.rfl

/-- The months of a year. -/
def monthRange : ValueRange where
  min := 1
  max := monthsPerYear

/-- The range of a count that starts from 1. -/
def ValueRange.upTo (max : Int) (h : 1 ≤ max) : ValueRange where
  min := 1
  max := max
  min_le_max := h

namespace Chronology

theorem one_le_longestMonthOfAll (c : Chronology) : 1 ≤ c.longestMonthOfAll := by
  cases c <;> decide

theorem one_le_longestYear (c : Chronology) : 1 ≤ c.longestYear := by
  cases c <;> decide

theorem one_le_weeksCovering {days : Int} (h : 1 ≤ days) : 1 ≤ weeksCovering days := by
  unfold weeksCovering
  omega

/-- The values that a field takes over all supported dates of the chronology. -/
def validRange (c : Chronology) : Field → ValueRange
  | .dayOfWeek | .alignedDayOfWeekInMonth | .alignedDayOfWeekInYear => .upTo daysPerWeek (by decide)
  | .dayOfMonth => .upTo c.longestMonthOfAll c.one_le_longestMonthOfAll
  | .dayOfYear => .upTo c.longestYear c.one_le_longestYear
  | .alignedWeekOfMonth =>
    .upTo (weeksCovering c.longestMonthOfAll) (one_le_weeksCovering c.one_le_longestMonthOfAll)
  | .alignedWeekOfYear =>
    .upTo (weeksCovering c.longestYear) (one_le_weeksCovering c.one_le_longestYear)
  | .monthOfYear => monthRange
  | .prolepticMonth =>
    { min := minYear * monthsPerYear, max := maxYear * monthsPerYear + monthsPerYear - 1 }
  | .yearOfEra => .upTo (1 - minYear) (by decide)
  | .year => yearRange
  | .era => Era.valueRange
  | .epochDay => c.epochDayRange

/-- The length of a month that a caller names: the month has to exist. -/
def checkedLengthOfMonth (c : Chronology) (year month : Int) : Except CalendarError Int := do
  let month ← monthRange.check .monthOfYear month
  return c.lengthOfMonth year month

end Chronology

end Calendrics
