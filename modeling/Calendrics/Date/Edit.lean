import Calendrics.Date.Move

/-!
# Editing one field of a date

Setting a field to a value gives the date that has the value, as far as there is one. What the
other fields do depends on the kind of field:

- fields that count days or weeks move the date by whole days or weeks, past the end of the month
  or the year if need be;
- the day of the month, the month and the fields of the year keep the other two of year, month and
  day, and move the day back to the end of the month if it has to be;
- the month since year zero moves the date by months, and the day number replaces it.

A value outside the range of the field in the chronology is refused before anything else.
-/

namespace Calendrics.Date

/-- The year with another number in the era of the date. -/
def yearInEra (d : Date) (yearOfEra : Int) : Int :=
  d.era.year yearOfEra

/-- The date with one field replaced by a value in the range of the field. -/
def edit (d : Date) (field : Field) (value : Int) : Logged Date :=
  match field with
  | .dayOfWeek => .ofExcept (d.plusDays (value - d.dayOfWeek))
  | .alignedDayOfWeekInMonth => .ofExcept (d.plusDays (value - d.alignedDayOfWeekInMonth))
  | .alignedDayOfWeekInYear => .ofExcept (d.plusDays (value - d.alignedDayOfWeekInYear))
  | .dayOfMonth => resolve d.chronology d.year d.month value
  | .dayOfYear => .ofExcept (d.plusDays (value - d.dayOfYear))
  | .epochDay => .ofExcept (ofEpochDay d.chronology value)
  | .alignedWeekOfMonth => .ofExcept (d.plusWeeks (value - d.alignedWeekOfMonth))
  | .alignedWeekOfYear => .ofExcept (d.plusWeeks (value - d.alignedWeekOfYear))
  | .monthOfYear => resolve d.chronology d.year value d.day
  | .prolepticMonth => d.plusMonths (value - d.prolepticMonth)
  | .yearOfEra => resolve d.chronology (d.yearInEra value) d.month d.day
  | .year => resolve d.chronology value d.month d.day
  | .era => if value = d.era.value then pure d else resolve d.chronology (1 - d.year) d.month d.day

/-- The date with a field set to a value, and the log of it. -/
def setLogged (d : Date) (field : Field) (value : Int) : Logged Date :=
  if value ∈ d.chronology.validRange field then
    d.edit field value
  else
    .ofExcept (.error ((d.chronology.validRange field).refusal field value))

/-- The date with a field set to a value. -/
def set (d : Date) (field : Field) (value : Int) : Except CalendarError Date :=
  (d.setLogged field value).result

end Calendrics.Date
