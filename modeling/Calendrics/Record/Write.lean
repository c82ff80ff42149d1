import Calendrics.Date.Basic
import Calendrics.Period
import Calendrics.Record.Datum

/-!
# Storing values

What is stored of each type: names are texts, a range is a record of its two ends, and dates and
periods are records that begin with their chronology. The order of the entries is part of the
form.
-/

namespace Calendrics

/-- A chronology is stored by its canonical identifier. -/
def Chronology.toDatum (c : Chronology) : Datum := .text c.name

/-- A field is stored by its name. -/
def Field.toDatum (f : Field) : Datum := .text f.name

/-- A unit is stored by its name. -/
def TimeUnit.toDatum (u : TimeUnit) : Datum := .text u.name

/-- An era is stored by its name. -/
def Era.toDatum (e : Era) : Datum := .text e.name

/-- A range is stored as its two ends. -/
def ValueRange.toDatum (r : ValueRange) : Datum :=
  .record [("min", .integer r.min), ("max", .integer r.max)]

/-- A date is stored as its chronology, year, month and day. -/
def Date.toDatum (d : Date) : Datum :=
  .record [("chronology", d.chronology.toDatum), ("year", .integer d.year),
    ("month", .integer d.month), ("day", .integer d.day)]

/-- A period is stored as its chronology, years, months and days. -/
def Period.toDatum (p : Period) : Datum :=
  .record [("chronology", p.chronology.toDatum), ("years", .integer p.years),
    ("months", .integer p.months), ("days", .integer p.days)]

end Calendrics
