import Calendrics.Date.Basic

/-!
# The order of dates

Dates of one chronology are ordered by year, then month, then day. Dates of different chronologies
have no order and are never equal, even where they name the same day.

Two numbers stand for a date within its chronology, and are ordered as the dates are:
`packedMonthDay`, whose differences count months, and `hashWord`, which together with the index of
the chronology is what a date is hashed by.
-/

namespace Calendrics.Date

/-- How two dates compare: nothing across chronologies. -/
def compare? (a b : Date) : Option Ordering :=
  if a.chronology = b.chronology then
    some ((compare a.year b.year).then ((compare a.month b.month).then (compare a.day b.day)))
  else
    none

/-- Earlier, in the same chronology. -/
instance : LT Date where
  lt a b := a.compare? b = some .lt

/-- Earlier or equal, in the same chronology. -/
instance : LE Date where
  le a b := a.compare? b = some .lt ∨ a.compare? b = some .eq

instance (a b : Date) : Decidable (a < b) :=
  inferInstanceAs (Decidable (a.compare? b = some .lt))

instance (a b : Date) : Decidable (a ≤ b) :=
  inferInstanceAs (Decidable (a.compare? b = some .lt ∨ a.compare? b = some .eq))

/-- The factor between a month and a day in `packedMonthDay`. It exceeds the length of every
month. -/
def packingFactor : Int := 256

/-- The month since year zero and the day of the month in one number. -/
def packedMonthDay (d : Date) : Int :=
  d.prolepticMonth * packingFactor + d.day

/-- The year, the month and the day in one number: the day takes the lowest six bits, the month
the next five. -/
def hashWord (d : Date) : Int :=
  d.year * 2048 + d.month * 64 + d.day

/-- The numbers that a date is hashed by. -/
def hashWords (d : Date) : List Int :=
  [d.chronology.index, d.hashWord]

end Calendrics.Date
