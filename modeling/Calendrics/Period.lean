import Calendrics.Amount
import Calendrics.TimeUnit

/-!
# Periods

A `Period` is an amount of years, months and days of one chronology, such as the gap between two
dates. Its parts may be negative. Years and months are both counts of months, and are added to a
date as one; the days are added after them.
-/

namespace Calendrics

/-- An amount of years, months and days of a chronology. -/
@[ext]
structure Period where
  /-- the calendar system that the amount belongs to -/
  chronology : Chronology
  /-- whole years -/
  years : Int
  /-- months beyond the whole years -/
  months : Int
  /-- days beyond the whole months -/
  days : Int
deriving DecidableEq

namespace Period

/-- The period of a number of months and days: the months are split in years and months, both of
one sign. -/
def ofMonthsDays (c : Chronology) (months days : Int) : Except CalendarError Period := do
  let rest ← Amount.narrow (months.tmod 12)
  let days ← Amount.narrow days
  return ⟨c, months.tdiv 12, rest, days⟩

/-- The years and months as one number of months. -/
def totalMonths (p : Period) : Int :=
  p.years * 12 + p.months

/-- Whether the period amounts to nothing. -/
def isZero (p : Period) : Bool :=
  p.years = 0 ∧ p.months = 0 ∧ p.days = 0

/-- Whether some part of the period is negative. -/
def isNegative (p : Period) : Bool :=
  p.years < 0 ∨ p.months < 0 ∨ p.days < 0

/-- The same amount in the other direction. -/
def negated (p : Period) : Period :=
  ⟨p.chronology, -p.years, -p.months, -p.days⟩

/-- The part of the period that a unit counts. A period has no other parts than years, months and
days. -/
def get (p : Period) : TimeUnit → Except CalendarError Int
  | .years => .ok p.years
  | .months => .ok p.months
  | .days => .ok p.days
  | u => .error (.unsupportedUnit u.name)

/-- One part of a period in text: nothing if it is zero, else the number and its letter. -/
def partText (n : Int) (letter : String) : String :=
  if n = 0 then "" else toString n ++ letter

/-- The text of a period: the chronology, and then the parts that are not zero after a `P`. The
period of nothing is written as zero days. -/
def text (p : Period) : String :=
  p.chronology.name ++ " P" ++
    (if p.isZero then "0D"
      else partText p.years "Y" ++ partText p.months "M" ++ partText p.days "D")

theorem isZero_iff {p : Period} : p.isZero = true ↔ p.years = 0 ∧ p.months = 0 ∧ p.days = 0 :=
  decide_eq_true_iff

theorem isNegative_iff {p : Period} :
    p.isNegative = true ↔ p.years < 0 ∨ p.months < 0 ∨ p.days < 0 :=
  decide_eq_true_iff

theorem negated_negated (p : Period) : p.negated.negated = p := by
  simp [negated]

end Period

end Calendrics
