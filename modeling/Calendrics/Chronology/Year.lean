import Calendrics.Chronology
import Calendrics.Months
import Calendrics.YearMonthDay

/-!
# The year of a chronology

What a year looks like is decided by two rules: which years are leap years, and how long the
months of a leap year and of a common year are. From them come the length of a year, the days
before a month, and the longest that a month or a year can be.

- `isLeapYear` — the leap rule;
- `monthLengths`, `lengthOfMonth`, `daysBeforeMonth`, `lengthOfYear` — the months;
- `longestMonth`, `longestYear` — their upper bounds over all years;
- `IsDate` — a year, month and day that name a supported day of the chronology.
-/

namespace Calendrics.Chronology

/-- Whether a year is a leap year. The Gregorian rule skips the centuries that are no multiple
of four hundred; the Julian rule skips none. -/
def isLeapYear (c : Chronology) (year : Int) : Bool :=
  match c with
  | iso => (year % 4 = 0 ∧ year % 100 ≠ 0) ∨ year % 400 = 0
  | julian => year % 4 = 0
  | allLeap => true
  | noLeap | uniform30 => false

/-- Whether the chronology has leap years at all. -/
def hasLeapYears : Chronology → Bool
  | iso | julian | allLeap => true
  | noLeap | uniform30 => false

/-- The month lengths from January to December of a year whose February has the given length. -/
def solarMonths (february : Int) : List Int :=
  [31, february, 31, 30, 31, 30, 31, 31, 30, 31, 30, 31]

/-- The month lengths from January to December of a leap or of a common year. -/
def monthLengths (c : Chronology) (leap : Bool) : List Int :=
  match c with
  | uniform30 => List.replicate 12 30
  | _ => solarMonths (if leap then 29 else 28)

/-- The month lengths of one year. -/
def monthsOf (c : Chronology) (year : Int) : List Int :=
  c.monthLengths (c.isLeapYear year)

/-- The length of a month, from 1 to 12, of a year. -/
def lengthOfMonth (c : Chronology) (year month : Int) : Int :=
  Months.lengthOf (c.monthsOf year) month

/-- The number of days of a year before its given month. -/
def daysBeforeMonth (c : Chronology) (year month : Int) : Int :=
  Months.before (c.monthsOf year) month

/-- The length of a year. -/
def lengthOfYear (c : Chronology) (year : Int) : Int :=
  Months.total (c.monthsOf year)

/-- The longest that a month, from 1 to 12, can be. -/
def longestMonth (c : Chronology) (month : Int) : Int :=
  Months.lengthOf (c.monthLengths c.hasLeapYears) month

/-- The longest that any month can be. -/
def longestMonthOfAll (c : Chronology) : Int :=
  (c.monthLengths c.hasLeapYears).foldl max 0

/-- The longest that a year can be. -/
def longestYear (c : Chronology) : Int :=
  Months.total (c.monthLengths c.hasLeapYears)

/-- A year, month and day name a day of the chronology: the year is supported, and the month and
the day exist. -/
structure IsDate (c : Chronology) (t : YearMonthDay) : Prop where
  /-- the year is not too early -/
  min_le_year : minYear ≤ t.year
  /-- the year is not too late -/
  year_le_max : t.year ≤ maxYear
  /-- months count from 1 -/
  one_le_month : 1 ≤ t.month
  /-- there are twelve months -/
  month_le : t.month ≤ 12
  /-- days count from 1 -/
  one_le_day : 1 ≤ t.day
  /-- the month has that many days in that year -/
  day_le : t.day ≤ c.lengthOfMonth t.year t.month

theorem isDate_iff {c : Chronology} {t : YearMonthDay} :
    c.IsDate t ↔ minYear ≤ t.year ∧ t.year ≤ maxYear ∧ 1 ≤ t.month ∧ t.month ≤ 12 ∧
      1 ≤ t.day ∧ t.day ≤ c.lengthOfMonth t.year t.month :=
  ⟨fun ⟨h₁, h₂, h₃, h₄, h₅, h₆⟩ => ⟨h₁, h₂, h₃, h₄, h₅, h₆⟩,
    fun ⟨h₁, h₂, h₃, h₄, h₅, h₆⟩ => ⟨h₁, h₂, h₃, h₄, h₅, h₆⟩⟩

instance (c : Chronology) (t : YearMonthDay) : Decidable (c.IsDate t) :=
  decidable_of_iff' _ isDate_iff

/-! ## Months one by one

There are only twelve months, so a fact about all of them is checked month by month. -/

/-- A month of the year is one of twelve. -/
theorem month_cases {m : Int} (h₁ : 1 ≤ m) (h₂ : m ≤ 12) :
    m = 1 ∨ m = 2 ∨ m = 3 ∨ m = 4 ∨ m = 5 ∨ m = 6 ∨ m = 7 ∨ m = 8 ∨ m = 9 ∨ m = 10 ∨ m = 11 ∨
      m = 12 := by
  omega

@[simp] theorem length_monthLengths (c : Chronology) (leap : Bool) :
    (c.monthLengths leap).length = 12 := by
  cases c <;> rfl

/-- Every month has between 28 and 31 days. -/
theorem lengthOfMonth_bounds (c : Chronology) (year : Int) {m : Int} (h₁ : 1 ≤ m) (h₂ : m ≤ 12) :
    28 ≤ c.lengthOfMonth year m ∧ c.lengthOfMonth year m ≤ 31 := by
  unfold lengthOfMonth monthsOf
  generalize c.isLeapYear year = leap
  rcases month_cases h₁ h₂ with rfl | rfl | rfl | rfl | rfl | rfl | rfl | rfl | rfl | rfl | rfl |
    rfl <;> cases c <;> cases leap <;> decide

/-- A month is never longer than it can be. -/
theorem lengthOfMonth_le_longestMonth (c : Chronology) (year : Int) {m : Int} (h₁ : 1 ≤ m)
    (h₂ : m ≤ 12) : c.lengthOfMonth year m ≤ c.longestMonth m := by
  unfold lengthOfMonth monthsOf longestMonth
  have hleap : c.isLeapYear year = true → c.hasLeapYears = true := by
    cases c <;> simp [isLeapYear, hasLeapYears]
  generalize c.isLeapYear year = leap at hleap
  rcases month_cases h₁ h₂ with rfl | rfl | rfl | rfl | rfl | rfl | rfl | rfl | rfl | rfl | rfl |
    rfl <;> cases c <;> cases leap <;> simp_all [hasLeapYears] <;> decide

end Calendrics.Chronology
