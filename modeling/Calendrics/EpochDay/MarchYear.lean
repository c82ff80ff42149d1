import Calendrics.YearMonthDay

/-!
# Years that begin in March

In the solar calendars with leap days it is convenient to count the days of a year from the first
of March: the leap day, if there is one, is then the very last day of the year, and the lengths of
the months from March on follow one linear rule, `(153 * m + 2) / 5` days before month `m` (0 for
March, 11 for February). January and February belong to the March year that began the year before.

`MarchYear.toDate` reads a day of a March year as a year, month and day, and the lemmas at the end
say that it undoes `MarchYear.ofDate` and `MarchYear.dayOf`, and which months and days it yields.
-/

namespace Calendrics.MarchYear

/-- The March year that a month of a year belongs to. -/
def ofDate (year month : Int) : Int :=
  if month ≤ 2 then year - 1 else year

/-- Days of the March year before its month `m`, where March is month 0. -/
def daysBefore (m : Int) : Int :=
  (153 * m + 2) / 5

/-- The day of the March year, from 0, of a day of a month. -/
def dayOf (month day : Int) : Int :=
  daysBefore ((month + 9) % 12) + day - 1

/-- The year, month and day of a day, from 0, of a March year. -/
def toDate (marchYear marchDay : Int) : YearMonthDay :=
  let m := (5 * marchDay + 2) / 153
  let month := if m < 10 then m + 3 else m - 9
  { year := if month ≤ 2 then marchYear + 1 else marchYear
    month := month
    day := marchDay - daysBefore m + 1 }

/-- The month of a day of a March year, counted from March. -/
theorem month_bounds {n : Int} (h₀ : 0 ≤ n) (h₁ : n ≤ 365) :
    0 ≤ (5 * n + 2) / 153 ∧ (5 * n + 2) / 153 ≤ 11 := by
  omega

/-- Reading a day of a March year keeps the March year. -/
theorem ofDate_toDate (y : Int) {n : Int} (h₀ : 0 ≤ n) (h₁ : n ≤ 365) :
    ofDate (toDate y n).year (toDate y n).month = y := by
  have := month_bounds h₀ h₁
  simp only [toDate, ofDate]
  split <;> split <;> omega

/-- Reading a day of a March year keeps the day. -/
theorem dayOf_toDate (y : Int) {n : Int} (h₀ : 0 ≤ n) (h₁ : n ≤ 365) :
    dayOf (toDate y n).month (toDate y n).day = n := by
  have := month_bounds h₀ h₁
  simp only [toDate, dayOf, daysBefore]
  split <;> omega

/-- A day of a March year is in one of twelve months, and before 1 January exactly if it is among
the first 306 days. -/
theorem toDate_month (y : Int) {n : Int} (h₀ : 0 ≤ n) (h₁ : n ≤ 365) :
    1 ≤ (toDate y n).month ∧ (toDate y n).month ≤ 12 ∧
      (toDate y n).year = (if n < 306 then y else y + 1) := by
  have := month_bounds h₀ h₁
  simp only [toDate]
  split <;> split <;> omega

/-- A day of a March year is a day that its month has in common years, or it is 29 February. -/
theorem toDate_day (y : Int) {n : Int} (h₀ : 0 ≤ n) (h₁ : n ≤ 365) :
    1 ≤ (toDate y n).day ∧ (toDate y n).day ≤
      (if (toDate y n).month = 2 then (if n = 365 then 29 else 28)
        else if (toDate y n).month = 4 ∨ (toDate y n).month = 6 ∨ (toDate y n).month = 9 ∨
          (toDate y n).month = 11 then 30 else 31) := by
  obtain ⟨h₂, h₃⟩ := month_bounds h₀ h₁
  simp only [toDate, daysBefore]
  have hcases : (5 * n + 2) / 153 = 0 ∨ (5 * n + 2) / 153 = 1 ∨ (5 * n + 2) / 153 = 2 ∨
      (5 * n + 2) / 153 = 3 ∨ (5 * n + 2) / 153 = 4 ∨ (5 * n + 2) / 153 = 5 ∨
      (5 * n + 2) / 153 = 6 ∨ (5 * n + 2) / 153 = 7 ∨ (5 * n + 2) / 153 = 8 ∨
      (5 * n + 2) / 153 = 9 ∨ (5 * n + 2) / 153 = 10 ∨ (5 * n + 2) / 153 = 11 := by
    omega
  rcases hcases with h | h | h | h | h | h | h | h | h | h | h | h <;> simp [h] <;>
    (try split) <;> omega

end Calendrics.MarchYear
