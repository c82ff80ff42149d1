import Mathlib.Algebra.BigOperators.Intervals
import Calendrics.Proofs.Bijection

/-!
# The day after, and the days since 1970

The leap rule and the month lengths say on their own which date follows which, and how many days
lie between two years. This module compares both with the day numbers:

* `nextDate` is the day after a date as the month lengths have it, and `epochDay_nextDate` says
  that its number is the next number;
* `daysBetweenYears` adds up the lengths of the years between two years, and
  `daysBetweenYears_eq` says that this is the distance between their first days.

`epochDay_follows_calendar` puts both together: day numbers are determined by the leap rule, the
month lengths and the number of one day.
-/

namespace Calendrics

namespace Chronology

/-! ## The day after -/

/-- The date after a date: the next day of the month, or the first of the next month, or the
first day of the next year. -/
def nextDate (c : Chronology) (t : YearMonthDay) : YearMonthDay :=
  if t.day < c.lengthOfMonth t.year t.month then ⟨t.year, t.month, t.day + 1⟩
  else if t.month < 12 then ⟨t.year, t.month + 1, 1⟩
  else .newYear (t.year + 1)

/-- The first of a month is a day of it. -/
theorem isDate_first {c : Chronology} {year month : Int} (hy₁ : minYear ≤ year)
    (hy₂ : year ≤ maxYear) (hm₁ : 1 ≤ month) (hm₂ : month ≤ 12) : c.IsDate ⟨year, month, 1⟩ where
  min_le_year := hy₁
  year_le_max := hy₂
  one_le_month := hm₁
  month_le := hm₂
  one_le_day := Int.le_refl 1
  day_le := (c.isDay_first year hm₁ hm₂).day_le

/-- The day after a supported day is supported, unless the day is the last. -/
theorem IsDate.nextDate {c : Chronology} {t : YearMonthDay} (h : c.IsDate t)
    (hlast : t ≠ c.lastDate) : c.IsDate (c.nextDate t) := by
  obtain ⟨hy₁, hy₂, hm₁, hm₂, hd₁, hd₂⟩ := h
  by_cases hday : t.day < c.lengthOfMonth t.year t.month
  · rw [Chronology.nextDate, if_pos hday]
    exact ⟨hy₁, hy₂, hm₁, hm₂, Int.le_add_one hd₁, hday⟩
  by_cases hmonth : t.month < 12
  · rw [Chronology.nextDate, if_neg hday, if_pos hmonth]
    exact isDate_first hy₁ hy₂ (Int.le_add_one hm₁) hmonth
  · -- on the last day of December a next year is left, since the day is not the last
    have hm : t.month = 12 := by omega
    have hd : t.day = c.lengthOfMonth t.year 12 := by
      rw [hm] at hd₂ hday
      omega
    have hy : t.year ≠ maxYear := by
      intro hy
      refine hlast (YearMonthDay.ext hy hm ?_)
      rw [hd, hy]
      rfl
    rw [Chronology.nextDate, if_neg hday, if_neg hmonth]
    exact isDate_first (Int.le_add_one hy₁) (lt_of_le_of_ne hy₂ hy) (by decide) (by decide)

/-- **The day after a date has the next number.** -/
theorem epochDay_nextDate {c : Chronology} {t : YearMonthDay} (h : c.IsDate t) :
    c.epochDay (c.nextDate t) = c.epochDay t + 1 := by
  obtain ⟨-, -, hm₁, hm₂, -, hd₂⟩ := h
  have ht := c.epochDay_eq_first_add t
  by_cases hday : t.day < c.lengthOfMonth t.year t.month
  · have hnext := c.epochDay_eq_first_add ⟨t.year, t.month, t.day + 1⟩
    rw [nextDate, if_pos hday, hnext, ht]
    dsimp only
    omega
  by_cases hmonth : t.month < 12
  · rw [nextDate, if_neg hday, if_pos hmonth, c.epochDay_nextMonth t.year hm₁ (by omega), ht]
    omega
  · have hm : t.month = 12 := by omega
    rw [hm] at hd₂ hday ht
    rw [nextDate, hm, if_neg hday, if_neg (by decide), c.epochDay_nextYear, ht]
    omega

/-! ## The days since 1970 -/

/-- The days from the first day of a year to the first day of another, counted by the lengths of
the years between them, and negative if the other is earlier. -/
def daysBetweenYears (c : Chronology) (y z : Int) : Int :=
  ∑ i ∈ Finset.range (z - y).toNat, c.lengthOfYear (y + i) -
    ∑ i ∈ Finset.range (y - z).toNat, c.lengthOfYear (z + i)

/-- The number of 1 January 1970: only the Julian calendar is not at day 0 then. -/
theorem epochDay_1970 (c : Chronology) :
    c.epochDay (.newYear 1970) = if c = julian then 13 else 0 := by
  cases c <;> decide

/-- The lengths of the years from a year on add up to the distance between the first days. -/
theorem sum_lengthOfYear (c : Chronology) (y : Int) (n : Nat) :
    ∑ i ∈ Finset.range n, c.lengthOfYear (y + i) =
      c.epochDay (.newYear (y + n)) - c.epochDay (.newYear y) := by
  induction n with
  | zero => simp
  | succ n ih =>
    have hnext := c.epochDay_newYear_succ (y + n)
    rw [Finset.sum_range_succ, ih, Int.natCast_add_one, ← Int.add_assoc]
    omega

/-- **The years between two years make up the distance between their first days**, in either
direction. -/
theorem daysBetweenYears_eq (c : Chronology) (y z : Int) :
    c.daysBetweenYears y z = c.epochDay (.newYear z) - c.epochDay (.newYear y) := by
  rw [daysBetweenYears, sum_lengthOfYear, sum_lengthOfYear]
  -- one of the two sums is over no years
  rcases Int.le_total y z with h | h
  · have hz : y + ((z - y).toNat : Int) = z := by omega
    have hempty : z + ((y - z).toNat : Int) = z := by omega
    rw [hz, hempty, Int.sub_self, Int.sub_zero]
  · have hy : z + ((y - z).toNat : Int) = y := by omega
    have hempty : y + ((z - y).toNat : Int) = y := by omega
    rw [hy, hempty, Int.sub_self, Int.zero_sub, Int.neg_sub]

end Chronology

namespace Date

/-- The number of a date is that of the first day of its year and the day of the year. -/
theorem epochDay_eq_newYear_add (d : Date) :
    d.epochDay = d.chronology.epochDay (.newYear d.year) + d.dayOfYear - 1 := by
  obtain ⟨-, -, hm₁, hm₂, -, -⟩ := d.isDate
  rw [epochDay, d.chronology.epochDay_eq_first_add,
    d.chronology.epochDay_first_eq_newYear_add d.year hm₁ hm₂, dayOfYear]
  omega

/-- **Day numbers follow the calendar.** The date with the next number is the next date by the
month lengths; 1 January 1970 is day 0, or day 13 in the Julian calendar; and every date has the
number that the lengths of the years since then and the day of the year add up to. -/
theorem epochDay_follows_calendar (c : Chronology) :
    (∀ d : Date, d.chronology = c → d.toYearMonthDay ≠ c.lastDate →
      ∃ next, ofEpochDay c (d.epochDay + 1) = .ok next ∧ next.chronology = c ∧
        next.toYearMonthDay = c.nextDate d.toYearMonthDay) ∧
    c.epochDay ⟨1970, 1, 1⟩ = (if c = .julian then 13 else 0) ∧
    (∀ d : Date, d.chronology = c → d.epochDay =
      c.epochDay ⟨1970, 1, 1⟩ + c.daysBetweenYears 1970 d.year + d.dayOfYear - 1) := by
  refine ⟨?_, c.epochDay_1970, ?_⟩
  · rintro d rfl hlast
    refine ⟨⟨_, _, d.isDate.nextDate hlast⟩, ?_, rfl, rfl⟩
    exact ofEpochDay_eq_ok_iff.mpr ⟨rfl, Chronology.epochDay_nextDate d.isDate⟩
  · rintro d rfl
    rw [epochDay_eq_newYear_add, Chronology.daysBetweenYears_eq]
    change _ = d.chronology.epochDay (.newYear 1970) + _ + _ - 1
    omega

/-- At the last day of February of a century that is no leap year in the Gregorian calendar: after
28 February 1900, day -25509, comes 1 March; and -25509 is what the seventy years back from 1970
and the 59 days of 1900 add up to. -/
theorem epochDay_follows_calendar_1900 :
    (⟨1900, 2, 28⟩ : YearMonthDay) ≠ Chronology.iso.lastDate ∧
      (∃ next, ofEpochDay .iso (-25509 + 1) = .ok next ∧ next.chronology = .iso ∧
        next.toYearMonthDay = ⟨1900, 3, 1⟩) ∧
      -25509 = 0 + Chronology.iso.daysBetweenYears 1970 1900 + 59 - 1 := by
  have hlast : (⟨1900, 2, 28⟩ : YearMonthDay) ≠ Chronology.iso.lastDate := by decide
  have hnumber : Chronology.iso.epochDay ⟨1900, 2, 28⟩ = -25509 := by decide
  have hnext : Chronology.iso.nextDate ⟨1900, 2, 28⟩ = ⟨1900, 3, 1⟩ := by decide
  have hdays : Chronology.iso.daysBeforeMonth 1900 2 + 28 = 59 := by decide
  obtain ⟨hsucc, hzero, hsum⟩ := epochDay_follows_calendar .iso
  have hafter := hsucc ⟨⟨1900, 2, 28⟩, .iso, by decide⟩ rfl hlast
  have hcount := hsum ⟨⟨1900, 2, 28⟩, .iso, by decide⟩ rfl
  refine ⟨hlast, ?_, ?_⟩
  · rw [hnext] at hafter
    rwa [← hnumber]
  · rw [epochDay, dayOfYear, hnumber, hzero, hdays] at hcount
    exact hcount

end Date

end Calendrics
