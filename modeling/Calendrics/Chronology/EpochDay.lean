import Calendrics.Chronology.Year
import Calendrics.EpochDay.FixedYear
import Calendrics.EpochDay.Gregorian
import Calendrics.EpochDay.Julian
import Calendrics.ValueRange

/-!
# Numbering the days of a chronology

Days are numbered through, from 1 January 1970 of the Gregorian calendar, which is day 0. Each
chronology numbers its dates in its own way, so one day number is a date of every chronology:

- `epochDay` — the number of the day with a given date;
- `ofEpochDay` — the date of the day with a given number;
- `epochDayRange` — the numbers of the days in the supported years.

The main statements are that finding the date of a number keeps the number
(`epochDay_ofEpochDay`), and that the numbers in the range have dates of the chronology
(`isDate_ofEpochDay`).
-/

namespace Calendrics.Chronology

/-- The number of the day with a given date. -/
def epochDay (c : Chronology) (t : YearMonthDay) : Int :=
  match c with
  | iso => Gregorian.epochDay t
  | julian => Julian.epochDay t
  | _ => FixedYear.epochDay (c.monthLengths c.hasLeapYears) t

/-- The date of the day with a given number. -/
def ofEpochDay (c : Chronology) (e : Int) : YearMonthDay :=
  match c with
  | iso => Gregorian.ofEpochDay e
  | julian => Julian.ofEpochDay e
  | _ => FixedYear.ofEpochDay (c.monthLengths c.hasLeapYears) e

/-- The last day of the supported years. -/
def lastDate (c : Chronology) : YearMonthDay :=
  ⟨maxYear, 12, c.lengthOfMonth maxYear 12⟩

/-- The numbers of the days in the supported years. -/
def epochDayRange (c : Chronology) : ValueRange where
  min := c.epochDay (.newYear minYear)
  max := c.epochDay c.lastDate
  min_le_max := by cases c <;> decide

/-- **Finding the date of a day number keeps the number**, in every chronology. -/
theorem epochDay_ofEpochDay (c : Chronology) (e : Int) : c.epochDay (c.ofEpochDay e) = e := by
  cases c with
  | iso => exact Gregorian.epochDay_ofEpochDay e
  | julian => exact Julian.epochDay_ofEpochDay e
  | noLeap => exact FixedYear.epochDay_ofEpochDay (by decide) e
  | allLeap => exact FixedYear.epochDay_ofEpochDay (by decide) e
  | uniform30 => exact FixedYear.epochDay_ofEpochDay (by decide) e

/-- The months of the solar calendars, with the question of the leap day set apart. -/
theorem lengthOfMonth_eq_of_solar {c : Chronology} (hc : c ≠ uniform30) (year : Int) {m : Int}
    (h₁ : 1 ≤ m) (h₂ : m ≤ 12) :
    c.lengthOfMonth year m =
      (if m = 2 then (if c.isLeapYear year then 29 else 28)
        else if m = 4 ∨ m = 6 ∨ m = 9 ∨ m = 11 then 30 else 31) := by
  unfold lengthOfMonth monthsOf
  generalize c.isLeapYear year = leap
  rcases month_cases h₁ h₂ with rfl | rfl | rfl | rfl | rfl | rfl | rfl | rfl | rfl | rfl | rfl |
    rfl <;> cases c <;> cases leap <;> first | decide | exact absurd rfl hc

/-- A day of a March year is a date of a solar calendar if its year is supported, and if a 366th
day only comes before 1 March of a leap year. -/
theorem isDate_toDate {c : Chronology} (hc : c ≠ uniform30) {y n : Int} (h₀ : 0 ≤ n)
    (h₁ : n ≤ 365) (hleap : n = 365 → c.isLeapYear (y + 1) = true)
    (hmin : minYear ≤ if n < 306 then y else y + 1)
    (hmax : (if n < 306 then y else y + 1) ≤ maxYear) :
    c.IsDate (MarchYear.toDate y n) := by
  obtain ⟨hm₁, hm₂, hyear⟩ := MarchYear.toDate_month y h₀ h₁
  obtain ⟨hd₁, hd₂⟩ := MarchYear.toDate_day y h₀ h₁
  refine ⟨?_, ?_, hm₁, hm₂, hd₁, ?_⟩
  · rw [hyear]
    exact hmin
  · rw [hyear]
    exact hmax
  · rw [lengthOfMonth_eq_of_solar hc _ hm₁ hm₂]
    by_cases hfeb : (MarchYear.toDate y n).month = 2
    · rw [if_pos hfeb] at hd₂ ⊢
      by_cases hlast : n = 365
      · have hnext : (MarchYear.toDate y n).year = y + 1 := by
          rw [hyear, if_neg (by omega)]
        rw [hnext, hleap hlast]
        simpa [hlast] using hd₂
      · rw [if_neg hlast] at hd₂
        split <;> omega
    · rwa [if_neg hfeb] at hd₂ ⊢

/-- The date of a supported day number is a date of the Gregorian calendar. -/
theorem isDate_ofEpochDay_iso {e : Int} (h : e ∈ epochDayRange iso) :
    iso.IsDate (Gregorian.ofEpochDay e) := by
  have hmin : (epochDayRange iso).min = -365243219162 := by decide
  have hmax : (epochDayRange iso).max = 365241780471 := by decide
  obtain ⟨he₁, he₂⟩ := h
  rw [hmin] at he₁
  rw [hmax] at he₂
  have h₀ : 0 ≤ (e + 719468) % 146097 := Int.emod_nonneg _ (by decide)
  have h₁ : (e + 719468) % 146097 < 146097 := Int.emod_lt_of_pos _ (by decide)
  obtain ⟨hy₀, hy₁, hd₀, hd₁, hlast⟩ := Gregorian.yearOfCycle_bounds h₀ h₁
  simp only [Gregorian.ofEpochDay]
  have hdays : Gregorian.daysBeforeYear (Gregorian.yearOfCycle ((e + 719468) % 146097)) =
      Gregorian.yearOfCycle ((e + 719468) % 146097) * 365 +
        Gregorian.yearOfCycle ((e + 719468) % 146097) / 4 -
        Gregorian.yearOfCycle ((e + 719468) % 146097) / 100 := rfl
  rw [hdays] at hd₀ hd₁ hlast ⊢
  generalize Gregorian.yearOfCycle ((e + 719468) % 146097) = y at *
  refine isDate_toDate (by decide) hd₀ hd₁ (fun h => ?_) ?_ ?_
  · obtain ⟨h₄, h₁₀₀⟩ := hlast h
    simp only [isLeapYear, decide_eq_true_eq]
    omega
  · have : minYear = -999999999 := rfl
    split <;> omega
  · have : maxYear = 999999999 := rfl
    split <;> omega

/-- The date of a supported day number is a date of the Julian calendar. -/
theorem isDate_ofEpochDay_julian {e : Int} (h : e ∈ epochDayRange julian) :
    julian.IsDate (Julian.ofEpochDay e) := by
  have hmin : (epochDayRange julian).min = -365250719164 := by decide
  have hmax : (epochDayRange julian).max = 365249280469 := by decide
  obtain ⟨he₁, he₂⟩ := h
  rw [hmin] at he₁
  rw [hmax] at he₂
  have h₀ : 0 ≤ (e + 719470) % 1461 := Int.emod_nonneg _ (by decide)
  have h₁ : (e + 719470) % 1461 < 1461 := Int.emod_lt_of_pos _ (by decide)
  obtain ⟨hy₀, hy₁, hd₀, hd₁, hlast⟩ := Julian.yearOfCycle_bounds h₀ h₁
  simp only [Julian.ofEpochDay]
  generalize Julian.yearOfCycle ((e + 719470) % 1461) = y at *
  refine isDate_toDate (by decide) hd₀ hd₁ (fun h => ?_) ?_ ?_
  · have := hlast h
    simp only [isLeapYear, decide_eq_true_eq]
    omega
  · have : minYear = -999999999 := rfl
    split <;> omega
  · have : maxYear = 999999999 := rfl
    split <;> omega

/-- The date of a supported day number is a date of a calendar with years of one length. -/
theorem isDate_ofEpochDay_fixedYear {c : Chronology} {e : Int}
    (hc : ∀ year, c.monthsOf year = c.monthLengths c.hasLeapYears)
    (hsum : 0 < Months.total (c.monthLengths c.hasLeapYears))
    (hmin : (minYear - 1970) * Months.total (c.monthLengths c.hasLeapYears) ≤ e)
    (hmax : e < (maxYear + 1 - 1970) * Months.total (c.monthLengths c.hasLeapYears)) :
    c.IsDate (FixedYear.ofEpochDay (c.monthLengths c.hasLeapYears) e) := by
  obtain ⟨hm₁, hm₂, hd₁, hd₂, -⟩ :=
    FixedYear.walk_spec _ (Int.emod_nonneg e (Int.ne_of_gt hsum)) (Int.emod_lt_of_pos e hsum)
  rw [length_monthLengths] at hm₂
  have h₁ : minYear - 1970 ≤ e / Months.total (c.monthLengths c.hasLeapYears) :=
    Int.le_ediv_of_mul_le hsum hmin
  have h₂ : e / Months.total (c.monthLengths c.hasLeapYears) < maxYear + 1 - 1970 :=
    Int.ediv_lt_of_lt_mul hsum hmax
  refine ⟨?_, ?_, hm₁, hm₂, hd₁, ?_⟩
  · show minYear ≤ e / Months.total (c.monthLengths c.hasLeapYears) + 1970
    omega
  · show e / Months.total (c.monthLengths c.hasLeapYears) + 1970 ≤ maxYear
    omega
  · unfold lengthOfMonth
    rw [hc]
    exact hd₂

/-- **The day numbers in the range have dates of the chronology.** -/
theorem isDate_ofEpochDay {c : Chronology} {e : Int} (h : e ∈ c.epochDayRange) :
    c.IsDate (c.ofEpochDay e) := by
  cases c with
  | iso => exact isDate_ofEpochDay_iso h
  | julian => exact isDate_ofEpochDay_julian h
  | noLeap =>
    exact isDate_ofEpochDay_fixedYear (fun _ => rfl) (by decide)
      (Int.le_trans (by decide) h.1) (Int.lt_of_le_of_lt h.2 (by decide))
  | allLeap =>
    exact isDate_ofEpochDay_fixedYear (fun _ => rfl) (by decide)
      (Int.le_trans (by decide) h.1) (Int.lt_of_le_of_lt h.2 (by decide))
  | uniform30 =>
    exact isDate_ofEpochDay_fixedYear (fun _ => rfl) (by decide)
      (Int.le_trans (by decide) h.1) (Int.lt_of_le_of_lt h.2 (by decide))

end Calendrics.Chronology
