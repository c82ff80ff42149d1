import Calendrics.Proofs.Strides

/-!
# Fields in their ranges

The range of a field in a chronology is made of the longest month and the longest year. Every date
stays in it: its month and its year are no longer than these, and its day is in both.

* `dayOfYear_le_lengthOfYear` — the day of the year exists in the year;
* `get_mem_validRange` — **every field of every date is in the range of its chronology**;
* `day_le`, `prolepticMonth_bounds`, `epochDay_bounds`, `bounds_of_mem_validRange` — how large the
  numbers get, in figures.
-/

namespace Calendrics

namespace Chronology

variable {m : Int}

/-- No month is longer than the longest. -/
theorem longestMonth_le_longestMonthOfAll (c : Chronology) (h₁ : 1 ≤ m) (h₂ : m ≤ 12) :
    c.longestMonth m ≤ c.longestMonthOfAll := by
  rcases month_cases h₁ h₂ with rfl | rfl | rfl | rfl | rfl | rfl | rfl | rfl | rfl | rfl | rfl |
    rfl <;> cases c <;> decide

/-- The longest month has at most 31 days. -/
theorem longestMonthOfAll_le (c : Chronology) : c.longestMonthOfAll ≤ 31 := by
  cases c <;> decide

/-- No year is longer than the longest. -/
theorem lengthOfYear_le_longestYear (c : Chronology) (year : Int) :
    c.lengthOfYear year ≤ c.longestYear := by
  have hleap : c.isLeapYear year = true → c.hasLeapYears = true := by
    cases c <;> simp [isLeapYear, hasLeapYears]
  unfold lengthOfYear longestYear monthsOf
  generalize c.isLeapYear year = leap at hleap
  cases c <;> cases leap <;> first | decide | exact absurd (hleap rfl) (by decide)

/-- The months up to a month of the year are no longer than the year. -/
theorem daysBeforeMonth_add_lengthOfMonth_le (c : Chronology) (year : Int) (h₁ : 1 ≤ m)
    (h₂ : m ≤ 12) : c.daysBeforeMonth year m + c.lengthOfMonth year m ≤ c.lengthOfYear year := by
  unfold daysBeforeMonth lengthOfMonth lengthOfYear monthsOf
  generalize c.isLeapYear year = leap
  rcases month_cases h₁ h₂ with rfl | rfl | rfl | rfl | rfl | rfl | rfl | rfl | rfl | rfl | rfl |
    rfl <;> cases c <;> cases leap <;> decide

end Chronology

namespace Date

/-- No day of a month is later than the last day of the longest. -/
theorem day_le_longestMonthOfAll (d : Date) : d.day ≤ d.chronology.longestMonthOfAll := by
  obtain ⟨-, -, hm₁, hm₂, -, hd⟩ := d.isDate
  calc d.day ≤ d.chronology.lengthOfMonth d.year d.month := hd
    _ ≤ d.chronology.longestMonth d.month := d.chronology.lengthOfMonth_le_longestMonth _ hm₁ hm₂
    _ ≤ d.chronology.longestMonthOfAll := d.chronology.longestMonth_le_longestMonthOfAll hm₁ hm₂

/-- Days of the year are counted from 1. -/
theorem one_le_dayOfYear (d : Date) : 1 ≤ d.dayOfYear := by
  obtain ⟨-, -, hm₁, hm₂, hd, -⟩ := d.isDate
  have hbefore := d.chronology.daysBeforeMonth_bounds d.year hm₁ (by omega)
  unfold dayOfYear
  omega

/-- **The day of the year exists in the year.** -/
theorem dayOfYear_le_lengthOfYear (d : Date) : d.dayOfYear ≤ d.lengthOfYear := by
  obtain ⟨-, -, hm₁, hm₂, -, hd⟩ := d.isDate
  calc d.dayOfYear ≤ d.chronology.daysBeforeMonth d.year d.month +
        d.chronology.lengthOfMonth d.year d.month := Int.add_le_add_left hd _
    _ ≤ d.lengthOfYear := d.chronology.daysBeforeMonth_add_lengthOfMonth_le d.year hm₁ hm₂

/-- So it does in the longest year. -/
theorem dayOfYear_le_longestYear (d : Date) : d.dayOfYear ≤ d.chronology.longestYear :=
  d.dayOfYear_le_lengthOfYear.trans (d.chronology.lengthOfYear_le_longestYear d.year)

/-- Weekdays are from 1 to 7, before day 0 too. -/
theorem dayOfWeek_bounds (d : Date) : 1 ≤ d.dayOfWeek ∧ d.dayOfWeek ≤ 7 := by
  simp only [dayOfWeek, daysPerWeek]
  omega

/-- Places in groups of seven are from 1 to 7. -/
theorem placeInWeek_bounds (n : Int) : 1 ≤ placeInWeek n ∧ placeInWeek n ≤ 7 := by
  unfold placeInWeek daysPerWeek
  omega

/-- A count up to a number of days comes to no more groups of seven than cover the days. -/
theorem numberOfWeek_bounds {n days : Int} (h₁ : 1 ≤ n) (h₂ : n ≤ days) :
    1 ≤ numberOfWeek n ∧ numberOfWeek n ≤ weeksCovering days := by
  unfold numberOfWeek weeksCovering daysPerWeek
  omega

/-- **Every field of a date is in the range of its chronology.** -/
theorem get_mem_validRange (d : Date) (f : Field) : d.get f ∈ d.chronology.validRange f := by
  obtain ⟨hy₁, hy₂, hm₁, hm₂, hd₁, -⟩ := d.isDate
  cases f with
  | dayOfWeek => exact d.dayOfWeek_bounds
  | alignedDayOfWeekInMonth => exact placeInWeek_bounds d.day
  | alignedDayOfWeekInYear => exact placeInWeek_bounds d.dayOfYear
  | dayOfMonth => exact ⟨hd₁, d.day_le_longestMonthOfAll⟩
  | dayOfYear => exact ⟨d.one_le_dayOfYear, d.dayOfYear_le_longestYear⟩
  | epochDay => exact d.epochDay_mem_epochDayRange
  | alignedWeekOfMonth => exact numberOfWeek_bounds hd₁ d.day_le_longestMonthOfAll
  | alignedWeekOfYear => exact numberOfWeek_bounds d.one_le_dayOfYear d.dayOfYear_le_longestYear
  | monthOfYear => exact ⟨hm₁, hm₂⟩
  | prolepticMonth => exact ⟨d.firstMonth_le_prolepticMonth, d.prolepticMonth_le_lastMonth⟩
  | yearOfEra =>
    refine ⟨Era.one_le_yearOfEra d.year, ?_⟩
    change Era.yearOfEra d.year ≤ 1 - minYear
    simp only [minYear, maxYear, Era.yearOfEra] at hy₁ hy₂ ⊢
    split <;> omega
  | year => exact ⟨hy₁, hy₂⟩
  | era =>
    change d.era.value ∈ Era.valueRange
    cases d.era <;> decide

/-! ## Figures -/

/-- There are at most 31 days in a month. -/
theorem day_le (d : Date) : d.day ≤ 31 :=
  d.day_le_longestMonthOfAll.trans d.chronology.longestMonthOfAll_le

/-- There are at most 366 days in a year. -/
theorem dayOfYear_le (d : Date) : d.dayOfYear ≤ 366 := by
  have hlongest : d.chronology.longestYear ≤ 366 := by
    cases d.chronology <;> decide
  exact d.dayOfYear_le_longestYear.trans hlongest

/-- The months of dates stay below twelve thousand millions on either side. -/
theorem prolepticMonth_bounds (d : Date) :
    -12000000000 ≤ d.prolepticMonth ∧ d.prolepticMonth ≤ 12000000000 := by
  have h₁ := d.firstMonth_le_prolepticMonth
  have h₂ := d.prolepticMonth_le_lastMonth
  simp only [Chronology.firstMonth, Chronology.lastMonth, minYear, maxYear, monthsPerYear] at h₁ h₂
  omega

/-- Their day numbers stay below four hundred thousand millions. -/
theorem epochDay_bounds (d : Date) : -400000000000 ≤ d.epochDay ∧ d.epochDay ≤ 400000000000 := by
  obtain ⟨h₁, h₂⟩ := d.epochDay_mem_epochDayRange
  obtain ⟨h₃, h₄⟩ := d.chronology.epochDayRange_bounds
  exact ⟨h₃.trans h₁, h₂.trans h₄⟩

/-- No field has larger values. -/
theorem bounds_of_mem_validRange {c : Chronology} {f : Field} {value : Int}
    (h : value ∈ c.validRange f) : -400000000000 ≤ value ∧ value ≤ 400000000000 := by
  have hbounds : -400000000000 ≤ (c.validRange f).min ∧ (c.validRange f).max ≤ 400000000000 := by
    cases c <;> cases f <;> decide
  exact ⟨hbounds.1.trans h.1, h.2.trans hbounds.2⟩

end Date

end Calendrics
