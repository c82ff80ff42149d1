import Mathlib.Order.Bounds.Basic
import Calendrics.Proofs.LenientDates
import Calendrics.Proofs.ReadBack

/-!
# The values that fields take

A range promises two things: no date has a value outside it, and it is no larger than it has to be.
`Calendrics.Proofs.FieldRanges` is about the first, this module about the second. Ranges turn out to
have no gaps either: every value in the range of a field is taken, by a date of the chronology or,
where the range is narrower, by a date of the month or the year at hand.

Such a date is found by a day of its month, a day of its year or a day number, since every field is
read off one of these. The first day of 2000 begins a month and a year as long as any, so what holds
of its month and its year holds of the chronology.

* `exists_dayOfYear_eq` — **every day of a year has a date**;
* `exists_get_eq` — **every value in the range of a chronology is taken**;
* `exists_get_eq_in_scope` — every value in the range of a date is taken, by a date of its scope;
* `ranges_exact` — **ranges are the values that fields take**, with the least and the greatest as
  their ends.
-/

namespace Calendrics

namespace Chronology

variable {c : Chronology} {f : Field} {year n e : Int}

/-- The values that a field takes over the dates of a chronology. -/
def valuesOf (c : Chronology) (f : Field) : Set Int :=
  {v | ∃ d : Date, d.chronology = c ∧ d.get f = v}

/-! ## Supported day numbers -/

/-- The last day number is the one before the first day of the year after the last. -/
theorem epochDayRange_max_add_one (c : Chronology) :
    c.epochDayRange.max + 1 = c.yearStart (maxYear + 1) := by
  have hlast := c.epochDay_eq_first_add c.lastDate
  have hnext := c.epochDay_nextYear maxYear
  change c.epochDay c.lastDate + 1 = c.epochDay (.newYear (maxYear + 1))
  rw [hlast, hnext]
  simp only [lastDate]
  omega

/-- The days of supported years have supported numbers. -/
theorem mem_epochDayRange_of_year (hy : year ∈ yearRange) (h₁ : 1 ≤ n)
    (h₂ : n ≤ c.lengthOfYear year) : c.yearStart year + n - 1 ∈ c.epochDayRange := by
  have hfirst : c.epochDayRange.min ≤ c.yearStart year := c.tiles_years.start_mono hy.1
  have hlast : c.yearStart year + c.lengthOfYear year ≤ c.yearStart (maxYear + 1) :=
    c.tiles_years.start_add_length_le (Int.lt_add_one_of_le hy.2)
  rw [← epochDayRange_max_add_one] at hlast
  rw [ValueRange.mem_iff]
  omega

/-- The days around day 0 are supported in every chronology. -/
theorem mem_epochDayRange_of_near (h₁ : -3 ≤ e) (h₂ : e ≤ 3) : e ∈ c.epochDayRange := by
  have hends : c.epochDayRange.min ≤ -3 ∧ 3 ≤ c.epochDayRange.max := by
    cases c <;> decide
  exact ⟨hends.1.trans h₁, h₂.trans hends.2⟩

end Chronology

namespace Date

variable {c : Chronology} {d d' : Date} {f : Field} {n v e days : Int}

/-! ## Groups of seven -/

/-- In the first group of seven, places are counts. -/
theorem placeInWeek_of_le_seven (h₁ : 1 ≤ n) (h₂ : n ≤ 7) : placeInWeek n = n := by
  simp only [placeInWeek, daysPerWeek]
  omega

/-- Each of the groups of seven that cover a number of days has one of the days. -/
theorem exists_numberOfWeek_eq (h₁ : 1 ≤ v) (h₂ : v ≤ weeksCovering days) :
    ∃ n, 1 ≤ n ∧ n ≤ days ∧ numberOfWeek n = v := by
  simp only [weeksCovering] at h₂
  refine ⟨7 * (v - 1) + 1, by omega, by omega, ?_⟩
  simp only [numberOfWeek, daysPerWeek]
  omega

/-! ## Dates with given numbers -/

/-- Every supported day number has a date. -/
theorem exists_epochDay_eq (he : e ∈ c.epochDayRange) :
    ∃ d : Date, d.chronology = c ∧ d.epochDay = e := by
  obtain ⟨d, hd⟩ := exists_ofEpochDay_iff.mpr he
  exact ⟨d, ofEpochDay_eq_ok_iff.mp hd⟩

/-- Every day of a month has a date. -/
theorem exists_day_eq (d : Date) (h₁ : 1 ≤ n) (h₂ : n ≤ d.lengthOfMonth) :
    ∃ d' : Date, d'.chronology = d.chronology ∧ d.SameMonth d' ∧ d'.day = n := by
  obtain ⟨hy₁, hy₂, hm₁, hm₂, -, -⟩ := d.isDate
  exact ⟨⟨⟨d.year, d.month, n⟩, d.chronology, hy₁, hy₂, hm₁, hm₂, h₁, h₂⟩, rfl, ⟨rfl, rfl⟩, rfl⟩

/-- **Every day of a year has a date.** -/
theorem exists_dayOfYear_eq (d : Date) (h₁ : 1 ≤ n) (h₂ : n ≤ d.lengthOfYear) :
    ∃ d' : Date, d'.chronology = d.chronology ∧ d'.year = d.year ∧ d'.dayOfYear = n := by
  obtain ⟨d', hc, he⟩ := exists_epochDay_eq
    (Chronology.mem_epochDayRange_of_year d.year_mem_yearRange h₁ h₂)
  have hplace : d.chronology.yearStart d'.year + d'.dayOfYear =
      d.chronology.yearStart d.year + n := by
    rw [epochDay_eq_newYear_add, hc] at he
    change d.chronology.yearStart d'.year + d'.dayOfYear - 1 = _ at he
    omega
  obtain ⟨hyear, hday⟩ := d.chronology.tiles_years.place_unique d'.one_le_dayOfYear
    (dayOfYear_le_of_chronology hc) h₁ h₂ hplace
  exact ⟨d', hc, hyear, hday⟩

/-- Every week of a month has a date. -/
theorem exists_alignedWeekOfMonth_eq (d : Date) (h₁ : 1 ≤ v)
    (h₂ : v ≤ weeksCovering d.lengthOfMonth) :
    ∃ d' : Date, d'.chronology = d.chronology ∧ d.SameMonth d' ∧ d'.alignedWeekOfMonth = v := by
  obtain ⟨n, hn₁, hn₂, rfl⟩ := exists_numberOfWeek_eq h₁ h₂
  obtain ⟨d', hc, hmonth, rfl⟩ := d.exists_day_eq hn₁ hn₂
  exact ⟨d', hc, hmonth, rfl⟩

/-! ## Every value is taken -/

/-- The first day of the year 2000. -/
def newYear2000 (c : Chronology) : Date where
  toYearMonthDay := .newYear 2000
  chronology := c
  isDate := Chronology.isDate_first (by decide) (by decide) (by decide) (by decide)

/-- It begins a month as long as any. -/
theorem lengthOfMonth_newYear2000 (c : Chronology) :
    (newYear2000 c).lengthOfMonth = c.longestMonthOfAll := by
  cases c <;> rfl

/-- It begins a year as long as any. -/
theorem lengthOfYear_newYear2000 (c : Chronology) :
    (newYear2000 c).lengthOfYear = c.longestYear := by
  rw [lengthOfYear, Chronology.lengthOfYear, Chronology.longestYear, ← c.isLeapYear_2000]
  rfl

/-- The first of every month and the first day of every year are dates. -/
theorem exists_first_eq {year month : Int} (hy : year ∈ yearRange) (hm : month ∈ monthRange) :
    ∃ d : Date, d.chronology = c ∧ d.year = year ∧ d.month = month :=
  ⟨⟨⟨year, month, 1⟩, c, Chronology.isDate_first hy.1 hy.2 hm.1 hm.2⟩, rfl, rfl, rfl⟩

/-- **Every value in the range of a chronology is taken.** -/
theorem exists_get_eq (hv : v ∈ c.validRange f) : ∃ d : Date, d.chronology = c ∧ d.get f = v := by
  have hmonth := lengthOfMonth_newYear2000 c
  have hyear := lengthOfYear_newYear2000 c
  have hweek : 7 ≤ (newYear2000 c).lengthOfMonth ∧ 7 ≤ (newYear2000 c).lengthOfYear := by
    cases c <;> decide
  have h2000 := (newYear2000 c).year_mem_yearRange
  have hjanuary : (1 : Int) ∈ monthRange := ⟨by decide, by decide⟩
  have ⟨hv₁, hv₂⟩ := hv
  cases f with
  | dayOfMonth =>
    obtain ⟨d, hc, -, hd⟩ := (newYear2000 c).exists_day_eq hv₁ (hv₂.trans_eq hmonth.symm)
    exact ⟨d, hc, hd⟩
  | alignedDayOfWeekInMonth =>
    obtain ⟨d, hc, -, rfl⟩ := (newYear2000 c).exists_day_eq hv₁ (hv₂.trans hweek.1)
    exact ⟨d, hc, placeInWeek_of_le_seven hv₁ hv₂⟩
  | alignedWeekOfMonth =>
    obtain ⟨d, hc, -, hd⟩ := (newYear2000 c).exists_alignedWeekOfMonth_eq hv₁
      (hv₂.trans_eq (congrArg weeksCovering hmonth.symm))
    exact ⟨d, hc, hd⟩
  | dayOfYear =>
    obtain ⟨d, hc, -, hd⟩ := (newYear2000 c).exists_dayOfYear_eq hv₁ (hv₂.trans_eq hyear.symm)
    exact ⟨d, hc, hd⟩
  | alignedDayOfWeekInYear =>
    obtain ⟨d, hc, -, rfl⟩ := (newYear2000 c).exists_dayOfYear_eq hv₁ (hv₂.trans hweek.2)
    exact ⟨d, hc, placeInWeek_of_le_seven hv₁ hv₂⟩
  | alignedWeekOfYear =>
    obtain ⟨n, hn₁, hn₂, rfl⟩ := exists_numberOfWeek_eq hv₁ hv₂
    obtain ⟨d, hc, -, rfl⟩ := (newYear2000 c).exists_dayOfYear_eq hn₁ (hn₂.trans_eq hyear.symm)
    exact ⟨d, hc, rfl⟩
  | epochDay => exact exists_epochDay_eq hv
  | dayOfWeek =>
    -- day 0 is a Thursday, the fourth day of its week
    change 1 ≤ v at hv₁
    change v ≤ 7 at hv₂
    obtain ⟨d, hc, he⟩ := exists_epochDay_eq (c := c) (e := v - 4)
      (Chronology.mem_epochDayRange_of_near (by omega) (by omega))
    refine ⟨d, hc, ?_⟩
    simp only [get, dayOfWeek, he, daysPerWeek]
    omega
  | monthOfYear =>
    obtain ⟨d, hc, -, hm⟩ := exists_first_eq (c := c) h2000 hv
    exact ⟨d, hc, hm⟩
  | prolepticMonth =>
    obtain ⟨d, hc, hm, -⟩ := (newYear2000 c).exists_in_month hv₁ hv₂
    exact ⟨d, hc, hm⟩
  | year =>
    obtain ⟨d, hc, hy, -⟩ := exists_first_eq (c := c) hv hjanuary
    exact ⟨d, hc, hy⟩
  | yearOfEra =>
    -- only the earlier era has the last of these years
    have hy : Era.beforeCommon.year v ∈ yearRange := by
      change 1 ≤ v at hv₁
      change v ≤ 1 - minYear at hv₂
      simp only [Era.year, mem_yearRange, minYear, maxYear] at hv₂ ⊢
      omega
    obtain ⟨d, hc, hyear, -⟩ := exists_first_eq (c := c) hy hjanuary
    refine ⟨d, hc, ?_⟩
    change Era.yearOfEra d.year = v
    rw [hyear, Era.yearOfEra_year _ hv₁]
  | era =>
    obtain ⟨era, rfl⟩ := Era.exists_value_eq hv
    have hy : era.year 1 ∈ yearRange := by
      cases era <;> exact ⟨by decide, by decide⟩
    obtain ⟨d, hc, hyear, -⟩ := exists_first_eq (c := c) hy hjanuary
    refine ⟨d, hc, ?_⟩
    change (Era.ofYear d.year).value = era.value
    rw [hyear, Era.ofYear_year _ (Int.le_refl 1)]

/-! ## Ranges are values -/

/-- The least value of a field is where its range begins. -/
theorem isLeast_validRange (c : Chronology) (f : Field) :
    IsLeast (c.valuesOf f) (c.validRange f).min := by
  refine ⟨exists_get_eq ⟨Int.le_refl _, (c.validRange f).min_le_max⟩, ?_⟩
  rintro _ ⟨d, rfl, rfl⟩
  exact (d.get_mem_validRange f).1

/-- The greatest value of a field is where its range ends. -/
theorem isGreatest_validRange (c : Chronology) (f : Field) :
    IsGreatest (c.valuesOf f) (c.validRange f).max := by
  refine ⟨exists_get_eq ⟨(c.validRange f).min_le_max, Int.le_refl _⟩, ?_⟩
  rintro _ ⟨d, rfl, rfl⟩
  exact (d.get_mem_validRange f).2

/-- The dates that the range of a field on a date is about: for days and weeks of the month those of
the same month, for days of the year those of the same year, and for every other field all dates of
the chronology. -/
def scope (d : Date) (f : Field) : Set Date :=
  {d' | d'.chronology = d.chronology ∧
    match f with
    | .dayOfMonth | .alignedWeekOfMonth => d.SameMonth d'
    | .dayOfYear => d'.year = d.year
    | _ => True}

/-- A date is in its own scope. -/
theorem mem_scope_self (d : Date) (f : Field) : d ∈ d.scope f := by
  cases f <;> simp [scope, SameMonth]

/-- Dates in the scope of a date have their values in its range. -/
theorem get_mem_range_of_mem_scope (h : d' ∈ d.scope f) : d'.get f ∈ d.range f := by
  obtain ⟨hc, hscope⟩ := h
  have hmonth : d.SameMonth d' → d'.day ≤ d.lengthOfMonth := by
    intro hsame
    rw [← lengthOfMonth_congr hc (sameMonth_iff.mp hsame)]
    exact d'.isDate.day_le
  cases f with
  | dayOfMonth => exact ⟨d'.isDate.one_le_day, hmonth hscope⟩
  | alignedWeekOfMonth => exact numberOfWeek_bounds d'.isDate.one_le_day (hmonth hscope)
  | dayOfYear =>
    have hyear := dayOfYear_le_of_chronology hc
    rw [show d'.year = d.year from hscope] at hyear
    exact ⟨d'.one_le_dayOfYear, hyear⟩
  | _ =>
    change _ ∈ d.chronology.validRange _
    rw [← hc]
    exact d'.get_mem_validRange _

/-- **Every value in the range of a date is taken**, by a date in its scope. -/
theorem exists_get_eq_in_scope (hv : v ∈ d.range f) : ∃ d' ∈ d.scope f, d'.get f = v := by
  cases f with
  | dayOfMonth =>
    obtain ⟨d', hc, hmonth, hd⟩ := d.exists_day_eq hv.1 hv.2
    exact ⟨d', ⟨hc, hmonth⟩, hd⟩
  | alignedWeekOfMonth =>
    obtain ⟨d', hc, hmonth, hd⟩ := d.exists_alignedWeekOfMonth_eq hv.1 hv.2
    exact ⟨d', ⟨hc, hmonth⟩, hd⟩
  | dayOfYear =>
    obtain ⟨d', hc, hyear, hd⟩ := d.exists_dayOfYear_eq hv.1 hv.2
    exact ⟨d', ⟨hc, hyear⟩, hd⟩
  | _ =>
    obtain ⟨d', hc, hd⟩ := exists_get_eq hv
    exact ⟨d', ⟨hc, trivial⟩, hd⟩

/-- **The range of a field on a date** is the values that the field takes in its scope. -/
theorem mem_range_iff : v ∈ d.range f ↔ ∃ d' ∈ d.scope f, d'.get f = v := by
  refine ⟨exists_get_eq_in_scope, ?_⟩
  rintro ⟨d', hscope, rfl⟩
  exact get_mem_range_of_mem_scope hscope

/-- The range of a field on a date is part of that in its chronology. -/
theorem mem_validRange_of_mem_range (hv : v ∈ d.range f) : v ∈ d.chronology.validRange f := by
  obtain ⟨d', ⟨hc, -⟩, rfl⟩ := exists_get_eq_in_scope hv
  rw [← hc]
  exact d'.get_mem_validRange f

/-- **Ranges are exact.** In a chronology, the ends of the range of a field are the least and the
greatest value that the field takes on any date. A date has its value in its own range, which is part
of that of its chronology. And the range of a field on a date is no more than the values that the
field takes in the scope of the date: in its month for days and weeks of the month, in its year for
days of the year, in its chronology for every other field. -/
theorem ranges_exact :
    (∀ (c : Chronology) (f : Field), IsLeast (c.valuesOf f) (c.validRange f).min ∧
      IsGreatest (c.valuesOf f) (c.validRange f).max) ∧
    (∀ (d : Date) (f : Field), d.get f ∈ d.range f ∧
      ∀ v ∈ d.range f, v ∈ d.chronology.validRange f) ∧
    ∀ (d : Date) (f : Field) (v : Int), v ∈ d.range f ↔ ∃ d' ∈ d.scope f, d'.get f = v := by
  refine ⟨fun c f => ⟨isLeast_validRange c f, isGreatest_validRange c f⟩, ?_, ?_⟩
  · intro d f
    exact ⟨get_mem_range_of_mem_scope (d.mem_scope_self f), fun v => mem_validRange_of_mem_range⟩
  · intro d f v
    exact mem_range_iff

/-- February 2021 has four weeks, so that on its dates the range of the week ends at the fourth, and
no date in it is in a fifth, which other months of the chronology have. The year of the era goes up to
1000000000, the number of the first supported year; that of the last is one less. -/
theorem ranges_exact_february :
    (4 ∈ range ⟨⟨2021, 2, 10⟩, .iso, by decide⟩ .alignedWeekOfMonth ∧
      4 ∈ Chronology.iso.validRange .alignedWeekOfMonth ∧
      ∃ d' ∈ scope ⟨⟨2021, 2, 10⟩, .iso, by decide⟩ .alignedWeekOfMonth,
        d'.get .alignedWeekOfMonth = 4) ∧
    (¬∃ d' ∈ scope ⟨⟨2021, 2, 10⟩, .iso, by decide⟩ .alignedWeekOfMonth,
      d'.get .alignedWeekOfMonth = 5) ∧
    IsGreatest (Chronology.iso.valuesOf .alignedWeekOfMonth) 5 ∧
    IsGreatest (Chronology.iso.valuesOf .yearOfEra) 1000000000 := by
  obtain ⟨hends, hown, htaken⟩ := ranges_exact
  have hfour : 4 ∈ range ⟨⟨2021, 2, 10⟩, .iso, by decide⟩ .alignedWeekOfMonth := by decide
  exact ⟨⟨hfour, (hown _ _).2 4 hfour, (htaken _ _ 4).mp hfour⟩, mt (htaken _ _ 5).mpr (by decide),
    (hends .iso .alignedWeekOfMonth).2, (hends .iso .yearOfEra).2⟩

end Date

end Calendrics
