import Calendrics.Proofs.Targets

/-!
# Whole cycles

A calendar looks the same after a whole cycle of years: the Gregorian one after 400, the Julian one
after four, the others after each year. So there are two ways to move a date by whole cycles, as so
many years and as so many days, and two pieces of code that do it: one puts another year in the
place of the old one and moves the day back if it has to, the other decodes another day number. They
have nothing in common but the calendar, and they agree:

* `isLeapYear_add_cycles`, `lengthOfMonth_add_cycles` — cycles keep the leap years and the months;
* `epochDay_add_cycles` — **cycles have as many days** wherever they begin, in the middle of a year
  too;
* `plusLogged_cycles_years`, `plusLogged_cycles_days` — either move leads to the same month and day
  of another year, or overflows where that year is not supported;
* `years_agree_with_days` — **years and days agree over whole cycles**, at both ends of the
  supported years and before year zero too.
-/

namespace Calendrics

/-- The same month and day of another year, which is so many years later. -/
def YearMonthDay.yearsLater (t : YearMonthDay) (years : Int) : YearMonthDay :=
  ⟨t.year + years, t.month, t.day⟩

/-- Each year later is twelve months later. -/
theorem YearMonthDay.monthNumber_yearsLater (t : YearMonthDay) (years : Int) :
    (t.yearsLater years).monthNumber = t.monthNumber + monthsPerYear * years := by
  simp only [yearsLater, monthNumber, monthsPerYear]
  omega

/-- So many years later is as many March years later. -/
theorem MarchYear.ofDate_add (year years month : Int) :
    ofDate (year + years) month = ofDate year month + years := by
  unfold ofDate
  split <;> omega

/-- Where all years have the same months, each year later adds the days of one year. -/
theorem FixedYear.epochDay_yearsLater (months : List Int) (t : YearMonthDay) (years : Int) :
    epochDay months (t.yearsLater years) = epochDay months t + Months.total months * years := by
  simp only [epochDay, YearMonthDay.yearsLater]
  rw [show t.year + years - 1970 = t.year - 1970 + years by omega, Int.add_mul,
    Int.mul_comm years]
  omega

namespace Chronology

variable {c : Chronology} {t : YearMonthDay}

/-! ## Cycles -/

/-- The years after which a calendar looks the same. -/
def cycleYears : Chronology → Int
  | iso => 400
  | julian => 4
  | noLeap | allLeap | uniform30 => 1

/-- The days of a cycle. -/
def cycleDays : Chronology → Int
  | iso => 146097
  | julian => 1461
  | noLeap => 365
  | allLeap => 366
  | uniform30 => 360

/-- Whole cycles keep the leap years. -/
theorem isLeapYear_add_cycles (c : Chronology) (year k : Int) :
    c.isLeapYear (year + c.cycleYears * k) = c.isLeapYear year := by
  cases c with
  | iso =>
    apply decide_eq_decide.mpr
    simp only [cycleYears]
    omega
  | julian =>
    apply decide_eq_decide.mpr
    simp only [cycleYears]
    omega
  | noLeap | allLeap | uniform30 => rfl

/-- Whole cycles keep the months. -/
theorem lengthOfMonth_add_cycles (c : Chronology) (year month k : Int) :
    c.lengthOfMonth (year + c.cycleYears * k) month = c.lengthOfMonth year month := by
  rw [lengthOfMonth, lengthOfMonth, monthsOf, monthsOf, isLeapYear_add_cycles]

/-- Whole cycles lead from a day of the calendar to another. -/
theorem IsDay.add_cycles (h : c.IsDay t) (k : Int) : c.IsDay (t.yearsLater (c.cycleYears * k)) where
  one_le_month := h.one_le_month
  month_le := h.month_le
  one_le_day := h.one_le_day
  day_le := by
    rw [YearMonthDay.yearsLater, lengthOfMonth_add_cycles]
    exact h.day_le

/-- Where days are numbered by March years, whole cycles have as many days as the starts of the
March years say. -/
theorem CountsMarchYears.epochDay_yearsLater {start : Int → Int} (h : CountsMarchYears c start)
    {years days : Int} (hstart : ∀ year, start (year + years) = start year + days) :
    c.epochDay (t.yearsLater years) = c.epochDay t + days := by
  have hyear := MarchYear.ofDate_add t.year years t.month
  rw [h.epochDay_eq, h.epochDay_eq]
  simp only [YearMonthDay.yearsLater, hyear, hstart]
  omega

/-- **Cycles have as many days** wherever they begin. -/
theorem epochDay_add_cycles (c : Chronology) (t : YearMonthDay) (k : Int) :
    c.epochDay (t.yearsLater (c.cycleYears * k)) = c.epochDay t + c.cycleDays * k := by
  cases c with
  | iso =>
    apply countsMarchYears_iso.epochDay_yearsLater
    intro year
    simp only [cycleYears, cycleDays]
    omega
  | julian =>
    apply countsMarchYears_julian.epochDay_yearsLater
    intro year
    simp only [cycleYears, cycleDays]
    omega
  | noLeap | allLeap | uniform30 =>
    rw [cycleYears, Int.one_mul]
    exact FixedYear.epochDay_yearsLater _ t k

end Chronology

namespace Date

/-! ## Moves by whole cycles -/

/-- A month move to the same day of another month records nothing: it moves no day back, or it is
an overflow. -/
theorem plusMonths_of_isDay_same {d : Date} {t : YearMonthDay} {n : Int}
    (ht : d.chronology.IsDay t) (hnumber : t.monthNumber = d.prolepticMonth + n)
    (hday : t.day = d.day) :
    d.plusMonths n = .ofExcept (ofDay d.chronology t .arithmeticOverflow) := by
  have hplace : t.day = min d.day (d.chronology.lengthOfMonth t.year t.month) := by
    have := ht.day_le
    omega
  have hresult := plusMonths_of_isDay ht hnumber hplace
  by_cases hy : t.year ∈ yearRange
  · rw [ofDay_of_mem ht hy] at hresult ⊢
    -- the day reached is the one asked for, so nothing was moved back
    have hevents := events_plusMonths hresult
    rw [clampEvents_eq_nil_iff.mpr hday] at hevents
    exact congrArg₂ Logged.mk hevents hresult
  · rw [ofDay_of_not_mem hy, plusMonths_eq_overflow]
    rwa [← hnumber, ← ht.year_mem_iff_month]

/-- **Years over whole cycles** lead to the same month and day of another year. -/
theorem plusLogged_cycles_years (d : Date) (k : Int) :
    d.plusLogged (d.chronology.cycleYears * k) .years =
      .ofExcept (ofDay d.chronology (d.yearsLater (d.chronology.cycleYears * k))
        .arithmeticOverflow) := by
  rw [plusLogged_of_months rfl]
  exact plusMonths_of_isDay_same (d.isDate.isDay.add_cycles k)
    (d.monthNumber_yearsLater _) rfl

/-- **Days over whole cycles** lead there too. -/
theorem plusLogged_cycles_days (d : Date) (k : Int) :
    d.plusLogged (d.chronology.cycleDays * k) .days =
      .ofExcept (ofDay d.chronology (d.yearsLater (d.chronology.cycleYears * k))
        .arithmeticOverflow) := by
  rw [plusLogged_of_days rfl, Int.one_mul]
  congr 1
  exact plusDays_of_isDay (d.isDate.isDay.add_cycles k) (d.chronology.epochDay_add_cycles _ k)

/-! ## Years and days -/

/-- **Years and days agree over whole cycles.** Any number of cycles, forward or back, moves a date
as far in years as in days: to the same date, or to an overflow either way. The date reached has the
month and the day of the one moved, if its year is supported, so that no day is moved back; a leap
day leads to a leap day. -/
theorem years_agree_with_days (d : Date) (k : Int) :
    d.plus (d.chronology.cycleYears * k) .years = d.plus (d.chronology.cycleDays * k) .days ∧
    d.plus (d.chronology.cycleYears * k) .years =
      ofDay d.chronology (d.yearsLater (d.chronology.cycleYears * k)) .arithmeticOverflow ∧
    (d.plusLogged (d.chronology.cycleYears * k) .years).events = [] := by
  have hyears := d.plusLogged_cycles_years k
  have hdays := d.plusLogged_cycles_days k
  refine ⟨?_, ?_, ?_⟩
  · rw [plus, plus, hyears, hdays]
  · rw [plus, hyears, Logged.result_ofExcept]
  · rw [hyears, Logged.events_ofExcept]

/-- A cycle back from the leap day of year zero is a leap day. -/
example : plus ⟨⟨0, 2, 29⟩, .iso, by decide⟩ (-146097) .days =
    .ok ⟨⟨-400, 2, 29⟩, .iso, by decide⟩ :=
  rfl

end Date

end Calendrics
