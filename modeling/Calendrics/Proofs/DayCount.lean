import Calendrics.Chronology.EpochDay

/-!
# Day numbers count the months

The day numbers of the five chronologies come from three unrelated encodings: cycles of 400 years,
cycles of four years, and years of one length. This module shows that all three do one thing:
from the first of a month to the first of the next month they advance by the length of the month.

* `Gregorian.epochDay_eq_sum`, `Julian.epochDay_eq_sum` — without the cycles, the number of a day
  is a sum of quotients of its March year and its day of that year;
* `epochDay_nextMonth`, `epochDay_nextYear` — **the step from month to month**, in a year and
  across its end;
* `epochDay_first_eq_newYear_add` — from the first day of the year on, day numbers count the days
  of the months passed.
-/

namespace Calendrics

/-! ## The days before a month -/

/-- One item further, a partial total has grown by that item. -/
theorem Months.total_take_succ (months : List Int) (k : Nat) :
    Months.total (months.take (k + 1)) = Months.total (months.take k) + months.getD k 0 := by
  induction months generalizing k with
  | nil => simp
  | cons length rest ih =>
    cases k with
    | zero => simp
    | succ k =>
      rw [List.take_succ_cons, List.take_succ_cons, Months.total_cons, Months.total_cons, ih,
        List.getD_cons_succ]
      omega

/-- One month further, the days before the month have grown by its length. -/
theorem Months.before_succ (months : List Int) {month : Int} (h : 1 ≤ month) :
    Months.before months (month + 1) =
      Months.before months month + Months.lengthOf months month := by
  have hnext : (month + 1 - 1).toNat = (month - 1).toNat + 1 := by omega
  rw [Months.before, hnext, Months.total_take_succ]
  rfl

/-- Before a month after the last one come the days of all months. -/
theorem Months.before_length (months : List Int) :
    Months.before months (months.length + 1) = Months.total months := by
  have hcount : ((months.length : Int) + 1 - 1).toNat = months.length := by omega
  rw [Months.before, hcount, List.take_length]

/-! ## Day numbers without cycles -/

/-- **Gregorian day numbers without cycles**: 365 days for each March year, one more for every
fourth, save the centuries, save every fourth of those. -/
theorem Gregorian.epochDay_eq_sum (t : YearMonthDay) :
    Gregorian.epochDay t =
      365 * MarchYear.ofDate t.year t.month + MarchYear.ofDate t.year t.month / 4 -
        MarchYear.ofDate t.year t.month / 100 + MarchYear.ofDate t.year t.month / 400 - 719468 +
        MarchYear.dayOf t.month t.day := by
  simp only [Gregorian.epochDay, Gregorian.daysBeforeYear]
  generalize MarchYear.ofDate t.year t.month = y
  omega

/-- **Julian day numbers without cycles**: 365 days for each March year, one more for every
fourth. -/
theorem Julian.epochDay_eq_sum (t : YearMonthDay) :
    Julian.epochDay t =
      365 * MarchYear.ofDate t.year t.month + MarchYear.ofDate t.year t.month / 4 - 719470 +
        MarchYear.dayOf t.month t.day := by
  simp only [Julian.epochDay]
  generalize MarchYear.ofDate t.year t.month = y
  omega

namespace Chronology

/-! ## From month to month

The two calendars that number days by March years share one argument: the March year advances from
February to March, by 365 days or by 366 if the year is a leap year, and within a March year the
153-day rule gives the lengths of the months. -/

/-- A chronology numbers days by March years if the number of a day is the start of its March
year and its day of that year, and a March year that ends in a leap year has 366 days. -/
structure CountsMarchYears (c : Chronology) (start : Int → Int) : Prop where
  /-- the months are those of a solar calendar -/
  solar : c ≠ uniform30
  /-- how a day is numbered -/
  epochDay_eq : ∀ t, c.epochDay t =
    start (MarchYear.ofDate t.year t.month) + MarchYear.dayOf t.month t.day
  /-- how long the March year is that ends in February of a year -/
  start_eq : ∀ year, start year = start (year - 1) + 365 + (if c.isLeapYear year then 1 else 0)

/-- The Gregorian calendar numbers days by March years. -/
theorem countsMarchYears_iso :
    CountsMarchYears iso fun y => 365 * y + y / 4 - y / 100 + y / 400 - 719468 where
  solar := by decide
  epochDay_eq := Gregorian.epochDay_eq_sum
  start_eq year := by
    simp only [isLeapYear, decide_eq_true_eq]
    split <;> omega

/-- The Julian calendar numbers days by March years. -/
theorem countsMarchYears_julian : CountsMarchYears julian fun y => 365 * y + y / 4 - 719470 where
  solar := by decide
  epochDay_eq := Julian.epochDay_eq_sum
  start_eq year := by
    simp only [isLeapYear, decide_eq_true_eq]
    split <;> omega

/-- In a chronology that numbers days by March years, the first of the next month comes after all
days of the month. -/
theorem CountsMarchYears.epochDay_nextMonth {c : Chronology} {start : Int → Int}
    (h : CountsMarchYears c start) (year : Int) {month : Int} (h₁ : 1 ≤ month) (h₂ : month ≤ 11) :
    c.epochDay ⟨year, month + 1, 1⟩ = c.epochDay ⟨year, month, 1⟩ + c.lengthOfMonth year month := by
  have hstart := h.start_eq year
  rw [h.epochDay_eq, h.epochDay_eq, lengthOfMonth_eq_of_solar h.solar year h₁ (by omega)]
  -- only the step out of February changes the March year
  rcases month_cases h₁ (by omega) with rfl | rfl | rfl | rfl | rfl | rfl | rfl | rfl | rfl | rfl |
    rfl | rfl <;> simp [MarchYear.ofDate, MarchYear.dayOf, MarchYear.daysBefore]
  · omega
  · rw [hstart]
    split <;> omega
  all_goals omega

/-- From December to January the same holds. -/
theorem CountsMarchYears.epochDay_nextYear {c : Chronology} {start : Int → Int}
    (h : CountsMarchYears c start) (year : Int) :
    c.epochDay (.newYear (year + 1)) = c.epochDay ⟨year, 12, 1⟩ + c.lengthOfMonth year 12 := by
  rw [h.epochDay_eq, h.epochDay_eq, lengthOfMonth_eq_of_solar h.solar year (by decide) (by decide)]
  simp [YearMonthDay.newYear, MarchYear.ofDate, MarchYear.dayOf, MarchYear.daysBefore]
  omega

/-- Where all years have the same months, the first of the next month comes after all days of the
month. -/
theorem epochDay_nextMonth_of_fixedYear {c : Chronology} {months : List Int}
    (hday : ∀ t, c.epochDay t = FixedYear.epochDay months t)
    (hmonths : ∀ year, c.monthsOf year = months) (year : Int) {month : Int} (h₁ : 1 ≤ month) :
    c.epochDay ⟨year, month + 1, 1⟩ = c.epochDay ⟨year, month, 1⟩ + c.lengthOfMonth year month := by
  rw [hday, hday, lengthOfMonth, hmonths]
  simp only [FixedYear.epochDay]
  rw [Months.before_succ months h₁]
  omega

/-- The same from December to January. -/
theorem epochDay_nextYear_of_fixedYear {c : Chronology} {months : List Int}
    (hday : ∀ t, c.epochDay t = FixedYear.epochDay months t)
    (hmonths : ∀ year, c.monthsOf year = months) (hcount : months.length = 12) (year : Int) :
    c.epochDay (.newYear (year + 1)) = c.epochDay ⟨year, 12, 1⟩ + c.lengthOfMonth year 12 := by
  have hall := Months.before_length months
  rw [hcount] at hall
  have hlast := Months.before_succ months (show (1 : Int) ≤ 12 by decide)
  have hdays : (year + 1 - 1970) * Months.total months =
      (year - 1970) * Months.total months + Months.total months := by
    rw [show year + 1 - 1970 = year - 1970 + 1 by omega, Int.add_mul, Int.one_mul]
  rw [hday, hday, lengthOfMonth, hmonths]
  simp only [FixedYear.epochDay, YearMonthDay.newYear, Months.before_first]
  rw [hdays, ← hall]
  have : ((12 : Nat) : Int) + 1 = 12 + 1 := rfl
  rw [this, hlast]
  omega

/-- **From one month to the next**, day numbers advance by the length of the month. -/
theorem epochDay_nextMonth (c : Chronology) (year : Int) {month : Int} (h₁ : 1 ≤ month)
    (h₂ : month ≤ 11) :
    c.epochDay ⟨year, month + 1, 1⟩ = c.epochDay ⟨year, month, 1⟩ + c.lengthOfMonth year month := by
  cases c with
  | iso => exact countsMarchYears_iso.epochDay_nextMonth year h₁ h₂
  | julian => exact countsMarchYears_julian.epochDay_nextMonth year h₁ h₂
  | noLeap => exact epochDay_nextMonth_of_fixedYear (fun _ => rfl) (fun _ => rfl) year h₁
  | allLeap => exact epochDay_nextMonth_of_fixedYear (fun _ => rfl) (fun _ => rfl) year h₁
  | uniform30 => exact epochDay_nextMonth_of_fixedYear (fun _ => rfl) (fun _ => rfl) year h₁

/-- **From one year to the next**, day numbers advance by the length of December. -/
theorem epochDay_nextYear (c : Chronology) (year : Int) :
    c.epochDay (.newYear (year + 1)) = c.epochDay ⟨year, 12, 1⟩ + c.lengthOfMonth year 12 := by
  cases c with
  | iso => exact countsMarchYears_iso.epochDay_nextYear year
  | julian => exact countsMarchYears_julian.epochDay_nextYear year
  | noLeap => exact epochDay_nextYear_of_fixedYear (fun _ => rfl) (fun _ => rfl) rfl year
  | allLeap => exact epochDay_nextYear_of_fixedYear (fun _ => rfl) (fun _ => rfl) rfl year
  | uniform30 => exact epochDay_nextYear_of_fixedYear (fun _ => rfl) (fun _ => rfl) rfl year

/-! ## Within a month and a year -/

/-- Within a month, day numbers count the days. -/
theorem epochDay_eq_first_add (c : Chronology) (t : YearMonthDay) :
    c.epochDay t = c.epochDay ⟨t.year, t.month, 1⟩ + t.day - 1 := by
  cases c <;> simp only [epochDay, Gregorian.epochDay, Julian.epochDay, FixedYear.epochDay,
    MarchYear.dayOf] <;> omega

/-- The days of the year before the next month are those before the month and its own. -/
theorem daysBeforeMonth_succ (c : Chronology) (year : Int) {month : Int} (h : 1 ≤ month) :
    c.daysBeforeMonth year (month + 1) =
      c.daysBeforeMonth year month + c.lengthOfMonth year month :=
  Months.before_succ _ h

/-- The months before a month have at most 31 days each. -/
theorem daysBeforeMonth_bounds (c : Chronology) (year : Int) {month : Int} (h₁ : 1 ≤ month)
    (h₂ : month ≤ 13) :
    0 ≤ c.daysBeforeMonth year month ∧ c.daysBeforeMonth year month ≤ 31 * (month - 1) := by
  obtain ⟨k, rfl⟩ : ∃ k : Nat, month = k + 1 := ⟨(month - 1).toNat, by omega⟩
  induction k with
  | zero => simp [daysBeforeMonth]
  | succ k ih =>
    have hk : ((k + 1 : Nat) : Int) = k + 1 := by omega
    have hfirst : 1 ≤ (k : Int) + 1 := by omega
    have hdays := ih hfirst (by omega)
    have hlength := c.lengthOfMonth_bounds year hfirst (by omega)
    rw [hk, c.daysBeforeMonth_succ year hfirst]
    omega

/-- The length of a year is what comes before December and December. -/
theorem lengthOfYear_eq (c : Chronology) (year : Int) :
    c.lengthOfYear year = c.daysBeforeMonth year 12 + c.lengthOfMonth year 12 := by
  have hall := Months.before_length (c.monthsOf year)
  rw [monthsOf, length_monthLengths] at hall
  exact hall.symm.trans (c.daysBeforeMonth_succ year (show (1 : Int) ≤ 12 by decide))

/-- **From the first day of the year on**, day numbers count the days of the months passed. -/
theorem epochDay_first_eq_newYear_add (c : Chronology) (year : Int) {month : Int} (h₁ : 1 ≤ month)
    (h₂ : month ≤ 12) :
    c.epochDay ⟨year, month, 1⟩ = c.epochDay (.newYear year) + c.daysBeforeMonth year month := by
  obtain ⟨k, rfl⟩ : ∃ k : Nat, month = k + 1 := ⟨(month - 1).toNat, by omega⟩
  induction k with
  | zero => simp [YearMonthDay.newYear, daysBeforeMonth]
  | succ k ih =>
    have hk : ((k + 1 : Nat) : Int) = k + 1 := by omega
    have hfirst : 1 ≤ (k : Int) + 1 := by omega
    rw [hk] at h₂ ⊢
    rw [c.epochDay_nextMonth year hfirst (by omega), ih hfirst (by omega),
      c.daysBeforeMonth_succ year hfirst]
    omega

/-- From the first day of a year to that of the next, day numbers advance by the length of the
year. -/
theorem epochDay_newYear_succ (c : Chronology) (year : Int) :
    c.epochDay (.newYear (year + 1)) = c.epochDay (.newYear year) + c.lengthOfYear year := by
  rw [c.epochDay_nextYear, c.epochDay_first_eq_newYear_add year (by decide) (by decide),
    c.lengthOfYear_eq]
  omega

end Chronology

end Calendrics
