import Calendrics.Date.Order
import Calendrics.Proofs.DayCount
import Calendrics.Proofs.Tiling

/-!
# Dates by month and day

The months of all years, numbered from January of year zero, are laid out along the day numbers
one after the other. `monthStart` is where a month begins and `monthLength` how long it is; a date
is a month and a place in it (`Date.epochDay_eq`). So facts about day numbers are facts about an
increasing sequence whose steps are the lengths of the months:

* `tiles_months` — **a month begins where the one before ends**, so a day number has one month and
  one day;
* `IsDay` — a day of a calendar in any year, supported or not; `IsDay.epochDay_inj` — such days are
  told apart by their numbers;
* `Date.epochDay_inj` — dates of one chronology with one day number are equal;
* `Date.lt_iff_epochDay_lt`, `Date.le_iff_epochDay_le` — dates are ordered as their day numbers.
-/

namespace Calendrics

namespace Chronology

/-- The number of the first day of a month, where months are numbered from January of year
zero. -/
def monthStart (c : Chronology) (m : Int) : Int :=
  c.epochDay ⟨m / monthsPerYear, m % monthsPerYear + 1, 1⟩

/-- The length of a month, where months are numbered from January of year zero. -/
def monthLength (c : Chronology) (m : Int) : Int :=
  c.lengthOfMonth (m / monthsPerYear) (m % monthsPerYear + 1)

/-- The month that dates begin in. -/
def firstMonth : Int := minYear * monthsPerYear

/-- The month that dates end in. -/
def lastMonth : Int := maxYear * monthsPerYear + monthsPerYear - 1

/-- The months that dates can be in are those of the supported years. -/
theorem div_mem_yearRange_iff {m : Int} :
    m / monthsPerYear ∈ yearRange ↔ firstMonth ≤ m ∧ m ≤ lastMonth := by
  rw [mem_yearRange, firstMonth, lastMonth]
  simp only [monthsPerYear]
  omega

/-- The month of the year that a month is, from 1 to 12. -/
theorem month_mem (m : Int) : 1 ≤ m % monthsPerYear + 1 ∧ m % monthsPerYear + 1 ≤ 12 := by
  simp only [monthsPerYear]
  omega

/-- Every month has between 28 and 31 days. -/
theorem monthLength_bounds (c : Chronology) (m : Int) :
    28 ≤ c.monthLength m ∧ c.monthLength m ≤ 31 :=
  c.lengthOfMonth_bounds _ (month_mem m).1 (month_mem m).2

/-- **A month begins where the month before it ends.** -/
theorem monthStart_succ (c : Chronology) (m : Int) :
    c.monthStart (m + 1) = c.monthStart m + c.monthLength m := by
  by_cases hlast : m % monthsPerYear + 1 = 12
  · have hyear : (m + 1) / monthsPerYear = m / monthsPerYear + 1 := by
      simp only [monthsPerYear] at *
      omega
    have hmonth : (m + 1) % monthsPerYear = 0 := by
      simp only [monthsPerYear] at *
      omega
    rw [monthStart, monthStart, monthLength, hyear, hmonth, hlast]
    exact c.epochDay_nextYear _
  · have hyear : (m + 1) / monthsPerYear = m / monthsPerYear := by
      simp only [monthsPerYear] at *
      omega
    have hmonth : (m + 1) % monthsPerYear = m % monthsPerYear + 1 := by
      simp only [monthsPerYear] at *
      omega
    have hmem := month_mem m
    rw [monthStart, monthStart, monthLength, hyear, hmonth]
    exact c.epochDay_nextMonth _ hmem.1 (by omega)

/-- **Months are laid end to end** along the day numbers. -/
theorem tiles_months (c : Chronology) : Tiles c.monthStart c.monthLength where
  start_succ := c.monthStart_succ
  one_le_length m := Int.le_trans (by decide) (c.monthLength_bounds m).1

end Chronology

/-! ## Days of any year

The calendars go on before and after the supported years. A day there has a month, a place in it
and a number like any other. -/

/-- The number of the month, where months are numbered from January of year zero. -/
def YearMonthDay.monthNumber (t : YearMonthDay) : Int :=
  t.year * monthsPerYear + t.month - 1

namespace Chronology

variable {c : Chronology} {t u : YearMonthDay}

/-- A year, month and day name a day of the calendar: the month and the day exist. Any year
will do. -/
structure IsDay (c : Chronology) (t : YearMonthDay) : Prop where
  /-- months count from 1 -/
  one_le_month : 1 ≤ t.month
  /-- there are twelve months -/
  month_le : t.month ≤ 12
  /-- days count from 1 -/
  one_le_day : 1 ≤ t.day
  /-- the month has that many days in that year -/
  day_le : t.day ≤ c.lengthOfMonth t.year t.month

/-- A supported day is a day of the calendar. -/
theorem IsDate.isDay (h : c.IsDate t) : c.IsDay t :=
  ⟨h.one_le_month, h.month_le, h.one_le_day, h.day_le⟩

/-- Every month has a first day. -/
theorem isDay_first (c : Chronology) (year : Int) {month : Int} (h₁ : 1 ≤ month)
    (h₂ : month ≤ 12) : c.IsDay ⟨year, month, 1⟩ :=
  ⟨h₁, h₂, Int.le_refl 1,
    Int.le_trans (show (1 : Int) ≤ 28 by decide) (c.lengthOfMonth_bounds year h₁ h₂).1⟩

/-- The year of a day is that of its month. -/
theorem IsDay.monthNumber_div (h : c.IsDay t) : t.monthNumber / monthsPerYear = t.year := by
  obtain ⟨h₁, h₂, -, -⟩ := h
  simp only [YearMonthDay.monthNumber, monthsPerYear]
  omega

/-- The month of the year of a day is that of its month. -/
theorem IsDay.monthNumber_mod (h : c.IsDay t) : t.monthNumber % monthsPerYear + 1 = t.month := by
  obtain ⟨h₁, h₂, -, -⟩ := h
  simp only [YearMonthDay.monthNumber, monthsPerYear]
  omega

/-- The month of a day has that day. -/
theorem IsDay.day_le_monthLength (h : c.IsDay t) : t.day ≤ c.monthLength t.monthNumber := by
  rw [monthLength, h.monthNumber_div, h.monthNumber_mod]
  exact h.day_le

/-- **The number of a day** is where its month begins and its place in the month. -/
theorem IsDay.epochDay_eq (h : c.IsDay t) :
    c.epochDay t = c.monthStart t.monthNumber + t.day - 1 := by
  rw [monthStart, h.monthNumber_div, h.monthNumber_mod]
  exact c.epochDay_eq_first_add t

/-- A month and a day of it name one day. -/
theorem IsDay.ext (ht : c.IsDay t) (hu : c.IsDay u) (hm : t.monthNumber = u.monthNumber)
    (hd : t.day = u.day) : t = u := by
  refine YearMonthDay.ext ?_ ?_ hd
  · rw [← ht.monthNumber_div, ← hu.monthNumber_div, hm]
  · rw [← ht.monthNumber_mod, ← hu.monthNumber_mod, hm]

/-- **Days with one number are equal.** -/
theorem IsDay.epochDay_inj (ht : c.IsDay t) (hu : c.IsDay u) (h : c.epochDay t = c.epochDay u) :
    t = u := by
  rw [ht.epochDay_eq, hu.epochDay_eq] at h
  obtain ⟨hm, hd⟩ := c.tiles_months.place_unique ht.one_le_day ht.day_le_monthLength
    hu.one_le_day hu.day_le_monthLength (by omega)
  exact ht.ext hu hm hd

end Chronology

namespace Date

variable {a b d : Date}

/-! ## The month of a date -/

/-- The year of a date is that of its month. -/
theorem prolepticMonth_div (d : Date) : d.prolepticMonth / monthsPerYear = d.year :=
  d.isDate.isDay.monthNumber_div

/-- The month of the year of a date is that of its month. -/
theorem prolepticMonth_mod (d : Date) : d.prolepticMonth % monthsPerYear + 1 = d.month :=
  d.isDate.isDay.monthNumber_mod

/-- The length of the month of a date. -/
theorem lengthOfMonth_eq (d : Date) :
    d.lengthOfMonth = d.chronology.monthLength d.prolepticMonth := by
  rw [Chronology.monthLength, prolepticMonth_div, prolepticMonth_mod, lengthOfMonth]

/-- Dates in one month of one chronology have months of one length. -/
theorem lengthOfMonth_congr (hc : a.chronology = b.chronology)
    (hm : a.prolepticMonth = b.prolepticMonth) : a.lengthOfMonth = b.lengthOfMonth := by
  rw [lengthOfMonth_eq, lengthOfMonth_eq, hc, hm]

/-- The month of a date has that day. -/
theorem day_le_monthLength (d : Date) : d.day ≤ d.chronology.monthLength d.prolepticMonth :=
  d.isDate.isDay.day_le_monthLength

/-- **The number of a day** is where its month begins and its place in the month. -/
theorem epochDay_eq (d : Date) :
    d.epochDay = d.chronology.monthStart d.prolepticMonth + d.day - 1 :=
  d.isDate.isDay.epochDay_eq

/-- The year of a date is supported. -/
theorem year_mem_yearRange (d : Date) : d.year ∈ yearRange :=
  ⟨d.isDate.min_le_year, d.isDate.year_le_max⟩

/-- The month of a date is one of the twelve. -/
theorem month_mem_monthRange (d : Date) : d.month ∈ monthRange :=
  ⟨d.isDate.one_le_month, d.isDate.month_le⟩

/-- Months of supported years are not too early. -/
theorem firstMonth_le_prolepticMonth (d : Date) : Chronology.firstMonth ≤ d.prolepticMonth := by
  have hyear := d.year_mem_yearRange
  rw [← prolepticMonth_div] at hyear
  exact (Chronology.div_mem_yearRange_iff.mp hyear).1

/-- Months of supported years are not too late. -/
theorem prolepticMonth_le_lastMonth (d : Date) : d.prolepticMonth ≤ Chronology.lastMonth := by
  have hyear := d.year_mem_yearRange
  rw [← prolepticMonth_div] at hyear
  exact (Chronology.div_mem_yearRange_iff.mp hyear).2

/-! ## Equality and order -/

/-- A chronology, a month and a day name one date. -/
theorem ext_month_day (hc : a.chronology = b.chronology) (hm : a.prolepticMonth = b.prolepticMonth)
    (hd : a.day = b.day) : a = b := by
  refine Date.ext ?_ ?_ hd hc
  · rw [← prolepticMonth_div, ← prolepticMonth_div, hm]
  · rw [← prolepticMonth_mod, ← prolepticMonth_mod, hm]

/-- **Dates of one chronology with one day number are equal.** -/
theorem epochDay_inj (hc : a.chronology = b.chronology) (h : a.epochDay = b.epochDay) : a = b := by
  have ha := a.isDate.isDay
  rw [epochDay, epochDay, hc] at h
  rw [hc] at ha
  have ht := ha.epochDay_inj b.isDate.isDay h
  exact Date.ext (congrArg _ ht) (congrArg _ ht) (congrArg _ ht) hc

/-- Earlier means an earlier year, or in the same year an earlier month, or in the same month an
earlier day. -/
theorem lt_iff (hc : a.chronology = b.chronology) :
    a < b ↔ a.year < b.year ∨ a.year = b.year ∧
      (a.month < b.month ∨ a.month = b.month ∧ a.day < b.day) := by
  change a.compare? b = some .lt ↔ _
  rw [compare?, if_pos hc, Option.some.injEq, Ordering.then_eq_lt, Ordering.then_eq_lt]
  simp only [Int.compare_eq_lt, Int.compare_eq_eq]

/-- Dates compare as equal exactly if they are. -/
theorem compare?_eq_eq_iff (hc : a.chronology = b.chronology) :
    a.compare? b = some .eq ↔ a = b := by
  rw [compare?, if_pos hc, Option.some.injEq, Ordering.then_eq_eq, Ordering.then_eq_eq]
  simp only [Int.compare_eq_eq]
  refine ⟨?_, ?_⟩
  · rintro ⟨hy, hm, hd⟩
    exact Date.ext hy hm hd hc
  · rintro rfl
    exact ⟨rfl, rfl, rfl⟩

/-- Earlier or equal means what it says. -/
theorem le_iff (hc : a.chronology = b.chronology) : a ≤ b ↔ a < b ∨ a = b :=
  or_congr_right (compare?_eq_eq_iff hc)

/-- Only dates of one chronology have an order. -/
theorem chronology_eq_of_le (h : a ≤ b) : a.chronology = b.chronology := by
  by_contra hc
  rcases h with h | h <;> rw [compare?, if_neg hc] at h <;> cases h

/-- Earlier dates are earlier or equal. -/
theorem le_of_lt (h : a < b) : a ≤ b :=
  .inl h

/-- Earlier means an earlier month, or in the same month an earlier day. -/
theorem lt_iff_month_day (hc : a.chronology = b.chronology) :
    a < b ↔ a.prolepticMonth < b.prolepticMonth ∨
      a.prolepticMonth = b.prolepticMonth ∧ a.day < b.day := by
  obtain ⟨-, -, ha₁, ha₂, -, -⟩ := a.isDate
  obtain ⟨-, -, hb₁, hb₂, -, -⟩ := b.isDate
  rw [lt_iff hc]
  simp only [prolepticMonth, monthsPerYear]
  omega

/-- Earlier or equal means an earlier month, or in the same month no later a day. -/
theorem le_iff_month_day (hc : a.chronology = b.chronology) :
    a ≤ b ↔ a.prolepticMonth < b.prolepticMonth ∨
      a.prolepticMonth = b.prolepticMonth ∧ a.day ≤ b.day := by
  rw [le_iff hc, lt_iff_month_day hc]
  refine ⟨?_, ?_⟩
  · rintro ((h | ⟨hm, hd⟩) | rfl)
    · exact .inl h
    · exact .inr ⟨hm, Int.le_of_lt hd⟩
    · exact .inr ⟨rfl, Int.le_refl _⟩
  · rintro (h | ⟨hm, hd⟩)
    · exact .inl (.inl h)
    · rcases Int.lt_or_eq_of_le hd with hd | hd
      · exact .inl (.inr ⟨hm, hd⟩)
      · exact .inr (ext_month_day hc hm hd)

/-- **Dates are ordered as their day numbers.** -/
theorem lt_iff_epochDay_lt (hc : a.chronology = b.chronology) :
    a < b ↔ a.epochDay < b.epochDay := by
  have ha := a.day_le_monthLength
  have hb := b.day_le_monthLength
  have ha₁ := a.isDate.one_le_day
  have hb₁ := b.isDate.one_le_day
  rw [lt_iff_month_day hc, epochDay_eq, epochDay_eq, hc]
  rw [hc] at ha
  rcases lt_trichotomy a.prolepticMonth b.prolepticMonth with hm | hm | hm
  · have := b.chronology.tiles_months.start_add_length_le hm
    exact ⟨fun _ => by omega, fun _ => .inl hm⟩
  · rw [hm]
    omega
  · have := b.chronology.tiles_months.start_add_length_le hm
    exact ⟨fun _ => by omega, fun _ => by omega⟩

/-- Dates are ordered as their day numbers, equality included. -/
theorem le_iff_epochDay_le (hc : a.chronology = b.chronology) :
    a ≤ b ↔ a.epochDay ≤ b.epochDay := by
  rw [le_iff hc, lt_iff_epochDay_lt hc, Int.le_iff_lt_or_eq]
  exact or_congr_right ⟨fun h => by rw [h], epochDay_inj hc⟩

end Date

end Calendrics
