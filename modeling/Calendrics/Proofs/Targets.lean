import Calendrics.Proofs.Strides

/-!
# Where moves lead

What a move by an amount of a unit should do can be said without limits, without zero amounts as a
case of their own and without steps that can refuse: it leads to a day of the calendar, of
whatever year. `IsTarget` says which day that is; there is exactly one, however large the amount.
If its year is supported, the move gives that date, and if not, it is an overflow.

* `exists_isDay` — **every day number is a day** of the calendar, in some year;
* `plusDays_of_isDay`, `plusMonths_of_isDay` — a move gives the date of the day that it leads to
  (`ofDay`), or an overflow;
* `existsUnique_target` — every move has exactly one target;
* `moves_settle_on_targets` — **moves forward and back come to their targets**, or overflow where
  the target is not supported, and never fail in another way.
-/

namespace Calendrics

/-- A place in a month, where months are numbered from January of year zero. -/
def YearMonthDay.inMonth (m day : Int) : YearMonthDay :=
  ⟨m / monthsPerYear, m % monthsPerYear + 1, day⟩

/-- A place in a month is in that month. -/
theorem YearMonthDay.monthNumber_inMonth (m day : Int) : (inMonth m day).monthNumber = m := by
  simp only [inMonth, monthNumber, monthsPerYear]
  omega

namespace Chronology

variable {c : Chronology} {t u : YearMonthDay}

/-! ## A day for every number

Months are laid end to end, so every number is in one of them, and there at some place. -/

/-- A place in a month is a day of the calendar if the month is that long. -/
theorem isDay_inMonth {m day : Int} (h₁ : 1 ≤ day) (h₂ : day ≤ c.monthLength m) :
    c.IsDay (.inMonth m day) :=
  ⟨(month_mem m).1, (month_mem m).2, h₁, h₂⟩

/-- **Every day number is a day of the calendar.** -/
theorem exists_isDay (c : Chronology) (e : Int) : ∃ t, c.IsDay t ∧ c.epochDay t = e := by
  obtain ⟨m, hm, hnext⟩ := c.tiles_months.exists_stretch e
  have hday : c.IsDay (.inMonth m (e - c.monthStart m + 1)) := isDay_inMonth (by omega) (by omega)
  refine ⟨_, hday, ?_⟩
  rw [hday.epochDay_eq, YearMonthDay.monthNumber_inMonth, YearMonthDay.inMonth]
  dsimp only
  omega

/-- A requested day of a month, moved back to the end of the month if it is later, is a day of the
calendar. -/
theorem isDay_min {year month day : Int} (hm : month ∈ monthRange) (hday : 1 ≤ day) :
    c.IsDay ⟨year, month, min day (c.lengthOfMonth year month)⟩ where
  one_le_month := hm.1
  month_le := hm.2
  one_le_day := by
    have hlength := (c.lengthOfMonth_bounds year hm.1 hm.2).1
    dsimp only
    omega
  day_le := Int.min_le_right _ _

/-- A month and a requested day name one day. -/
theorem IsDay.eq_of_month {day : Int} (ht : c.IsDay t) (hu : c.IsDay u)
    (hmonth : t.monthNumber = u.monthNumber)
    (htd : t.day = min day (c.lengthOfMonth t.year t.month))
    (hud : u.day = min day (c.lengthOfMonth u.year u.month)) : t = u := by
  apply ht.ext hu hmonth
  rw [htd, hud, ← ht.monthNumber_div, ← ht.monthNumber_mod, ← hu.monthNumber_div,
    ← hu.monthNumber_mod, hmonth]

/-! ## Supported years -/

/-- A day of a supported year is a supported day. -/
theorem IsDay.isDate (h : c.IsDay t) (hy : t.year ∈ yearRange) : c.IsDate t :=
  ⟨hy.1, hy.2, h.one_le_month, h.month_le, h.one_le_day, h.day_le⟩

/-- The supported years are those of the supported months. -/
theorem IsDay.year_mem_iff_month (h : c.IsDay t) :
    t.year ∈ yearRange ↔ firstMonth ≤ t.monthNumber ∧ t.monthNumber ≤ lastMonth := by
  rw [← div_mem_yearRange_iff, h.monthNumber_div]

/-- The supported years are those of the supported day numbers. -/
theorem IsDay.year_mem_iff_epochDay (h : c.IsDay t) :
    t.year ∈ yearRange ↔ c.epochDay t ∈ c.epochDayRange := by
  refine ⟨fun hy => Date.epochDay_mem_epochDayRange ⟨t, c, h.isDate hy⟩, fun he => ?_⟩
  rw [h.year_mem_iff_month]
  obtain ⟨he₁, he₂⟩ := he
  rw [epochDayRange_min, h.epochDay_eq] at he₁
  rw [epochDayRange_max, h.epochDay_eq] at he₂
  have h₁ := h.one_le_day
  have h₂ := h.day_le_monthLength
  -- the months before the first and after the last have none of the supported numbers
  refine ⟨Int.le_of_not_gt fun hlt => ?_, Int.le_of_not_gt fun hlt => ?_⟩
  · have := c.tiles_months.start_add_length_le hlt
    omega
  · have := c.tiles_months.start_add_length_le hlt
    omega

end Chronology

namespace Date

variable {c : Chronology} {d : Date} {unit : TimeUnit} {amount k n : Int} {t : YearMonthDay}
  {e : CalendarError}

/-! ## Dates of days -/

/-- The date of a day of the calendar if its year is supported, and otherwise an error. -/
def ofDay (c : Chronology) (t : YearMonthDay) (e : CalendarError) : Except CalendarError Date :=
  if h : c.IsDate t then .ok ⟨t, c, h⟩ else .error e

theorem ofDay_of_mem (ht : c.IsDay t) (hy : t.year ∈ yearRange) :
    ofDay c t e = .ok ⟨t, c, ht.isDate hy⟩ :=
  dif_pos (ht.isDate hy)

theorem ofDay_of_not_mem (hy : t.year ∉ yearRange) : ofDay c t e = .error e := by
  apply dif_neg
  intro h
  exact hy ⟨h.min_le_year, h.year_le_max⟩

/-- A day move leads to the day whose number is so much larger. -/
theorem plusDays_of_isDay (ht : d.chronology.IsDay t)
    (hnumber : d.chronology.epochDay t = d.epochDay + n) :
    d.plusDays n = ofDay d.chronology t .arithmeticOverflow := by
  by_cases hy : t.year ∈ yearRange
  · rw [ofDay_of_mem ht hy]
    exact plusDays_eq_ok_iff.mpr ⟨rfl, hnumber⟩
  · rw [ofDay_of_not_mem hy]
    apply plusDays_eq_overflow
    rwa [← hnumber, ← ht.year_mem_iff_epochDay]

/-- A month move leads to the month whose number is so much larger. -/
theorem plusMonths_of_isDay (ht : d.chronology.IsDay t)
    (hnumber : t.monthNumber = d.prolepticMonth + n)
    (hplace : t.day = min d.day (d.chronology.lengthOfMonth t.year t.month)) :
    (d.plusMonths n).result = ofDay d.chronology t .arithmeticOverflow := by
  by_cases hy : t.year ∈ yearRange
  · rw [ofDay_of_mem ht hy]
    exact plusMonths_eq_ok_iff.mpr ⟨rfl, hnumber, hplace⟩
  · rw [ofDay_of_not_mem hy, plusMonths_eq_overflow]
    · rfl
    · rwa [← hnumber, ← ht.year_mem_iff_month]

/-! ## Targets -/

/-- **Where a move has to lead.** A run of days leads to the day whose number is so much larger; a
run of months leads to the month whose number is so much larger, and there to the same day of the
month or, if the month is too short, to its last. The year may be any. -/
def IsTarget (d : Date) (amount : Int) (unit : TimeUnit) (t : YearMonthDay) : Prop :=
  d.chronology.IsDay t ∧
    match unit.stride with
    | some (.days k) => d.chronology.epochDay t = d.epochDay + k * amount
    | some (.months k) =>
      t.monthNumber = d.prolepticMonth + k * amount ∧
        t.day = min d.day (d.chronology.lengthOfMonth t.year t.month)
    | none => False

/-- **What a move has to come to**, if it leads to a day: the date of that day if its year is
supported, and otherwise an overflow. -/
def SettlesOn (d : Date) (t : YearMonthDay) (outcome : Except CalendarError Date) : Prop :=
  (t.year ∈ yearRange → ∃ h, outcome = .ok ⟨t, d.chronology, h⟩) ∧
    (t.year ∉ yearRange → outcome = .error .arithmeticOverflow)

theorem isTarget_iff_of_days (h : unit.stride = some (.days k)) :
    d.IsTarget amount unit t ↔
      d.chronology.IsDay t ∧ d.chronology.epochDay t = d.epochDay + k * amount := by
  rw [IsTarget, h]

theorem isTarget_iff_of_months (h : unit.stride = some (.months k)) :
    d.IsTarget amount unit t ↔
      d.chronology.IsDay t ∧ t.monthNumber = d.prolepticMonth + k * amount ∧
        t.day = min d.day (d.chronology.lengthOfMonth t.year t.month) := by
  rw [IsTarget, h]

/-- **Every move has exactly one target**, however large the amount. -/
theorem existsUnique_target (d : Date) (amount : Int) (hu : unit ≠ .eras) :
    ∃! t, d.IsTarget amount unit t := by
  rcases TimeUnit.stride_cases hu with ⟨k, h⟩ | ⟨k, h⟩
  · obtain ⟨t, ht, he⟩ := d.chronology.exists_isDay (d.epochDay + k * amount)
    refine ⟨t, (isTarget_iff_of_days h).mpr ⟨ht, he⟩, fun u hu => ?_⟩
    obtain ⟨hday, hnumber⟩ := (isTarget_iff_of_days h).mp hu
    exact hday.epochDay_inj ht (hnumber.trans he.symm)
  · have ht : d.chronology.IsDay (.inMonth (d.prolepticMonth + k * amount)
        (min d.day (d.chronology.monthLength (d.prolepticMonth + k * amount)))) :=
      Chronology.isDay_min (Chronology.month_mem _) d.isDate.one_le_day
    have hm := YearMonthDay.monthNumber_inMonth (d.prolepticMonth + k * amount)
      (min d.day (d.chronology.monthLength (d.prolepticMonth + k * amount)))
    refine ⟨_, (isTarget_iff_of_months h).mpr ⟨ht, hm, rfl⟩, fun u hu => ?_⟩
    obtain ⟨hday, hnumber, hplace⟩ := (isTarget_iff_of_months h).mp hu
    exact hday.eq_of_month ht (hnumber.trans hm.symm) hplace rfl

/-! ## Moves come to their targets -/

/-- The date of a day is what a move to it has to come to. -/
theorem settlesOn_ofDay (ht : d.chronology.IsDay t) :
    d.SettlesOn t (ofDay d.chronology t .arithmeticOverflow) :=
  ⟨fun hy => ⟨ht.isDate hy, ofDay_of_mem ht hy⟩, ofDay_of_not_mem⟩

/-- **A move comes to its target.** -/
theorem plus_settlesOn (hu : unit ≠ .eras) (ht : d.IsTarget amount unit t) :
    d.SettlesOn t (d.plus amount unit) := by
  rcases TimeUnit.stride_cases hu with ⟨k, h⟩ | ⟨k, h⟩
  · obtain ⟨hday, hnumber⟩ := (isTarget_iff_of_days h).mp ht
    rw [plus_of_days h, plusDays_of_isDay hday hnumber]
    exact settlesOn_ofDay hday
  · obtain ⟨hday, hnumber, hplace⟩ := (isTarget_iff_of_months h).mp ht
    rw [plus_of_months h, plusMonths_of_isDay hday hnumber hplace]
    exact settlesOn_ofDay hday

/-- **Moves come to their targets.** Forward and back, a move by any amount of any unit but the era
has exactly one target, is the date of that target if the year is supported, and is an overflow if
it is not. A move back has the target of the negative amount, also for the least of the 64-bit
amounts, which has no negative among them. -/
theorem moves_settle_on_targets (d : Date) (amount : Int) (unit : TimeUnit) (hu : unit ≠ .eras) :
    ((∃! t, d.IsTarget amount unit t) ∧
      ∀ t, d.IsTarget amount unit t → d.SettlesOn t (d.plus amount unit)) ∧
    (∃! t, d.IsTarget (-amount) unit t) ∧
      ∀ t, d.IsTarget (-amount) unit t → d.SettlesOn t (d.minus amount unit) := by
  refine ⟨⟨existsUnique_target d amount hu, fun t ht => plus_settlesOn hu ht⟩,
    existsUnique_target d (-amount) hu, fun t ht => ?_⟩
  rw [minus, minusLogged_eq_plusLogged_neg hu]
  exact plus_settlesOn hu ht

/-- Thirteen months back from 31 March of year one is the leap day of year zero; and the least
64-bit amount of days back from 1 January 1970 is a day of a year far beyond the supported ones. -/
theorem moves_settle_on_targets_back :
    (TimeUnit.months ≠ .eras ∧ IsTarget ⟨⟨1, 3, 31⟩, .iso, by decide⟩ (-13) .months ⟨0, 2, 29⟩ ∧
      minus ⟨⟨1, 3, 31⟩, .iso, by decide⟩ 13 .months = .ok ⟨⟨0, 2, 29⟩, .iso, by decide⟩) ∧
    TimeUnit.days ≠ .eras ∧
      IsTarget ⟨⟨1970, 1, 1⟩, .iso, by decide⟩ (- -9223372036854775808) .days
        ⟨25252734927768524, 7, 28⟩ ∧
      minus ⟨⟨1970, 1, 1⟩, .iso, by decide⟩ (-9223372036854775808) .days =
        .error .arithmeticOverflow := by
  have hmonths : IsTarget ⟨⟨1, 3, 31⟩, .iso, by decide⟩ (-13) .months ⟨0, 2, 29⟩ :=
    (isTarget_iff_of_months rfl).mpr
      ⟨⟨by decide, by decide, by decide, by decide⟩, by decide, by decide⟩
  have hdays : IsTarget ⟨⟨1970, 1, 1⟩, .iso, by decide⟩ (- -9223372036854775808) .days
      ⟨25252734927768524, 7, 28⟩ :=
    (isTarget_iff_of_days rfl).mpr ⟨⟨by decide, by decide, by decide, by decide⟩, by decide⟩
  obtain ⟨-, -, hback⟩ := moves_settle_on_targets ⟨⟨1, 3, 31⟩, .iso, by decide⟩ 13 .months
    (by decide)
  obtain ⟨-, -, hfar⟩ := moves_settle_on_targets ⟨⟨1970, 1, 1⟩, .iso, by decide⟩
    (-9223372036854775808) .days (by decide)
  obtain ⟨_, hmove⟩ := (hback _ hmonths).1 (by decide)
  exact ⟨⟨by decide, hmonths, hmove⟩, by decide, hdays, (hfar _ hdays).2 (by decide)⟩

end Date

end Calendrics
