import Calendrics.Proofs.Edits
import Calendrics.Proofs.Succession

/-!
# Reading an edited field back

Values are checked against the range that a field has in the chronology, which is made of the
longest month and the longest year. So a value can be too large for the month or the year at hand,
and an edit that moves by days then spills over into the next one. `ReadsBack` says for each field
whether the new value is read back, and what the edit keeps.

* `tiles_years` — years are laid end to end along the day numbers, as months are;
* `reads_in_month`, `reads_in_year` — a place in groups of seven is read back exactly if the edit
  stays in the month or the year;
* `readsBack_of_set` — **an edit that succeeds reads back** as the field has it.
-/

namespace Calendrics

/-! ## Years end to end -/

namespace Chronology

/-- The number of the first day of a year. -/
def yearStart (c : Chronology) (year : Int) : Int :=
  c.epochDay (.newYear year)

/-- Years are at most a day shorter than the longest, and never shorter than 360 days. -/
theorem lengthOfYear_bounds (c : Chronology) (year : Int) :
    360 ≤ c.lengthOfYear year ∧ c.longestYear ≤ c.lengthOfYear year + 1 := by
  unfold lengthOfYear longestYear monthsOf
  generalize c.isLeapYear year = leap
  cases c <;> cases leap <;> decide

/-- **Years are laid end to end** along the day numbers. -/
theorem tiles_years (c : Chronology) : Tiles c.yearStart c.lengthOfYear where
  start_succ := c.epochDay_newYear_succ
  one_le_length year := Int.le_trans (by decide) (c.lengthOfYear_bounds year).1

end Chronology

namespace Date

variable {d d' : Date} {f : Field} {n v length k shift : Int} {read : Int → Int}
  {kept : List Field}

/-- The first day of a year is the new year's day. -/
theorem eq_newYear (h : d.dayOfYear = 1) : d.toYearMonthDay = .newYear d.year := by
  have hfirst := d.chronology.isDay_first d.year (Int.le_refl 1) (by decide)
  apply d.isDate.isDay.epochDay_inj hfirst
  have hnumber := d.epochDay_eq_newYear_add
  rw [h, Int.add_sub_cancel] at hnumber
  exact hnumber

/-! ## Groups of seven -/

/-- A place that an edit asks for in a stretch of days of a given length, a month or a year. It
reads as requested; it can be past the end, by no more than a week, and then it would read
differently in the next stretch. -/
structure Requested (read : Int → Int) (v place length : Int) : Prop where
  /-- the place is not before the stretch -/
  one_le : 1 ≤ place
  /-- nor far behind it -/
  le_add_seven : place ≤ length + 7
  /-- it reads as requested -/
  read_eq : read place = v
  /-- what is past the end reads differently in the next stretch -/
  spill : length < place → read (place - length) ≠ v

/-- An edit of a place in a group of seven asks for another place of the same group. -/
theorem requested_placeInWeek (hn : 1 ≤ n) (hn' : n ≤ length) (hv : 1 ≤ v ∧ v ≤ 7) :
    Requested placeInWeek v (n + 1 * (v - placeInWeek n)) length := by
  unfold placeInWeek daysPerWeek
  constructor <;> omega

/-- An edit of the number of a group of seven asks for the same place of another group. -/
theorem requested_numberOfWeek (hv : 1 ≤ v) (hv' : 7 * v ≤ length + 7) (hlength : 7 ≤ length) :
    Requested numberOfWeek v (n + 7 * (v - numberOfWeek n)) length := by
  unfold numberOfWeek daysPerWeek
  constructor <;> omega

/-- The weeks that the longest month has reach at most a week past the end of any month. -/
theorem requested_weekOfMonth (hv : v ∈ d.chronology.validRange .alignedWeekOfMonth) :
    Requested numberOfWeek v (d.day + 7 * (v - numberOfWeek d.day)) d.lengthOfMonth := by
  obtain ⟨hone, hweeks⟩ := hv
  have hlongest := d.chronology.longestMonthOfAll_le
  have hlength := (d.chronology.monthLength_bounds d.prolepticMonth).1
  rw [← lengthOfMonth_eq] at hlength
  change v ≤ (d.chronology.longestMonthOfAll + 6) / 7 at hweeks
  apply requested_numberOfWeek hone <;> omega

/-- The weeks that the longest year has reach at most a week past the end of any year. -/
theorem requested_weekOfYear (hv : v ∈ d.chronology.validRange .alignedWeekOfYear) :
    Requested numberOfWeek v (d.dayOfYear + 7 * (v - numberOfWeek d.dayOfYear))
      d.lengthOfYear := by
  obtain ⟨hone, hweeks⟩ := hv
  have hlength : 360 ≤ d.lengthOfYear ∧ d.chronology.longestYear ≤ d.lengthOfYear + 1 :=
    d.chronology.lengthOfYear_bounds d.year
  change v ≤ (d.chronology.longestYear + 6) / 7 at hweeks
  apply requested_numberOfWeek hone <;> omega

/-! ## What the edits keep -/

/-- The number of the Monday of the week that the date is in. -/
def monday (d : Date) : Int :=
  d.epochDay - (d.dayOfWeek - 1)

/-- Another date is in the same month. -/
def SameMonth (d d' : Date) : Prop :=
  d'.year = d.year ∧ d'.month = d.month

/-- Another date has the same day of the month, or the last day of a month that is too short. -/
def SameDay (d d' : Date) : Prop :=
  d'.day = min d.day d'.lengthOfMonth

/-- **What is read off a date after an edit**, field by field: whether the field has the new value,
and what else the edit keeps. -/
def ReadsBack (d : Date) (f : Field) (v : Int) (d' : Date) : Prop :=
  match f with
  | .epochDay => d'.get f = v
  | .dayOfWeek => d'.get f = v ∧ d'.monday = d.monday
  | .dayOfMonth => d.SameMonth d' ∧ d'.day = min v d.lengthOfMonth
  | .dayOfYear =>
    (d'.get f = v ↔ v ≤ d.lengthOfYear) ∧
      (d.lengthOfYear < v → d'.toYearMonthDay = .newYear (d.year + 1))
  | .alignedDayOfWeekInMonth | .alignedWeekOfMonth =>
    (d'.get f = v ↔ d.SameMonth d') ∧ d.prolepticMonth ≤ d'.prolepticMonth
  | .alignedDayOfWeekInYear | .alignedWeekOfYear =>
    (d'.get f = v ↔ d'.year = d.year) ∧ d.year ≤ d'.year
  | .monthOfYear => d'.get f = v ∧ d'.year = d.year ∧ d.SameDay d'
  | .prolepticMonth => d'.get f = v ∧ d.SameDay d'
  | .year => d'.get f = v ∧ d'.month = d.month ∧ d.SameDay d'
  | .yearOfEra => d'.get f = v ∧ d'.era = d.era ∧ d'.month = d.month ∧ d.SameDay d'
  | .era => d'.get f = v ∧ d'.yearOfEra = d.yearOfEra ∧ d'.month = d.month ∧ d.SameDay d'

/-! ## Edits that move by days -/

/-- An edit that moves by days gives the day so many numbers later. -/
theorem epochDay_of_set (hk : f.editKind = .days k) (h : d.set f v = .ok d') :
    d'.chronology = d.chronology ∧ d'.epochDay = d.epochDay + k * (v - d.get f) := by
  obtain ⟨-, hc, hedit⟩ := set_eq_ok_iff.mp h
  obtain ⟨-, hnumber⟩ := (isEdit_iff_of_days hk).mp hedit
  rw [← hc] at hnumber
  exact ⟨hc, hnumber⟩

/-- Months have one number in one year. -/
theorem sameMonth_iff : d.SameMonth d' ↔ d'.prolepticMonth = d.prolepticMonth := by
  rw [prolepticMonth_eq_iff, prolepticMonth_div, prolepticMonth_mod, SameMonth]

/-- **A place of the month is read back exactly if the date is still in the month.** -/
theorem reads_in_month (hc : d'.chronology = d.chronology)
    (hmove : d'.epochDay = d.epochDay + shift)
    (hplace : Requested read v (d.day + shift) d.lengthOfMonth) :
    (read d'.day = v ↔ d.SameMonth d') ∧ d.prolepticMonth ≤ d'.prolepticMonth := by
  obtain ⟨hone, hseven, hread, hspill⟩ := hplace
  have hstart := d.epochDay_eq
  have hstart' := d'.epochDay_eq
  have hday := d'.day_le_monthLength
  have hnext := (d.chronology.monthLength_bounds (d.prolepticMonth + 1)).1
  rw [hc] at hstart' hday
  rw [lengthOfMonth_eq] at hseven hspill
  rw [sameMonth_iff]
  exact d.chronology.tiles_months.reads_iff_stays d'.isDate.one_le_day hday hone (by omega)
    (by omega) hread hspill

/-- The day of the year of another date exists in its year. -/
theorem dayOfYear_le_of_chronology (hc : d'.chronology = d.chronology) :
    d'.dayOfYear ≤ d.chronology.lengthOfYear d'.year := by
  rw [← hc]
  exact d'.dayOfYear_le_lengthOfYear

/-- Where a day is, counted from the first day of another year. -/
theorem place_in_years (hc : d'.chronology = d.chronology)
    (hmove : d'.epochDay = d.epochDay + shift) :
    d.chronology.yearStart d'.year + d'.dayOfYear =
      d.chronology.yearStart d.year + (d.dayOfYear + shift) := by
  have hstart := d.epochDay_eq_newYear_add
  have hstart' := d'.epochDay_eq_newYear_add
  rw [hc] at hstart'
  unfold Chronology.yearStart
  omega

/-- **A place of the year is read back exactly if the date is still in the year.** -/
theorem reads_in_year (hc : d'.chronology = d.chronology)
    (hmove : d'.epochDay = d.epochDay + shift)
    (hplace : Requested read v (d.dayOfYear + shift) d.lengthOfYear) :
    (read d'.dayOfYear = v ↔ d'.year = d.year) ∧ d.year ≤ d'.year := by
  obtain ⟨hone, hseven, hread, hspill⟩ := hplace
  have hnext := (d.chronology.lengthOfYear_bounds (d.year + 1)).1
  apply d.chronology.tiles_years.reads_iff_stays d'.one_le_dayOfYear
    (dayOfYear_le_of_chronology hc) hone ?_ (place_in_years hc hmove) hread hspill
  rw [lengthOfYear] at hseven
  omega

/-- A day of the year is read back exactly if the year has it. The longest year has one day that
others lack, and that leads to the first day of the next year. -/
theorem readsBack_dayOfYear (h : d.set .dayOfYear v = .ok d') : d.ReadsBack .dayOfYear v d' := by
  obtain ⟨⟨hv, hv'⟩, -, -⟩ := set_eq_ok_iff.mp h
  obtain ⟨hc, hmove⟩ := epochDay_of_set rfl h
  have hlength := d.chronology.lengthOfYear_bounds d.year
  have hnext := d.chronology.lengthOfYear_bounds (d.year + 1)
  have hplace := place_in_years hc hmove
  have hshift : d.dayOfYear + 1 * (v - d.get .dayOfYear) = v := by
    rw [Int.one_mul, get]
    omega
  rw [hshift] at hplace
  change v ≤ d.chronology.longestYear at hv'
  rcases d.chronology.tiles_years.place_cases d'.one_le_dayOfYear (dayOfYear_le_of_chronology hc)
    hv (by omega) hplace with ⟨hstays, -, hday⟩ | ⟨hpast, hyear, hday⟩
  · exact ⟨⟨fun _ => hstays, fun _ => hday⟩, fun hpast => absurd hstays (Int.not_le.mpr hpast)⟩
  · have hfirst : d'.dayOfYear = 1 := by omega
    refine ⟨⟨fun hread => ?_, fun hstays => absurd hstays (Int.not_le.mpr hpast)⟩, fun _ => ?_⟩
    · change d'.dayOfYear = v at hread
      omega
    · rw [eq_newYear hfirst, hyear]

/-- A day of the week stays in the week, and is read back. -/
theorem readsBack_dayOfWeek (h : d.set .dayOfWeek v = .ok d') : d.ReadsBack .dayOfWeek v d' := by
  obtain ⟨⟨hv, hv'⟩, -, -⟩ := set_eq_ok_iff.mp h
  obtain ⟨-, hmove⟩ := epochDay_of_set rfl h
  change v ≤ 7 at hv'
  change 1 ≤ v at hv
  simp only [ReadsBack, get, monday, dayOfWeek, daysPerWeek] at hmove ⊢
  omega

/-- An edit that goes to another month reads back there. -/
theorem reads_of_toMonth (hk : f.editKind = .toMonth kept) (h : d.set f v = .ok d') :
    d'.get f = v ∧ (∀ g ∈ kept, d'.get g = d.get g) ∧ d.SameDay d' := by
  obtain ⟨-, hc, hedit⟩ := set_eq_ok_iff.mp h
  obtain ⟨-, hread, hkept, hday⟩ := (isEdit_iff_of_toMonth hk).mp hedit
  rw [← hc] at hread hkept hday
  simp only [fieldOn_eq_get] at hread hkept
  exact ⟨hread, hkept, hday⟩

/-- **An edit that succeeds reads back** as the field has it: a value that the month or the year
has is the new value of the field, and a value that it lacks leads past its end. -/
theorem readsBack_of_set (h : d.set f v = .ok d') :
    d'.chronology = d.chronology ∧ d.ReadsBack f v d' := by
  obtain ⟨hv, hc, hedit⟩ := set_eq_ok_iff.mp h
  refine ⟨hc, ?_⟩
  cases f with
  | dayOfWeek => exact readsBack_dayOfWeek h
  | dayOfYear => exact readsBack_dayOfYear h
  | epochDay =>
    obtain ⟨-, hmove⟩ := epochDay_of_set rfl h
    simp only [ReadsBack, get] at hmove ⊢
    omega
  | alignedDayOfWeekInMonth =>
    obtain ⟨-, hmove⟩ := epochDay_of_set rfl h
    exact reads_in_month hc hmove (requested_placeInWeek d.isDate.one_le_day d.isDate.day_le hv)
  | alignedDayOfWeekInYear =>
    obtain ⟨-, hmove⟩ := epochDay_of_set rfl h
    exact reads_in_year hc hmove
      (requested_placeInWeek d.one_le_dayOfYear d.dayOfYear_le_lengthOfYear hv)
  | alignedWeekOfMonth =>
    obtain ⟨-, hmove⟩ := epochDay_of_set rfl h
    exact reads_in_month hc hmove (requested_weekOfMonth hv)
  | alignedWeekOfYear =>
    obtain ⟨-, hmove⟩ := epochDay_of_set rfl h
    exact reads_in_year hc hmove (requested_weekOfYear hv)
  | dayOfMonth =>
    obtain ⟨-, hy, hm, hday⟩ := (isEdit_iff_of_inMonth rfl).mp hedit
    rw [hy, hm] at hday
    exact ⟨⟨hy, hm⟩, hday⟩
  | monthOfYear =>
    obtain ⟨hread, hkept, hday⟩ := reads_of_toMonth rfl h
    exact ⟨hread, hkept .year (by simp), hday⟩
  | prolepticMonth =>
    obtain ⟨hread, -, hday⟩ := reads_of_toMonth rfl h
    exact ⟨hread, hday⟩
  | year =>
    obtain ⟨hread, hkept, hday⟩ := reads_of_toMonth rfl h
    exact ⟨hread, hkept .monthOfYear (by simp), hday⟩
  | yearOfEra =>
    obtain ⟨hread, hkept, hday⟩ := reads_of_toMonth rfl h
    exact ⟨hread, Era.value_inj (hkept .era (by simp)), hkept .monthOfYear (by simp), hday⟩
  | era =>
    obtain ⟨hread, hkept, hday⟩ := reads_of_toMonth rfl h
    exact ⟨hread, hkept .yearOfEra (by simp), hkept .monthOfYear (by simp), hday⟩

/-- The 366th day of the common year 2021 is 1 January 2022; and the fifth week of February 2021,
which has only four, leads to 1 March. -/
theorem readsBack_of_set_past_end :
    (set ⟨⟨2021, 1, 31⟩, .iso, by decide⟩ .dayOfYear 366 =
        .ok ⟨⟨2022, 1, 1⟩, .iso, by decide⟩ ∧
      ReadsBack ⟨⟨2021, 1, 31⟩, .iso, by decide⟩ .dayOfYear 366
        ⟨⟨2022, 1, 1⟩, .iso, by decide⟩) ∧
    set ⟨⟨2021, 2, 1⟩, .iso, by decide⟩ .alignedWeekOfMonth 5 =
        .ok ⟨⟨2021, 3, 1⟩, .iso, by decide⟩ ∧
      ReadsBack ⟨⟨2021, 2, 1⟩, .iso, by decide⟩ .alignedWeekOfMonth 5
        ⟨⟨2021, 3, 1⟩, .iso, by decide⟩ := by
  have hyear : set ⟨⟨2021, 1, 31⟩, .iso, by decide⟩ .dayOfYear 366 =
      .ok ⟨⟨2022, 1, 1⟩, .iso, by decide⟩ := by rfl
  have hmonth : set ⟨⟨2021, 2, 1⟩, .iso, by decide⟩ .alignedWeekOfMonth 5 =
      .ok ⟨⟨2021, 3, 1⟩, .iso, by decide⟩ := by rfl
  exact ⟨⟨hyear, (readsBack_of_set hyear).2⟩, hmonth, (readsBack_of_set hmonth).2⟩

end Date

end Calendrics
