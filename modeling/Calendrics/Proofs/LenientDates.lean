import Mathlib.Order.Bounds.Basic
import Calendrics.Proofs.Moves

/-!
# Making dates leniently

A year, a month and a day make a date if the month exists, if some supported year gives the month
that day, and if the year is supported. The day need not exist in the year at hand: it is then moved
back to the end of the month.

The day is checked against the longest that the month can be, before the year is looked at. That
length is read off the months of a leap year if the chronology has any, and says nothing about years.
`HasDay` speaks of years instead; both agree, because the year 2000 is a leap year in every
chronology that has leap years.

* `isGreatest_longestMonth` — **the longest month is a month of some year**, and no year has a longer
  one;
* `hasDay_iff` — hence what the check of the day accepts;
* `ofFields_of_month_not_mem`, `ofFields_of_not_hasDay`, `ofFields_of_year_not_mem` — the three ways
  to fail, each of which comes before the next;
* `ofFields_eq_ok_iff` — what is made otherwise;
* `ofFields_exact` — **when a date is made, which one, and with which error it is refused**.
-/

namespace Calendrics

namespace Chronology

variable {c : Chronology} {month day : Int}

/-! ## The longest month -/

/-- The lengths that a month has in any year. -/
def lengthsOfMonth (c : Chronology) (month : Int) : Set Int :=
  Set.range fun year => c.lengthOfMonth year month

/-- Some supported year gives a month that day. -/
def HasDay (c : Chronology) (month day : Int) : Prop :=
  1 ≤ day ∧ ∃ year ∈ yearRange, day ≤ c.lengthOfMonth year month

/-- The year 2000 is a leap year if there are leap years. -/
theorem isLeapYear_2000 (c : Chronology) : c.isLeapYear 2000 = c.hasLeapYears := by
  cases c <;> rfl

/-- So no year has longer months than 2000. -/
theorem lengthOfMonth_2000 (c : Chronology) (month : Int) :
    c.lengthOfMonth 2000 month = c.longestMonth month := by
  rw [lengthOfMonth, monthsOf, isLeapYear_2000, longestMonth]

/-- **The longest that a month can be** is the greatest length that it has. -/
theorem isGreatest_longestMonth (hm : month ∈ monthRange) :
    IsGreatest (c.lengthsOfMonth month) (c.longestMonth month) := by
  refine ⟨⟨2000, c.lengthOfMonth_2000 month⟩, ?_⟩
  rintro _ ⟨year, rfl⟩
  exact c.lengthOfMonth_le_longestMonth year hm.1 hm.2

/-- The days that a month has in some supported year are those up to its longest length. -/
theorem hasDay_iff (hm : month ∈ monthRange) :
    c.HasDay month day ↔ 1 ≤ day ∧ day ≤ c.longestMonth month := by
  refine and_congr_right fun _ => ⟨?_, ?_⟩
  · rintro ⟨year, -, hday⟩
    exact hday.trans (c.lengthOfMonth_le_longestMonth year hm.1 hm.2)
  · intro hday
    rw [← lengthOfMonth_2000] at hday
    exact ⟨2000, ⟨by decide, by decide⟩, hday⟩

/-- That is the range which the check of the day compares with. -/
theorem hasDay_iff_mem (hm : month ∈ monthRange) :
    c.HasDay month day ↔ day ∈ Date.longestMonthRange c month hm :=
  hasDay_iff hm

end Chronology

namespace Date

variable {c : Chronology} {year month day : Int} {d : Date}

/-! ## Refusals -/

/-- A month that there is not is refused, whatever the year and the day. -/
theorem ofFields_of_month_not_mem (hm : month ∉ monthRange) :
    ofFields c year month day = .error (.invalidFieldValue .monthOfYear month 1 12) := by
  rw [ofFields, ofFieldsLogged, dif_neg hm]
  rfl

/-- A day that the month has in no supported year is refused, whatever the year. -/
theorem ofFields_of_not_hasDay (hm : month ∈ monthRange) (hd : ¬c.HasDay month day) :
    ofFields c year month day =
      .error (.invalidFieldValue .dayOfMonth day 1 (c.longestMonth month)) := by
  rw [Chronology.hasDay_iff_mem hm] at hd
  rw [ofFields, ofFieldsLogged, dif_pos hm, if_neg hd]
  rfl

/-- Month and day are checked before anything is made of them and the year. -/
theorem ofFields_of_hasDay (hm : month ∈ monthRange) (hd : c.HasDay month day) :
    ofFields c year month day = (resolve c year month day).result := by
  rw [Chronology.hasDay_iff_mem hm] at hd
  rw [ofFields, ofFieldsLogged, dif_pos hm, if_pos hd]

/-- So a year that is not supported is refused last. -/
theorem ofFields_of_year_not_mem (hm : month ∈ monthRange) (hd : c.HasDay month day)
    (hy : year ∉ yearRange) :
    ofFields c year month day = .error (.invalidFieldValue .year year minYear maxYear) := by
  rw [ofFields_of_hasDay hm hd, resolve, dif_neg hy]
  rfl

/-! ## Dates -/

/-- **What making a date leniently means**: a day that the month has in some year, in a month of a
supported year, is moved back to the end of the month if it is later. -/
theorem ofFields_eq_ok_iff :
    ofFields c year month day = .ok d ↔
      (1 ≤ day ∧ day ≤ c.longestMonth month) ∧ d.chronology = c ∧ d.year = year ∧
        d.month = month ∧ d.day = min day (c.lengthOfMonth year month) := by
  by_cases hm : month ∈ monthRange
  · by_cases hd : c.HasDay month day
    · rw [ofFields_of_hasDay hm hd, resolve_eq_ok_iff, ← Chronology.hasDay_iff hm]
      exact and_congr_left fun _ => ⟨fun _ => hd, fun _ => hd.1⟩
    · rw [ofFields_of_not_hasDay hm hd, ← Chronology.hasDay_iff hm]
      exact ⟨fun h => (by cases h), fun ⟨h, _⟩ => absurd h hd⟩
  · rw [ofFields_of_month_not_mem hm]
    refine ⟨fun h => (by cases h), ?_⟩
    rintro ⟨-, -, -, rfl, -⟩
    exact absurd d.month_mem_monthRange hm

/-- **When a date is made.** -/
theorem exists_ofFields_iff :
    (∃ d, ofFields c year month day = .ok d) ↔
      month ∈ monthRange ∧ c.HasDay month day ∧ year ∈ yearRange := by
  refine ⟨?_, ?_⟩
  · rintro ⟨d, h⟩
    obtain ⟨hday, -, rfl, rfl, -⟩ := ofFields_eq_ok_iff.mp h
    exact ⟨d.month_mem_monthRange, (Chronology.hasDay_iff d.month_mem_monthRange).mpr hday,
      d.year_mem_yearRange⟩
  · rintro ⟨hm, hd, hy⟩
    rw [ofFields_of_hasDay hm hd]
    exact ⟨clamp c year month day hy hm hd.1, resolve_eq_ok_iff.mpr ⟨hd.1, rfl, rfl, rfl, rfl⟩⟩

/-- **A day past the end of the month makes the date of its last day.** -/
theorem ofFields_lengthOfMonth (h : ofFields c year month day = .ok d)
    (hpast : c.lengthOfMonth year month ≤ day) :
    ofFields c year month (c.lengthOfMonth year month) = .ok d := by
  obtain ⟨⟨-, hlongest⟩, hc, rfl, rfl, hday⟩ := ofFields_eq_ok_iff.mp h
  have hlength : 1 ≤ c.lengthOfMonth d.year d.month := by
    rw [← hc]
    exact d.one_le_lengthOfMonth
  rw [Int.min_eq_right hpast] at hday
  rw [ofFields_eq_ok_iff, Int.min_self]
  exact ⟨⟨hlength, hpast.trans hlongest⟩, hc, rfl, rfl, hday⟩

/-- **What making a date leniently comes to.** It succeeds exactly if the month exists, some
supported year gives it that day, and the year is supported. The date has the given year and month,
and the given day or, if the month is too short in that year, its last, which is the date that asking
for this last day makes. Otherwise the first of the three that fails is refused, the day with the
greatest length that the month has in any year. -/
theorem ofFields_exact (c : Chronology) (year month day : Int) :
    ((∃ d, ofFields c year month day = .ok d) ↔
      month ∈ monthRange ∧ c.HasDay month day ∧ year ∈ yearRange) ∧
    (∀ d, ofFields c year month day = .ok d →
      d.chronology = c ∧
        d.toYearMonthDay = ⟨year, month, min day (c.lengthOfMonth year month)⟩ ∧
        (c.lengthOfMonth year month ≤ day →
          ofFields c year month (c.lengthOfMonth year month) = .ok d)) ∧
    (month ∉ monthRange →
      ofFields c year month day = .error (.invalidFieldValue .monthOfYear month 1 12)) ∧
    (month ∈ monthRange → ¬c.HasDay month day →
      ∃ longest, IsGreatest (c.lengthsOfMonth month) longest ∧
        ofFields c year month day = .error (.invalidFieldValue .dayOfMonth day 1 longest)) ∧
    (month ∈ monthRange → c.HasDay month day → year ∉ yearRange →
      ofFields c year month day = .error (.invalidFieldValue .year year minYear maxYear)) := by
  refine ⟨exists_ofFields_iff, ?_, ofFields_of_month_not_mem, ?_, ofFields_of_year_not_mem⟩
  · intro d h
    obtain ⟨-, hc, hy, hm, hd⟩ := ofFields_eq_ok_iff.mp h
    exact ⟨hc, YearMonthDay.ext hy hm hd, ofFields_lengthOfMonth h⟩
  · intro hm hd
    exact ⟨_, Chronology.isGreatest_longestMonth hm, ofFields_of_not_hasDay hm hd⟩

/-- Asking for 29 February of the common year 2021 makes 28 February, as asking for that does. In a
year that is not supported, the 29th is refused for the year, the 30th for the day, and the 30th of a
thirteenth month for the month. -/
theorem ofFields_exact_february :
    (ofFields .iso 2021 2 29 = .ok ⟨⟨2021, 2, 28⟩, .iso, by decide⟩ ∧
      ofFields .iso 2021 2 28 = .ok ⟨⟨2021, 2, 28⟩, .iso, by decide⟩) ∧
    ofFields .iso 1000000000 2 29 =
      .error (.invalidFieldValue .year 1000000000 (-999999999) 999999999) ∧
    (∃ longest, IsGreatest (Chronology.iso.lengthsOfMonth 2) longest ∧
      ofFields .iso 1000000000 2 30 = .error (.invalidFieldValue .dayOfMonth 30 1 longest)) ∧
    ofFields .iso 1000000000 13 30 = .error (.invalidFieldValue .monthOfYear 13 1 12) := by
  have hleap : Chronology.iso.HasDay 2 29 := (Chronology.hasDay_iff (by decide)).mpr (by decide)
  have hnever : ¬Chronology.iso.HasDay 2 30 :=
    mt (Chronology.hasDay_iff (by decide)).mp (by decide)
  obtain ⟨hmade, hmoved, -, -, -⟩ := ofFields_exact .iso 2021 2 29
  obtain ⟨-, -, -, -, hyear⟩ := ofFields_exact .iso 1000000000 2 29
  obtain ⟨-, -, -, hday, -⟩ := ofFields_exact .iso 1000000000 2 30
  obtain ⟨-, -, hmonth, -, -⟩ := ofFields_exact .iso 1000000000 13 30
  obtain ⟨d, hd⟩ := hmade.mpr ⟨by decide, hleap, by decide⟩
  obtain ⟨hc, ht, hlast⟩ := hmoved d hd
  have hsame : d = ⟨⟨2021, 2, 28⟩, .iso, by decide⟩ := by
    obtain ⟨hy, hm, hplace⟩ := YearMonthDay.ext_iff.mp ht
    exact Date.ext hy hm hplace hc
  subst hsame
  exact ⟨⟨hd, hlast (by decide)⟩, hyear (by decide) hleap (by decide), hday (by decide) hnever,
    hmonth (by decide)⟩

end Date

end Calendrics
