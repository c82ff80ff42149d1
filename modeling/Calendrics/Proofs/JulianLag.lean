import Calendrics.Proofs.Conversions

/-!
# The Julian calendar beside the Gregorian

Both calendars number the same days, but a name such as 5 October 1582 stands for one day in the
Gregorian calendar and for a later one in the Julian. The two encodings of day numbers have cycles of
different lengths; without the cycles (`Gregorian.epochDay_eq_sum`, `Julian.epochDay_eq_sum`) they
differ in the leap days of the centuries and in where they begin. So the distance between the two days
of a name depends on its March year alone.

* `julianLag_succ` — the distance grows by a day with each leap year that only the Julian calendar
  has;
* `epochDay_julian_eq` — **the day of a name in the Julian calendar** is so much later;
* `same_name_apart` — the distance in terms of year and month;
* `convertTo_julian_eq_ok_iff` — hence a Gregorian date has as its Julian date the one that comes so
  many days before the Julian date of the same name.
-/

namespace Calendrics

namespace Chronology

/-- How many days later a month and a day of a March year come in the Julian calendar: by the
Gregorian centuries without leap day up to then, less two. -/
def julianLag (marchYear : Int) : Int :=
  marchYear / 100 - marchYear / 400 - 2

/-- **The lag grows with the leap years that only the Julian calendar has.** -/
theorem julianLag_succ (y : Int) :
    julianLag (y + 1) =
      julianLag y + (if julian.isLeapYear (y + 1) ∧ ¬iso.isLeapYear (y + 1) then 1 else 0) := by
  simp only [julianLag, isLeapYear, decide_eq_true_eq]
  split <;> omega

/-- **In the Julian calendar, the day of a name comes later** by the lag of its March year. -/
theorem epochDay_julian_eq (t : YearMonthDay) :
    julian.epochDay t = iso.epochDay t + julianLag (MarchYear.ofDate t.year t.month) := by
  simp only [epochDay, Julian.epochDay_eq_sum, Gregorian.epochDay_eq_sum, julianLag]
  omega

end Chronology

namespace Date

variable {j g d : Date}

/-- **Dates of one name are apart by the lag.** -/
theorem epochDay_eq_of_same_name (hj : j.chronology = .julian) (hg : g.chronology = .iso)
    (hsame : j.toYearMonthDay = g.toYearMonthDay) :
    j.epochDay = g.epochDay + Chronology.julianLag (MarchYear.ofDate j.year j.month) := by
  rw [epochDay, epochDay, hj, hg, ← hsame]
  exact Chronology.epochDay_julian_eq _

/-- **The Julian date of a Gregorian day** is found by going back from the Julian date of the same
name. -/
theorem convertTo_julian_eq_ok_iff (hj : j.chronology = .julian) (hg : g.chronology = .iso)
    (hsame : j.toYearMonthDay = g.toYearMonthDay) :
    g.convertTo .julian = .ok d ↔
      j.plusDays (-Chronology.julianLag (MarchYear.ofDate j.year j.month)) = .ok d := by
  have hlag := epochDay_eq_of_same_name hj hg hsame
  rw [convertTo_eq_ok_iff, plusDays_eq_ok_iff, hj]
  refine and_congr_right fun _ => ?_
  omega

/-- **How far apart the days of one name are.** A date of the Julian calendar and the date of the
Gregorian calendar with the same year, month and day are as many days apart as there are whole
centuries in the year, less the whole spans of 400 years in it, less two; in January and February the
year before counts. Below year zero the quotients are rounded down too. -/
theorem same_name_apart (hj : j.chronology = .julian) (hg : g.chronology = .iso)
    (hsame : j.toYearMonthDay = g.toYearMonthDay) :
    (3 ≤ j.month → j.epochDay - g.epochDay = j.year / 100 - j.year / 400 - 2) ∧
    (j.month ≤ 2 → j.epochDay - g.epochDay = (j.year - 1) / 100 - (j.year - 1) / 400 - 2) := by
  have hlag := epochDay_eq_of_same_name hj hg hsame
  refine ⟨fun hm => ?_, fun hm => ?_⟩
  · rw [MarchYear.ofDate, if_neg (by omega)] at hlag
    unfold Chronology.julianLag at hlag
    omega
  · rw [MarchYear.ofDate, if_pos hm] at hlag
    unfold Chronology.julianLag at hlag
    omega

/-- Around the end of February 1900, which has a 29th in the Julian calendar only: the days of the
name 28 February are twelve days apart, those of the name 1 March thirteen. On 1 January of year zero
the Julian day is the earlier one, by two days. -/
theorem same_name_apart_1900 :
    epochDay ⟨⟨1900, 2, 28⟩, .julian, by decide⟩ - epochDay ⟨⟨1900, 2, 28⟩, .iso, by decide⟩ = 12 ∧
      epochDay ⟨⟨1900, 3, 1⟩, .julian, by decide⟩ - epochDay ⟨⟨1900, 3, 1⟩, .iso, by decide⟩ = 13 ∧
      epochDay ⟨⟨0, 1, 1⟩, .julian, by decide⟩ - epochDay ⟨⟨0, 1, 1⟩, .iso, by decide⟩ = -2 := by
  obtain ⟨-, hfebruary⟩ := same_name_apart (j := ⟨⟨1900, 2, 28⟩, .julian, by decide⟩)
    (g := ⟨⟨1900, 2, 28⟩, .iso, by decide⟩) rfl rfl rfl
  obtain ⟨hmarch, -⟩ := same_name_apart (j := ⟨⟨1900, 3, 1⟩, .julian, by decide⟩)
    (g := ⟨⟨1900, 3, 1⟩, .iso, by decide⟩) rfl rfl rfl
  obtain ⟨-, hzero⟩ := same_name_apart (j := ⟨⟨0, 1, 1⟩, .julian, by decide⟩)
    (g := ⟨⟨0, 1, 1⟩, .iso, by decide⟩) rfl rfl rfl
  exact ⟨hfebruary (by decide), hmarch (by decide), hzero (by decide)⟩

end Date

end Calendrics
