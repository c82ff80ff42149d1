import Calendrics.Date.Make
import Calendrics.Proofs.MonthCount

/-!
# Day numbers and dates correspond

In each chronology, numbering the days is a bijection between the supported dates and the numbers
in the range of the day number. One half, that the date of a number has that number, is built into
the encodings; the other half follows from it, because dates with one number are equal.

* `epochDay_mem_epochDayRange` — every supported date has its number in the range;
* `ofEpochDay_eq_ok_iff` — **what finding a date means**: it is the date with that number;
* `ofEpochDay_correspondence` — both directions together.
-/

namespace Calendrics

namespace Chronology

/-- The first day number is where the first month begins. -/
theorem epochDayRange_min (c : Chronology) : c.epochDayRange.min = c.monthStart firstMonth := rfl

/-- The last day number is where the last month ends. -/
theorem epochDayRange_max (c : Chronology) :
    c.epochDayRange.max = c.monthStart lastMonth + c.monthLength lastMonth - 1 :=
  c.epochDay_eq_first_add c.lastDate

end Chronology

namespace Date

/-- **Every supported date has its number in the range.** -/
theorem epochDay_mem_epochDayRange (d : Date) : d.epochDay ∈ d.chronology.epochDayRange := by
  have hfirst := d.chronology.tiles_months.start_mono d.firstMonth_le_prolepticMonth
  have hlast := d.chronology.tiles_months.end_mono d.prolepticMonth_le_lastMonth
  have h₁ := d.isDate.one_le_day
  have h₂ := d.day_le_monthLength
  rw [ValueRange.mem_iff, Chronology.epochDayRange_min, Chronology.epochDayRange_max, epochDay_eq]
  omega

/-- **What finding a date means**: the date of a number is the date with that number. -/
theorem ofEpochDay_eq_ok_iff {c : Chronology} {e : Int} {d : Date} :
    ofEpochDay c e = .ok d ↔ d.chronology = c ∧ d.epochDay = e := by
  refine ⟨?_, ?_⟩
  · intro h
    by_cases he : e ∈ c.epochDayRange
    · rw [ofEpochDay, dif_pos he] at h
      obtain rfl := Except.ok.inj h
      exact ⟨rfl, c.epochDay_ofEpochDay e⟩
    · rw [ofEpochDay, dif_neg he] at h
      cases h
  · rintro ⟨rfl, rfl⟩
    rw [ofEpochDay, dif_pos d.epochDay_mem_epochDayRange]
    exact congrArg Except.ok (epochDay_inj rfl (d.chronology.epochDay_ofEpochDay d.epochDay))

/-- A number outside the range is refused. -/
theorem ofEpochDay_eq_error_iff {c : Chronology} {e : Int} {x : CalendarError} :
    ofEpochDay c e = .error x ↔ e ∉ c.epochDayRange ∧ x = c.epochDayRange.refusal .epochDay e := by
  by_cases he : e ∈ c.epochDayRange
  · rw [ofEpochDay, dif_pos he]
    refine ⟨?_, ?_⟩
    · intro h
      cases h
    · rintro ⟨hne, -⟩
      exact absurd he hne
  · rw [ofEpochDay, dif_neg he]
    refine ⟨?_, ?_⟩
    · intro h
      exact ⟨he, (Except.error.inj h).symm⟩
    · rintro ⟨-, rfl⟩
      rfl

/-- A number has a date exactly if it is in the range. -/
theorem exists_ofEpochDay_iff {c : Chronology} {e : Int} :
    (∃ d, ofEpochDay c e = .ok d) ↔ e ∈ c.epochDayRange := by
  refine ⟨?_, ?_⟩
  · rintro ⟨d, h⟩
    obtain ⟨rfl, rfl⟩ := ofEpochDay_eq_ok_iff.mp h
    exact d.epochDay_mem_epochDayRange
  · intro he
    exact ⟨_, dif_pos he⟩

/-- **Day numbers and dates correspond.** A number has a date exactly if it is in the range of the
field; the date is then a supported day of the chronology and has that number; and every supported
date has its number in the range and is found again from it. -/
theorem ofEpochDay_correspondence (c : Chronology) :
    (∀ e : Int, (∃ d, ofEpochDay c e = .ok d) ↔ e ∈ c.validRange .epochDay) ∧
    (∀ (e : Int) (d : Date), ofEpochDay c e = .ok d →
      d.chronology = c ∧ (minYear ≤ d.year ∧ d.year ≤ maxYear) ∧ (1 ≤ d.month ∧ d.month ≤ 12) ∧
        (1 ≤ d.day ∧ d.day ≤ c.lengthOfMonth d.year d.month) ∧ d.epochDay = e) ∧
    (∀ (t : YearMonthDay) (h : c.IsDate t),
      c.epochDay t ∈ c.validRange .epochDay ∧ ofEpochDay c (c.epochDay t) = .ok ⟨t, c, h⟩) := by
  refine ⟨fun e => exists_ofEpochDay_iff, fun e d hd => ?_, fun t h => ?_⟩
  · obtain ⟨rfl, hnumber⟩ := ofEpochDay_eq_ok_iff.mp hd
    obtain ⟨hy₁, hy₂, hm₁, hm₂, hd₁, hd₂⟩ := d.isDate
    exact ⟨rfl, ⟨hy₁, hy₂⟩, ⟨hm₁, hm₂⟩, ⟨hd₁, hd₂⟩, hnumber⟩
  · exact ⟨epochDay_mem_epochDayRange ⟨t, c, h⟩, ofEpochDay_eq_ok_iff.mpr ⟨rfl, rfl⟩⟩

/-- At the leap day that ends a cycle of 400 years: 29 February 2000 of the Gregorian calendar is
day 11016, and is found again from it. -/
theorem ofEpochDay_correspondence_leapDay :
    Chronology.iso.IsDate ⟨2000, 2, 29⟩ ∧
      ofEpochDay .iso 11016 = .ok ⟨⟨2000, 2, 29⟩, .iso, by decide⟩ ∧
      (11016 : Int) ∈ Chronology.iso.validRange .epochDay ∧
      Chronology.iso.epochDay ⟨2000, 2, 29⟩ = 11016 := by
  have hdate : Chronology.iso.IsDate ⟨2000, 2, 29⟩ := by decide
  have hnumber : Chronology.iso.epochDay ⟨2000, 2, 29⟩ = 11016 := by decide
  obtain ⟨-, hfound, hback⟩ := ofEpochDay_correspondence .iso
  obtain ⟨hmem, hok⟩ := hback _ hdate
  rw [hnumber] at hmem hok
  obtain ⟨-, -, -, -, hsame⟩ := hfound _ _ hok
  exact ⟨hdate, hok, hmem, hsame⟩

end Date

end Calendrics
