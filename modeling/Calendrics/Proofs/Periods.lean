import Calendrics.Date.Arithmetic
import Calendrics.Proofs.Moves

/-!
# Measuring a gap and moving by it

The gap between two dates is split in months and days, and a date is moved by a period months
first. Both look at the date that the months lead to: going forward, the days of the gap are
exactly the distance from that date to the end.

* `periodUntil_eq` — the three ways to split a gap, as one equation on results;
* `exists_periodUntil_of_le` — **forward, the days are counted from where the months lead**;
* `plusPeriod_periodUntil` — hence moving by the gap reaches the end.
-/

namespace Calendrics

namespace Period

/-- A number of months and a number of days that fits in 32 bits make a period. -/
theorem ofMonthsDays_eq_ok {c : Chronology} {months days : Int} (h : days ∈ Amount.narrowRange) :
    ofMonthsDays c months days = .ok ⟨c, months.tdiv 12, months.tmod 12, days⟩ := by
  have hrest : months.tmod 12 ∈ Amount.narrowRange := by
    have h₁ := Int.lt_tmod_of_pos months (show (0 : Int) < 12 by decide)
    have h₂ := Int.tmod_lt_of_pos months (show (0 : Int) < 12 by decide)
    rw [Amount.mem_narrowRange]
    omega
  rw [ofMonthsDays, Amount.narrow, Amount.narrow, if_pos hrest, if_pos h]
  rfl

/-- What the parts of a period are made of. -/
theorem eq_of_ofMonthsDays {c : Chronology} {months days : Int} {p : Period}
    (h : ofMonthsDays c months days = .ok p) :
    p = ⟨c, months.tdiv 12, months.tmod 12, days⟩ := by
  obtain ⟨rest, hrest, htail⟩ := Outcome.bind_eq_ok_iff.mp h
  obtain ⟨days', hdays, hp⟩ := Outcome.bind_eq_ok_iff.mp htail
  obtain ⟨-, rfl⟩ := Amount.narrow_eq_ok_iff.mp hrest
  obtain ⟨-, rfl⟩ := Amount.narrow_eq_ok_iff.mp hdays
  exact (Except.ok.inj hp).symm

/-- The split in years and months loses nothing: the period has that number of months. -/
theorem exists_ofMonthsDays {days : Int} (c : Chronology) (months : Int)
    (h : days ∈ Amount.narrowRange) :
    ∃ p, ofMonthsDays c months days = .ok p ∧ p.chronology = c ∧ p.totalMonths = months ∧
      p.days = days :=
  ⟨_, ofMonthsDays_eq_ok h, rfl, Int.tdiv_mul_add_tmod months 12, rfl⟩

end Period

namespace Date

variable {a b : Date}

/-- Only the chronology of the date itself is let through. -/
theorem requireChronology_eq_ok_iff {d : Date} {c : Chronology} {u : Unit} :
    d.requireChronology c = .ok u ↔ d.chronology = c := by
  by_cases hc : d.chronology = c
  · rw [requireChronology, if_pos hc]
    exact ⟨fun _ => hc, fun _ => rfl⟩
  · rw [requireChronology, if_neg hc]
    exact ⟨fun h => (by cases h), fun h => absurd h hc⟩

/-- Moving by a period is moving by its months and then by its days. -/
theorem plusPeriod_eq_ok_iff {d d' : Date} {p : Period} :
    d.plusPeriod p = .ok d' ↔ d.chronology = p.chronology ∧
      ∃ moved, (d.plusMonths p.totalMonths).result = .ok moved ∧
        moved.plusDays p.days = .ok d' := by
  simp only [plusPeriod_eq, Outcome.bind_eq_ok_iff, requireChronology_eq_ok_iff, exists_const]

/-- The gap between two dates of one chronology and its log, by cases: a month taken back going
forward, a month taken back going backward, or none. -/
theorem periodUntilLogged_eq (hc : a.chronology = b.chronology) :
    a.periodUntilLogged b =
      if 0 < b.prolepticMonth - a.prolepticMonth ∧ b.day - a.day < 0 then
        a.plusMonths (b.prolepticMonth - a.prolepticMonth - 1) >>= fun moved =>
          liftM (Period.ofMonthsDays a.chronology (b.prolepticMonth - a.prolepticMonth - 1)
            (b.epochDay - moved.epochDay))
      else if b.prolepticMonth - a.prolepticMonth < 0 ∧ 0 < b.day - a.day then
        liftM (Period.ofMonthsDays a.chronology (b.prolepticMonth - a.prolepticMonth + 1)
          (b.day - a.day - b.lengthOfMonth))
      else
        liftM (Period.ofMonthsDays a.chronology (b.prolepticMonth - a.prolepticMonth)
          (b.day - a.day)) := by
  rw [periodUntilLogged, requireChronology, if_pos hc, Logged.lift_ok_bind]

/-- The gap without its log. -/
theorem periodUntil_eq (hc : a.chronology = b.chronology) :
    a.periodUntil b =
      if 0 < b.prolepticMonth - a.prolepticMonth ∧ b.day - a.day < 0 then
        (a.plusMonths (b.prolepticMonth - a.prolepticMonth - 1)).result >>= fun moved =>
          Period.ofMonthsDays a.chronology (b.prolepticMonth - a.prolepticMonth - 1)
            (b.epochDay - moved.epochDay)
      else if b.prolepticMonth - a.prolepticMonth < 0 ∧ 0 < b.day - a.day then
        Period.ofMonthsDays a.chronology (b.prolepticMonth - a.prolepticMonth + 1)
          (b.day - a.day - b.lengthOfMonth)
      else
        Period.ofMonthsDays a.chronology (b.prolepticMonth - a.prolepticMonth) (b.day - a.day) := by
  rw [periodUntil, periodUntilLogged_eq hc, apply_ite Logged.result, apply_ite Logged.result,
    Logged.result_bind]
  rfl

/-- Between dates of different chronologies there is no gap, which is all there is to say. -/
theorem periodUntilLogged_eq_mismatch (hc : a.chronology ≠ b.chronology) :
    a.periodUntilLogged b =
      .ofExcept (.error (.chronologyMismatch a.chronology b.chronology)) := by
  rw [periodUntilLogged, requireChronology, if_neg hc, Logged.lift_error_bind]

/-- The refusal names both chronologies. -/
theorem periodUntil_eq_mismatch (hc : a.chronology ≠ b.chronology) :
    a.periodUntil b = .error (.chronologyMismatch a.chronology b.chronology) := by
  rw [periodUntil, periodUntilLogged_eq_mismatch hc, Logged.result_ofExcept]

/-- Only dates of one chronology have a gap. -/
theorem chronology_eq_of_periodUntil {p : Period} (h : a.periodUntil b = .ok p) :
    a.chronology = b.chronology := by
  by_contra hc
  rw [periodUntil_eq_mismatch hc] at h
  cases h

/-- If a gap is split so that the days are counted from the date that the months lead to, it is a
period, and has these months and days. -/
theorem exists_periodUntil_of_split {moved : Date} {months days : Int}
    (hsplit : a.periodUntil b = Period.ofMonthsDays a.chronology months days)
    (hmoved : (a.plusMonths months).result = .ok moved) (hdays : days = b.epochDay - moved.epochDay)
    (hnarrow : days ∈ Amount.narrowRange) :
    ∃ p moved, a.periodUntil b = .ok p ∧ p.chronology = a.chronology ∧
      (a.plusMonths p.totalMonths).result = .ok moved ∧
      p.days = b.epochDay - moved.epochDay := by
  obtain ⟨p, hp, hpc, rfl, rfl⟩ := Period.exists_ofMonthsDays a.chronology months hnarrow
  exact ⟨p, moved, hsplit.trans hp, hpc, hmoved, hdays⟩

/-- From a date to one in the next month it is at most two months of days. -/
theorem epochDay_sub_bounds (hc : a.chronology = b.chronology)
    (hnext : b.prolepticMonth = a.prolepticMonth + 1) :
    1 ≤ b.epochDay - a.epochDay ∧ b.epochDay - a.epochDay ≤ 62 := by
  have hlength := a.chronology.monthLength_bounds a.prolepticMonth
  have ha₁ := a.isDate.one_le_day
  have ha₂ := a.day_le_monthLength
  have hb₁ := b.isDate.one_le_day
  have hb₂ := b.day_le_monthLength
  have hbl := b.chronology.monthLength_bounds b.prolepticMonth
  rw [epochDay_eq, epochDay_eq, hnext, ← hc, Chronology.monthStart_succ]
  omega

/-- Where a month is taken back going forward, the date that the remaining months lead to lies in
the month before the end. -/
theorem exists_periodUntil_of_borrow (hc : a.chronology = b.chronology)
    (hm : a.prolepticMonth < b.prolepticMonth) (hd : b.day < a.day) :
    ∃ p moved, a.periodUntil b = .ok p ∧ p.chronology = a.chronology ∧
      (a.plusMonths p.totalMonths).result = .ok moved ∧
      p.days = b.epochDay - moved.epochDay := by
  have ha := a.firstMonth_le_prolepticMonth
  have hb := b.prolepticMonth_le_lastMonth
  obtain ⟨moved, hmoved⟩ := a.exists_plusMonths (n := b.prolepticMonth - a.prolepticMonth - 1)
    (by omega) (by omega)
  obtain ⟨hmc, hmm, -⟩ := plusMonths_eq_ok_iff.mp hmoved
  have hnarrow : b.epochDay - moved.epochDay ∈ Amount.narrowRange := by
    have hnext : b.prolepticMonth = moved.prolepticMonth + 1 := by omega
    have hdays := epochDay_sub_bounds (hmc.trans hc) hnext
    rw [Amount.mem_narrowRange]
    omega
  refine exists_periodUntil_of_split ?_ hmoved rfl hnarrow
  rw [periodUntil_eq hc, if_pos ⟨by omega, by omega⟩, hmoved]
  rfl

/-- Where no month is taken back going forward, the months lead into the month of the end, on the
day of the start. -/
theorem exists_periodUntil_of_day_le (hc : a.chronology = b.chronology)
    (hm : a.prolepticMonth ≤ b.prolepticMonth) (hd : a.day ≤ b.day) :
    ∃ p moved, a.periodUntil b = .ok p ∧ p.chronology = a.chronology ∧
      (a.plusMonths p.totalMonths).result = .ok moved ∧
      p.days = b.epochDay - moved.epochDay := by
  have ha := a.firstMonth_le_prolepticMonth
  have hb := b.prolepticMonth_le_lastMonth
  obtain ⟨moved, hmoved⟩ := a.exists_plusMonths (n := b.prolepticMonth - a.prolepticMonth)
    (by omega) (by omega)
  obtain ⟨hmc, hmm, hmd⟩ := plusMonths_eq_ok_iff.mp hmoved
  have hsame : moved.prolepticMonth = b.prolepticMonth := by omega
  have hlast := b.day_le_monthLength
  -- the month of the end has the day of the start
  have hday : moved.day = a.day := by
    rw [lengthOfMonth_eq, hsame, hmc, hc] at hmd
    omega
  have hnarrow : b.day - a.day ∈ Amount.narrowRange := by
    have hfirst := a.isDate.one_le_day
    have hlength := b.chronology.monthLength_bounds b.prolepticMonth
    rw [Amount.mem_narrowRange]
    omega
  refine exists_periodUntil_of_split ?_ hmoved ?_ hnarrow
  · rw [periodUntil_eq hc, if_neg (by omega), if_neg (by omega)]
  · rw [epochDay_eq, epochDay_eq, hsame, hday, hmc, hc]
    omega

/-- **Forward, the days are counted from where the months lead.** -/
theorem exists_periodUntil_of_le (h : a ≤ b) :
    ∃ p moved, a.periodUntil b = .ok p ∧ p.chronology = a.chronology ∧
      (a.plusMonths p.totalMonths).result = .ok moved ∧
      p.days = b.epochDay - moved.epochDay := by
  have hc := chronology_eq_of_le h
  rcases (le_iff_month_day hc).mp h with hm | ⟨hm, hd⟩
  · by_cases hd : b.day < a.day
    · exact exists_periodUntil_of_borrow hc hm hd
    · exact exists_periodUntil_of_day_le hc (Int.le_of_lt hm) (Int.not_lt.mp hd)
  · exact exists_periodUntil_of_day_le hc (Int.le_of_eq hm) hd

/-- **Moving by the gap reaches the end**: between a date and a later or equal one there is a
period, and moving the first date by it gives the second. -/
theorem plusPeriod_periodUntil (start finish : Date) (h : start ≤ finish) :
    ∃ p, start.periodUntil finish = .ok p ∧ start.plusPeriod p = .ok finish := by
  obtain ⟨p, moved, hp, hc, hmoved, hdays⟩ := exists_periodUntil_of_le h
  obtain ⟨hmc, -, -⟩ := plusMonths_eq_ok_iff.mp hmoved
  refine ⟨p, hp, plusPeriod_eq_ok_iff.mpr ⟨hc.symm, moved, hmoved, ?_⟩⟩
  rw [plusDays_eq_ok_iff, hmc, hdays]
  exact ⟨(chronology_eq_of_le h).symm, by omega⟩

/-- From the end of January over a leap day to the first of March, where the month that is taken
back is a clamped February. -/
theorem plusPeriod_periodUntil_clamped :
    ∃ p, periodUntil ⟨⟨2023, 1, 31⟩, .iso, by decide⟩ ⟨⟨2024, 3, 1⟩, .iso, by decide⟩ = .ok p ∧
      plusPeriod ⟨⟨2023, 1, 31⟩, .iso, by decide⟩ p = .ok ⟨⟨2024, 3, 1⟩, .iso, by decide⟩ :=
  plusPeriod_periodUntil ⟨⟨2023, 1, 31⟩, .iso, by decide⟩ ⟨⟨2024, 3, 1⟩, .iso, by decide⟩
    (by decide)

end Date

end Calendrics
