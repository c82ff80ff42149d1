import Calendrics.Proofs.Brackets
import Calendrics.Proofs.FieldRanges

/-!
# The normal form of a gap

One gap between two dates could be split in years, months and days in many ways: with thirteen
months, with minus one month and forty days. `periodUntil` picks one of them. Its parts all point in
the direction of the gap, its months are too few for a year, and its days are too few for the
longest month of the chronology.

* `Period.IsNormal` — what it is for a period to be split in this way;
* `monthsUntil_cases_of_le`, `monthsUntil_cases_of_ge` — the whole months lead into the month of
  the end or into the one beside it, which leaves few days;
* `pointsForward_of_le`, `pointsBackward_of_ge` — the gap to a later date has no part that points
  back, and the gap to an earlier date none that points forward;
* `periodUntil_normal` — **between dates of one chronology there is a gap, and it is normal**; it
  is zero or negative as the order of the dates demands, and across chronologies it is refused.
-/

namespace Calendrics

namespace Chronology

/-- No month is longer than the longest. -/
theorem monthLength_le_longestMonthOfAll (c : Chronology) (m : Int) :
    c.monthLength m ≤ c.longestMonthOfAll := by
  obtain ⟨h₁, h₂⟩ := month_mem m
  calc c.monthLength m ≤ c.longestMonth (m % monthsPerYear + 1) :=
        c.lengthOfMonth_le_longestMonth _ h₁ h₂
    _ ≤ c.longestMonthOfAll := c.longestMonth_le_longestMonthOfAll h₁ h₂

end Chronology

/-! ## Parts that point in one direction -/

namespace Period

variable {p : Period}

/-- A period is in normal form. -/
structure IsNormal (p : Period) : Prop where
  /-- the months are too few for a year -/
  months : -11 ≤ p.months ∧ p.months ≤ 11
  /-- the days are too few for the longest month -/
  days : -p.chronology.longestMonthOfAll < p.days ∧ p.days < p.chronology.longestMonthOfAll
  /-- no two parts are of opposite sign -/
  oneSign : (0 ≤ p.years ∧ 0 ≤ p.months ∧ 0 ≤ p.days) ∨
    (p.years ≤ 0 ∧ p.months ≤ 0 ∧ p.days ≤ 0)

/-- A period in normal form has no part that points back. -/
structure PointsForward (p : Period) : Prop where
  /-- the years do not point back -/
  years : 0 ≤ p.years
  /-- nor do the months, which are too few for a year -/
  months : 0 ≤ p.months ∧ p.months ≤ 11
  /-- nor do the days, which are too few for the longest month -/
  days : 0 ≤ p.days ∧ p.days < p.chronology.longestMonthOfAll

/-- A period that points forward is normal. -/
theorem PointsForward.isNormal (h : p.PointsForward) : p.IsNormal := by
  obtain ⟨hyears, ⟨hm₁, hm₂⟩, hd₁, hd₂⟩ := h
  exact ⟨⟨by omega, hm₂⟩, ⟨by omega, hd₂⟩, .inl ⟨hyears, hm₁, hd₁⟩⟩

/-- A normal period is normal when it is turned round. -/
theorem IsNormal.negated (h : p.IsNormal) : p.negated.IsNormal := by
  obtain ⟨hmonths, hdays, hsign⟩ := h
  refine ⟨?_, ?_, ?_⟩ <;> simp only [Period.negated] <;> omega

/-- So one that points forward when it is turned round is normal, too. -/
theorem PointsForward.isNormal_of_negated (h : p.negated.PointsForward) : p.IsNormal :=
  p.negated_negated ▸ h.isNormal.negated

/-- A period that points forward is not negative. -/
theorem PointsForward.not_isNegative (h : p.PointsForward) : ¬p.isNegative = true := by
  obtain ⟨hyears, ⟨hmonths, -⟩, hdays, -⟩ := h
  rw [isNegative_iff]
  omega

/-- Turned round, it is negative unless it is zero. -/
theorem PointsForward.isNegative_iff_of_negated (h : p.negated.PointsForward) :
    p.isNegative = true ↔ ¬p.isZero = true := by
  obtain ⟨hyears, ⟨hmonths, -⟩, hdays, -⟩ := h
  simp only [negated] at hyears hmonths hdays
  rw [isZero_iff, isNegative_iff]
  omega

/-- Only zero points in both directions. -/
theorem PointsForward.isZero (h : p.PointsForward) (h' : p.negated.PointsForward) :
    p.isZero = true := by
  obtain ⟨hy, ⟨hm, -⟩, hd, -⟩ := h
  obtain ⟨hy', ⟨hm', -⟩, hd', -⟩ := h'
  simp only [negated] at hy' hm' hd'
  rw [isZero_iff]
  omega

end Period

namespace Date

variable {a b moved : Date} {p : Period}

/-! ## Where the whole months lead -/

/-- Forward, the whole months lead into the month of the end, or into the month before it if its
day is later there. -/
theorem monthsUntil_cases_of_le (h : a ≤ b) :
    (a.prolepticMonth + a.monthsUntil b = b.prolepticMonth ∧ a.day ≤ b.day) ∨
      (a.prolepticMonth + a.monthsUntil b + 1 = b.prolepticMonth ∧ b.day < a.day) := by
  have hreached := (le_monthsUntil_iff h).mp (Int.le_refl _)
  have hpast := mt (le_monthsUntil_iff h (j := a.monthsUntil b + 1)).mpr (by omega)
  omega

/-- Backward, they lead into the month of the end, or into the month after it if its day is earlier
there. -/
theorem monthsUntil_cases_of_ge (h : b ≤ a) :
    (a.prolepticMonth + a.monthsUntil b = b.prolepticMonth ∧ b.day ≤ a.day) ∨
      (a.prolepticMonth + a.monthsUntil b = b.prolepticMonth + 1 ∧ a.day < b.day) := by
  have hreached := (monthsUntil_le_iff h).mp (Int.le_refl _)
  have hpast := mt (monthsUntil_le_iff h (j := a.monthsUntil b - 1)).mpr (by omega)
  omega

/-! ## Few days -/

/-- From where the whole months lead forward, the days to the end are too few for the longest
month. -/
theorem epochDay_sub_bounds_of_le (h : a ≤ b)
    (hmoved : (a.plusMonths (a.monthsUntil b)).result = .ok moved) :
    0 ≤ b.epochDay - moved.epochDay ∧
      b.epochDay - moved.epochDay < a.chronology.longestMonthOfAll := by
  have hc := chronology_eq_of_le h
  obtain ⟨hmc, hmm, hmd⟩ := plusMonths_eq_ok_iff.mp hmoved
  have hlong := a.day_le_longestMonthOfAll
  have hfirst := a.isDate.one_le_day
  have hend := b.isDate.one_le_day
  have hlast := b.day_le_monthLength
  have hlength := a.chronology.monthLength_le_longestMonthOfAll b.prolepticMonth
  rw [lengthOfMonth_eq, hmc, hmm] at hmd
  rw [epochDay_eq, epochDay_eq, hmc, hmm, ← hc]
  rw [← hc] at hlast
  rcases monthsUntil_cases_of_le h with ⟨hm, hd⟩ | ⟨hm, hd⟩
  · -- the month of the end has the day of the start
    rw [hm] at hmd ⊢
    omega
  · -- the day of the start is kept in the month before, or it is beyond the end of that month
    have hprevious := a.chronology.monthLength_le_longestMonthOfAll
      (a.prolepticMonth + a.monthsUntil b)
    rw [← hm, Chronology.monthStart_succ]
    omega

/-- Backward, so are the days from the end to the day of the start in the month that the whole
months lead to. -/
theorem epochDay_sub_bounds_of_ge (h : b ≤ a) :
    -a.chronology.longestMonthOfAll < b.epochDay -
        (a.chronology.monthStart (a.prolepticMonth + a.monthsUntil b) + a.day - 1) ∧
      b.epochDay - (a.chronology.monthStart (a.prolepticMonth + a.monthsUntil b) + a.day - 1) ≤
        0 := by
  have hc := chronology_eq_of_le h
  have hlong := a.day_le_longestMonthOfAll
  have hfirst := a.isDate.one_le_day
  have hend := b.isDate.one_le_day
  have hlast := b.day_le_monthLength
  have hlength := a.chronology.monthLength_le_longestMonthOfAll b.prolepticMonth
  rw [hc] at hlast
  rw [epochDay_eq b, hc]
  rcases monthsUntil_cases_of_ge h with ⟨hm, hd⟩ | ⟨hm, hd⟩
  · rw [hm]
    omega
  · rw [hm, Chronology.monthStart_succ]
    omega

/-! ## The directions of a gap -/

/-- A gap belongs to the chronology of its dates. -/
theorem chronology_of_periodUntil (hp : a.periodUntil b = .ok p) : p.chronology = a.chronology := by
  obtain ⟨days, hdays⟩ :=
    exists_ofMonthsDays_of_periodUntil (chronology_eq_of_periodUntil hp) hp
  rw [Period.eq_of_ofMonthsDays hdays]

/-- The days of a gap forward are counted from where its months lead. -/
theorem exists_moved_of_le (h : a ≤ b) (hp : a.periodUntil b = .ok p) :
    ∃ moved, (a.plusMonths p.totalMonths).result = .ok moved ∧
      p.days = b.epochDay - moved.epochDay := by
  obtain ⟨q, moved, hq, -, hmoved, hdays⟩ := exists_periodUntil_of_le h
  obtain rfl := Except.ok.inj (hp.symm.trans hq)
  exact ⟨moved, hmoved, hdays⟩

/-- The days of a gap backward are counted from the day of the start in the month that its months
lead to. -/
theorem exists_moved_of_ge (h : b ≤ a) (hp : a.periodUntil b = .ok p) :
    ∃ moved, MeasuresBackward a b p moved := by
  obtain ⟨q, moved, hq⟩ := exists_measuresBackward h
  obtain rfl := Except.ok.inj (hp.symm.trans hq.periodUntil_eq)
  exact ⟨moved, hq⟩

/-- **The gap to a later date points forward.** -/
theorem pointsForward_of_le (h : a ≤ b) (hp : a.periodUntil b = .ok p) : p.PointsForward := by
  obtain ⟨moved, hmoved, hdays⟩ := exists_moved_of_le h hp
  obtain ⟨hyears, hmonths⟩ := years_of_periodUntil (chronology_eq_of_le h) hp
  obtain ⟨hn, -⟩ := monthsUntil_bounds_of_le h
  obtain ⟨hy₁, hy₂, hy₃⟩ := tdiv_bracket_of_nonneg hn (show (0 : Int) < 12 by decide)
  rw [hmonths] at hmoved
  rw [← hyears] at hy₁ hy₂ hy₃
  rw [Period.totalMonths] at hmonths
  refine ⟨hy₁, ⟨by omega, by omega⟩, ?_⟩
  rw [hdays, chronology_of_periodUntil hp]
  exact epochDay_sub_bounds_of_le h hmoved

/-- **The gap to an earlier date points back.** -/
theorem pointsBackward_of_ge (h : b ≤ a) (hp : a.periodUntil b = .ok p) :
    p.negated.PointsForward := by
  obtain ⟨moved, hmeasures⟩ := exists_moved_of_ge h hp
  obtain ⟨hyears, hmonths⟩ := years_of_periodUntil (chronology_eq_of_le h).symm hp
  obtain ⟨hn, -⟩ := monthsUntil_bounds_of_ge h
  obtain ⟨hy₁, hy₂, hy₃⟩ := tdiv_bracket_of_nonpos hn (show (0 : Int) < 12 by decide)
  obtain ⟨hmc, hmm, -⟩ := plusMonths_eq_ok_iff.mp hmeasures.plusMonths_eq
  obtain ⟨hd₁, hd₂⟩ := epochDay_sub_bounds_of_ge h
  have hdays := hmeasures.add_days
  rw [epochDay_eq moved, hmc, hmm, hmonths] at hdays
  rw [← hyears] at hy₁ hy₂ hy₃
  rw [Period.totalMonths] at hmonths
  refine ⟨?_, ?_, ?_⟩
  · exact Int.neg_nonneg_of_nonpos hy₁
  · simp only [Period.negated]
    omega
  · simp only [Period.negated, hmeasures.chronology_eq]
    omega

/-! ## Normal form -/

/-- **The gap between two dates is in normal form.** -/
theorem isNormal_of_periodUntil (hp : a.periodUntil b = .ok p) : p.IsNormal := by
  rcases le_total (chronology_eq_of_periodUntil hp) with h | h
  · exact (pointsForward_of_le h hp).isNormal
  · exact (pointsBackward_of_ge h hp).isNormal_of_negated

/-- No months lead to the date itself. -/
theorem eq_of_plusMonths_zero (h : (a.plusMonths 0).result = .ok moved) : moved = a := by
  rw [plusMonths, if_pos rfl] at h
  exact (Except.ok.inj h).symm

/-- Only equal dates have no gap. -/
theorem eq_of_isZero (hp : a.periodUntil b = .ok p) (hz : p.isZero = true) : a = b := by
  have hc := chronology_eq_of_periodUntil hp
  obtain ⟨hyears, hmonths, hdays⟩ := Period.isZero_iff.mp hz
  have htotal : p.totalMonths = 0 := by
    rw [Period.totalMonths, hyears, hmonths]
    rfl
  apply epochDay_inj hc
  rcases le_total hc with h | h
  · obtain ⟨moved, hmoved, hcount⟩ := exists_moved_of_le h hp
    rw [htotal] at hmoved
    obtain rfl := eq_of_plusMonths_zero hmoved
    omega
  · obtain ⟨moved, hmeasures⟩ := exists_moved_of_ge h hp
    have hmoved := hmeasures.plusMonths_eq
    have hcount := hmeasures.add_days
    rw [htotal] at hmoved
    obtain rfl := eq_of_plusMonths_zero hmoved
    omega

/-- **A gap is zero exactly between equal dates.** -/
theorem isZero_iff_of_periodUntil (hp : a.periodUntil b = .ok p) :
    p.isZero = true ↔ a = b := by
  refine ⟨eq_of_isZero hp, ?_⟩
  rintro rfl
  have hself : a ≤ a := (le_iff rfl).mpr (.inr rfl)
  exact (pointsForward_of_le hself hp).isZero (pointsBackward_of_ge hself hp)

/-- **It is negative exactly toward an earlier date.** -/
theorem isNegative_iff_of_periodUntil (hp : a.periodUntil b = .ok p) :
    p.isNegative = true ↔ b < a := by
  have hc := chronology_eq_of_periodUntil hp
  rcases le_total hc with h | h
  · rw [lt_iff_epochDay_lt hc.symm]
    have horder := (le_iff_epochDay_le hc).mp h
    exact iff_of_false (pointsForward_of_le h hp).not_isNegative (Int.not_lt.mpr horder)
  · rw [(pointsBackward_of_ge h hp).isNegative_iff_of_negated, isZero_iff_of_periodUntil hp]
    refine ⟨?_, ?_⟩
    · intro hne
      exact ((le_iff hc.symm).mp h).resolve_right (Ne.symm hne)
    · rintro hlt rfl
      exact Int.lt_irrefl _ ((lt_iff_epochDay_lt rfl).mp hlt)

/-- A gap is refused exactly between dates of different chronologies. -/
theorem periodUntil_eq_error_iff {e : CalendarError} :
    a.periodUntil b = .error e ↔
      a.chronology ≠ b.chronology ∧ e = .chronologyMismatch a.chronology b.chronology := by
  by_cases hc : a.chronology = b.chronology
  · obtain ⟨p, hp⟩ := exists_periodUntil hc
    rw [hp]
    exact iff_of_false (fun h => by cases h) (fun h => h.1 hc)
  · rw [periodUntil_eq_mismatch hc]
    exact ⟨fun h => ⟨hc, (Except.error.inj h).symm⟩, fun h => h.2 ▸ rfl⟩

/-- **Gaps are in normal form.** Dates of different chronologies have no gap, and the refusal names
both; every other two dates have one. Its months are too few for a year, its days too few for the
longest month of the chronology, and no two of its parts are of opposite sign. It is zero exactly if
the dates are equal, and negative exactly if the second is earlier. -/
theorem periodUntil_normal (start finish : Date) :
    (∀ e, start.periodUntil finish = .error e ↔ start.chronology ≠ finish.chronology ∧
      e = .chronologyMismatch start.chronology finish.chronology) ∧
    (start.chronology = finish.chronology →
      ∃ p, start.periodUntil finish = .ok p ∧ p.chronology = start.chronology ∧ p.IsNormal ∧
        (p.isZero = true ↔ start = finish) ∧ (p.isNegative = true ↔ finish < start)) := by
  refine ⟨fun e => periodUntil_eq_error_iff, fun hc => ?_⟩
  obtain ⟨p, hp⟩ := exists_periodUntil hc
  exact ⟨p, hp, chronology_of_periodUntil hp, isNormal_of_periodUntil hp,
    isZero_iff_of_periodUntil hp, isNegative_iff_of_periodUntil hp⟩

/-- From the last of January to 1 March of a leap year, where the days are counted from a clamped
February; back again; and to a date of another chronology. -/
theorem periodUntil_normal_february :
    Chronology.iso = .iso ∧
      (∃ p, periodUntil ⟨⟨2024, 1, 31⟩, .iso, by decide⟩ ⟨⟨2024, 3, 1⟩, .iso, by decide⟩ = .ok p ∧
        p.IsNormal ∧ ¬p.isNegative = true) ∧
      (∃ p, periodUntil ⟨⟨2024, 3, 1⟩, .iso, by decide⟩ ⟨⟨2024, 1, 31⟩, .iso, by decide⟩ = .ok p ∧
        p.IsNormal ∧ p.isNegative = true) ∧
      periodUntil ⟨⟨2024, 1, 31⟩, .iso, by decide⟩ ⟨⟨2024, 1, 31⟩, .noLeap, by decide⟩ =
        .error (.chronologyMismatch .iso .noLeap) := by
  obtain ⟨-, hforward⟩ := periodUntil_normal
    ⟨⟨2024, 1, 31⟩, .iso, by decide⟩ ⟨⟨2024, 3, 1⟩, .iso, by decide⟩
  obtain ⟨-, hbackward⟩ := periodUntil_normal
    ⟨⟨2024, 3, 1⟩, .iso, by decide⟩ ⟨⟨2024, 1, 31⟩, .iso, by decide⟩
  obtain ⟨hmismatch, -⟩ := periodUntil_normal
    ⟨⟨2024, 1, 31⟩, .iso, by decide⟩ ⟨⟨2024, 1, 31⟩, .noLeap, by decide⟩
  obtain ⟨p, hp, -, hpn, -, hpneg⟩ := hforward rfl
  obtain ⟨q, hq, -, hqn, -, hqneg⟩ := hbackward rfl
  refine ⟨rfl, ⟨p, hp, hpn, ?_⟩, ⟨q, hq, hqn, ?_⟩, ?_⟩
  · rw [hpneg]
    decide
  · rw [hqneg]
    decide
  · rw [hmismatch]
    exact ⟨by decide, rfl⟩

end Date

end Calendrics
