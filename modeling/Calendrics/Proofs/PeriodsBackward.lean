import Calendrics.Proofs.Periods

/-!
# Measuring a gap backward

The gap to an earlier date has months and days that point back. The date that the months lead to
can be a day that was moved back to the end of its month, and the days of the gap do not take this
into account: they are counted as if that month had the day of the start.

* `exists_measuresBackward` — **backward, the days are counted from the day of the start in the
  month that the months lead to**, whether that month has it or not;
* `plusPeriod_periodUntil_backward` — hence moving by the gap goes past the end by as many days as
  the month move took back, and by none if it took back none.
-/

namespace Calendrics

namespace Chronology

variable {c : Chronology}

/-- No month is longer than January. -/
theorem longestMonth_le_january (c : Chronology) {m : Int} (h₁ : 1 ≤ m) (h₂ : m ≤ 12) :
    c.longestMonth m ≤ c.monthLength firstMonth := by
  rcases month_cases h₁ h₂ with rfl | rfl | rfl | rfl | rfl | rfl | rfl | rfl | rfl | rfl | rfl |
    rfl <;> cases c <;> decide

end Chronology

namespace Date

variable {a b moved : Date}

/-! ## The days that a month move takes back -/

/-- The first supported month, a January, has the day of every date. -/
theorem day_le_firstMonth (d : Date) : d.day ≤ d.chronology.monthLength Chronology.firstMonth := by
  obtain ⟨-, -, hm₁, hm₂, -, hd⟩ := d.isDate
  calc d.day ≤ d.chronology.lengthOfMonth d.year d.month := hd
    _ ≤ d.chronology.longestMonth d.month := d.chronology.lengthOfMonth_le_longestMonth _ hm₁ hm₂
    _ ≤ d.chronology.monthLength Chronology.firstMonth :=
      d.chronology.longestMonth_le_january hm₁ hm₂

/-- A month move into the first supported month takes no day back. -/
theorem day_eq_of_plusMonths_firstMonth {n : Int} (h : (a.plusMonths n).result = .ok moved)
    (hfirst : moved.prolepticMonth = Chronology.firstMonth) : moved.day = a.day := by
  obtain ⟨hc, -, hday⟩ := plusMonths_eq_ok_iff.mp h
  have hlong := a.day_le_firstMonth
  rw [lengthOfMonth_eq, hc, hfirst] at hday
  omega

/-- A month move takes back at most the difference between the longest and the shortest month. -/
theorem day_sub_le_of_plusMonths {n : Int} (h : (a.plusMonths n).result = .ok moved) :
    moved.day ≤ a.day ∧ a.day - moved.day ≤ 3 := by
  obtain ⟨hc, -, hday⟩ := plusMonths_eq_ok_iff.mp h
  have hlast := a.day_le_monthLength
  have hlong := a.chronology.monthLength_bounds a.prolepticMonth
  have hshort := moved.chronology.monthLength_bounds moved.prolepticMonth
  rw [lengthOfMonth_eq] at hday
  omega

/-! ## The two ways to split a gap backward -/

/-- A period measures a gap backward, and its months lead to a date. -/
structure MeasuresBackward (start finish : Date) (p : Period) (moved : Date) : Prop where
  /-- the period is the gap -/
  periodUntil_eq : start.periodUntil finish = .ok p
  /-- it belongs to the chronology of the start -/
  chronology_eq : p.chronology = start.chronology
  /-- its months lead to the date -/
  plusMonths_eq : (start.plusMonths p.totalMonths).result = .ok moved
  /-- its days are counted from the day of the start in the month of that date, and so lead past the
  end by the days that the month move took back -/
  add_days : moved.epochDay + p.days = finish.epochDay - (start.day - moved.day)
  /-- they lead to a supported day -/
  supported : finish.epochDay - (start.day - moved.day) ∈ start.chronology.epochDayRange

/-- If a gap is split so that the days are counted from the day of the start in the month that the
months lead to, it is a period, and measures the gap. -/
theorem measuresBackward_of_split {months days : Int}
    (hsplit : a.periodUntil b = Period.ofMonthsDays a.chronology months days)
    (hnarrow : days ∈ Amount.narrowRange) (hmoved : (a.plusMonths months).result = .ok moved)
    (hdays : moved.epochDay + days = b.epochDay - (a.day - moved.day))
    (hmem : b.epochDay - (a.day - moved.day) ∈ a.chronology.epochDayRange) :
    ∃ p, MeasuresBackward a b p moved := by
  obtain ⟨p, hp, hpc, rfl, rfl⟩ := Period.exists_ofMonthsDays a.chronology months hnarrow
  exact ⟨p, hsplit.trans hp, hpc, hmoved, hdays, hmem⟩

/-- Where a month is taken back going backward, the other months lead into the month after that
of the end. The end is late in its month, so that the days taken back do not lead out of it. -/
theorem measuresBackward_of_borrow (hc : a.chronology = b.chronology)
    (hm : b.prolepticMonth < a.prolepticMonth) (hd : a.day < b.day) :
    ∃ p moved, MeasuresBackward a b p moved := by
  have ha := a.prolepticMonth_le_lastMonth
  have hb := b.firstMonth_le_prolepticMonth
  have hlast := b.day_le_monthLength
  have hfirst := a.isDate.one_le_day
  obtain ⟨moved, hmoved⟩ := a.exists_plusMonths (n := b.prolepticMonth - a.prolepticMonth + 1)
    (by omega) (by omega)
  obtain ⟨hmc, hmm, -⟩ := plusMonths_eq_ok_iff.mp hmoved
  have hnext : moved.prolepticMonth = b.prolepticMonth + 1 := by omega
  have hnarrow : b.day - a.day - b.lengthOfMonth ∈ Amount.narrowRange := by
    have hlength := b.chronology.monthLength_bounds b.prolepticMonth
    rw [Amount.mem_narrowRange, lengthOfMonth_eq]
    omega
  have hdays : moved.epochDay + (b.day - a.day - b.lengthOfMonth) =
      b.epochDay - (a.day - moved.day) := by
    rw [epochDay_eq, epochDay_eq, lengthOfMonth_eq, hnext, hmc, hc, Chronology.monthStart_succ]
    omega
  -- the end is further into its month than the days that are taken back
  have hmem : b.epochDay - (a.day - moved.day) ∈ a.chronology.epochDayRange := by
    obtain ⟨hback, -⟩ := day_sub_le_of_plusMonths hmoved
    have hstart := b.chronology.tiles_months.start_mono hb
    have hend := b.epochDay_mem_epochDayRange.2
    have hday := moved.isDate.one_le_day
    rw [hc, ValueRange.mem_iff, Chronology.epochDayRange_min]
    rw [epochDay_eq] at hend ⊢
    omega
  have hsplit : a.periodUntil b = Period.ofMonthsDays a.chronology
      (b.prolepticMonth - a.prolepticMonth + 1) (b.day - a.day - b.lengthOfMonth) := by
    rw [periodUntil_eq hc, if_neg (by omega), if_pos ⟨by omega, by omega⟩]
  obtain ⟨p, hp⟩ := measuresBackward_of_split hsplit hnarrow hmoved hdays hmem
  exact ⟨p, moved, hp⟩

/-- Where no month is taken back going backward, the months lead into the month of the end. Only
in the first supported month could the days taken back lead out of the supported years, and there
none are. -/
theorem measuresBackward_of_day_le (hc : a.chronology = b.chronology)
    (hm : b.prolepticMonth ≤ a.prolepticMonth) (hd : b.day ≤ a.day) :
    ∃ p moved, MeasuresBackward a b p moved := by
  have ha := a.prolepticMonth_le_lastMonth
  have hb := b.firstMonth_le_prolepticMonth
  obtain ⟨moved, hmoved⟩ := a.exists_plusMonths (n := b.prolepticMonth - a.prolepticMonth)
    (by omega) (by omega)
  obtain ⟨hmc, hmm, -⟩ := plusMonths_eq_ok_iff.mp hmoved
  have hsame : moved.prolepticMonth = b.prolepticMonth := by omega
  have hnarrow : b.day - a.day ∈ Amount.narrowRange := by
    have hlast := a.day_le_monthLength
    have hlength := a.chronology.monthLength_bounds a.prolepticMonth
    have hfirst := b.isDate.one_le_day
    rw [Amount.mem_narrowRange]
    omega
  have hdays : moved.epochDay + (b.day - a.day) = b.epochDay - (a.day - moved.day) := by
    rw [epochDay_eq, epochDay_eq, hsame, hmc, hc]
    omega
  have hmem : b.epochDay - (a.day - moved.day) ∈ a.chronology.epochDayRange := by
    have hend := b.epochDay_mem_epochDayRange
    rw [hc]
    rcases Int.lt_or_eq_of_le hb with hlater | hearliest
    · -- a whole January lies between the first supported day and the month of the end
      obtain ⟨hback, hshort⟩ := day_sub_le_of_plusMonths hmoved
      have hstart := b.chronology.tiles_months.start_add_length_le hlater
      have hjanuary := b.chronology.monthLength_bounds Chronology.firstMonth
      have hfirst := b.isDate.one_le_day
      rw [ValueRange.mem_iff, Chronology.epochDayRange_min] at hend ⊢
      rw [epochDay_eq] at hend ⊢
      omega
    · have hday := day_eq_of_plusMonths_firstMonth hmoved (hsame.trans hearliest.symm)
      rw [hday, Int.sub_self, Int.sub_zero]
      exact hend
  have hsplit : a.periodUntil b = Period.ofMonthsDays a.chronology
      (b.prolepticMonth - a.prolepticMonth) (b.day - a.day) := by
    rw [periodUntil_eq hc, if_neg (by omega), if_neg (by omega)]
  obtain ⟨p, hp⟩ := measuresBackward_of_split hsplit hnarrow hmoved hdays hmem
  exact ⟨p, moved, hp⟩

/-- **Backward, the days are counted from the day of the start in the month that the months lead
to**, and lead to a supported day even if that month is too short for it. -/
theorem exists_measuresBackward (h : b ≤ a) : ∃ p moved, MeasuresBackward a b p moved := by
  have hc := chronology_eq_of_le h
  rcases (le_iff_month_day hc).mp h with hm | ⟨hm, hd⟩
  · by_cases hd : a.day < b.day
    · exact measuresBackward_of_borrow hc.symm hm hd
    · exact measuresBackward_of_day_le hc.symm (Int.le_of_lt hm) (Int.not_lt.mp hd)
  · exact measuresBackward_of_day_le hc.symm (Int.le_of_eq hm) hd

/-- **Moving by the gap backward goes past the end by the days that the month move takes back**:
between a date and an earlier one there is a period, and moving the first date by it gives a date
that is earlier than the second by as many days as the month that the months lead to is too short
for the day of the first. It is the second date exactly if the month move takes no day back, which
is to say if it records nothing. -/
theorem plusPeriod_periodUntil_backward (start finish : Date) (h : finish < start) :
    ∃ p reached, start.periodUntil finish = .ok p ∧ start.plusPeriod p = .ok reached ∧
      reached.chronology = finish.chronology ∧
      reached.epochDay = finish.epochDay -
        max 0 (start.day - start.chronology.monthLength (start.prolepticMonth + p.totalMonths)) ∧
      (reached = finish ↔ (start.plusMonths p.totalMonths).events = []) := by
  obtain ⟨p, moved, hp⟩ := exists_measuresBackward (le_of_lt h)
  have hc := chronology_eq_of_le (le_of_lt h)
  obtain ⟨hmc, hmm, hday⟩ := plusMonths_eq_ok_iff.mp hp.plusMonths_eq
  have hmem : moved.epochDay + p.days ∈ moved.chronology.epochDayRange := by
    rw [hp.add_days, hmc]
    exact hp.supported
  obtain ⟨reached, hreached⟩ := exists_plusDays hmem
  obtain ⟨hrc, hre⟩ := plusDays_eq_ok_iff.mp hreached
  have hrf : reached.chronology = finish.chronology := hrc.trans (hmc.trans hc.symm)
  have hpast : reached.epochDay = finish.epochDay - (start.day - moved.day) :=
    hre.trans hp.add_days
  refine ⟨p, reached, hp.periodUntil_eq,
    plusPeriod_eq_ok_iff.mpr ⟨hp.chronology_eq.symm, moved, hp.plusMonths_eq, hreached⟩, hrf,
    ?_, ?_⟩
  · rw [lengthOfMonth_eq, hmc, hmm] at hday
    omega
  · rw [events_plusMonths hp.plusMonths_eq, clampEvents_eq_nil_iff]
    refine ⟨?_, fun hsame => epochDay_inj hrf (by omega)⟩
    rintro rfl
    omega

/-- From the last of March in a leap year back to 1 February of a common year: the months lead to
the end of that February, three days short of the day of the start, and moving by the gap ends on
29 January. -/
theorem plusPeriod_periodUntil_backward_february :
    (⟨⟨2023, 2, 1⟩, .iso, by decide⟩ : Date) < ⟨⟨2024, 3, 31⟩, .iso, by decide⟩ ∧
      ∃ p reached,
        periodUntil ⟨⟨2024, 3, 31⟩, .iso, by decide⟩ ⟨⟨2023, 2, 1⟩, .iso, by decide⟩ = .ok p ∧
        plusPeriod ⟨⟨2024, 3, 31⟩, .iso, by decide⟩ p = .ok reached ∧
        reached.epochDay = 19389 - max 0 (31 - 28) := by
  have hlt : (⟨⟨2023, 2, 1⟩, .iso, by decide⟩ : Date) < ⟨⟨2024, 3, 31⟩, .iso, by decide⟩ := by
    decide
  obtain ⟨p, reached, hp, hmove, -, hday, -⟩ := plusPeriod_periodUntil_backward
    ⟨⟨2024, 3, 31⟩, .iso, by decide⟩ ⟨⟨2023, 2, 1⟩, .iso, by decide⟩ hlt
  refine ⟨hlt, p, reached, hp, hmove, ?_⟩
  obtain rfl : ⟨.iso, -1, -1, -30⟩ = p := Except.ok.inj hp
  exact hday

end Date

end Calendrics
