import Calendrics.Proofs.Brackets

/-!
# Moves keep the order

Of two dates of a chronology, moved by the same amount of a unit, the earlier one stays the earlier
one, and of two amounts the larger one leads further. For days this is plain, since the day numbers
move along. Months are less regular: a move back to the end of a short month lets several dates fall
together, and a later date may be moved back by more days than an earlier one. But it is moved back
to where the earlier one cannot be beyond, the last day of the same month.

* `plusDays_lt`, `plusDays_le`, `plusMonths_le` — **moves keep the order of dates**, and moves by
  days keep dates apart;
* `plusDays_lt_of_lt`, `plusMonths_lt_of_lt` — **larger amounts lead further**;
* `plusPeriod_le` — hence moving by a period, by months first and then by days, keeps the order too;
* `moves_monotone` — all of this for every unit but the era.

Eras are left out for a reason: the years before year one count backward, so moving two dates to the
other era turns their order round.
-/

namespace Calendrics.Date

variable {a b a' b' d r s : Date} {unit : TimeUnit} {p : Period} {m n : Int}

/-! ## Two dates, one amount -/

/-- **A day move keeps dates apart**, the earlier before the later. -/
theorem plusDays_lt (h : a < b) (ha : a.plusDays n = .ok a') (hb : b.plusDays n = .ok b') :
    a' < b' := by
  have hc := chronology_eq_of_le (le_of_lt h)
  obtain ⟨hac, hae⟩ := plusDays_eq_ok_iff.mp ha
  obtain ⟨hbc, hbe⟩ := plusDays_eq_ok_iff.mp hb
  rw [lt_iff_epochDay_lt hc] at h
  rw [lt_iff_epochDay_lt (hac.trans (hc.trans hbc.symm)), hae, hbe]
  exact Int.add_lt_add_right h n

/-- A day move keeps the order of dates. -/
theorem plusDays_le (h : a ≤ b) (ha : a.plusDays n = .ok a') (hb : b.plusDays n = .ok b') :
    a' ≤ b' := by
  rcases (le_iff (chronology_eq_of_le h)).mp h with hlt | rfl
  · exact le_of_lt (plusDays_lt hlt ha hb)
  · obtain rfl := Except.ok.inj (ha.symm.trans hb)
    exact (le_iff rfl).mpr (.inr rfl)

/-- **A month move keeps the order of dates**, though it may let them fall together. -/
theorem plusMonths_le (h : a ≤ b) (ha : (a.plusMonths n).result = .ok a')
    (hb : (b.plusMonths n).result = .ok b') : a' ≤ b' := by
  have hc := chronology_eq_of_le h
  obtain ⟨hac, ham, had⟩ := plusMonths_eq_ok_iff.mp ha
  obtain ⟨hbc, hbm, hbd⟩ := plusMonths_eq_ok_iff.mp hb
  have hc' : a'.chronology = b'.chronology := hac.trans (hc.trans hbc.symm)
  rw [le_iff_month_day hc']
  rcases (le_iff_month_day hc).mp h with hm | ⟨hm, hd⟩
  · exact .inl (by omega)
  · -- in one month there is one last day for both
    have hm' : a'.prolepticMonth = b'.prolepticMonth := by omega
    have hlast := lengthOfMonth_congr hc' hm'
    exact .inr ⟨hm', by omega⟩

/-- A move by any unit but the era keeps the order of dates. -/
theorem plus_le (hu : unit ≠ .eras) (h : a ≤ b) (ha : a.plus n unit = .ok a')
    (hb : b.plus n unit = .ok b') : a' ≤ b' := by
  rcases TimeUnit.stride_cases hu with ⟨k, hk⟩ | ⟨k, hk⟩
  · rw [plus_of_days hk] at ha hb
    exact plusDays_le h ha hb
  · rw [plus_of_months hk] at ha hb
    exact plusMonths_le h ha hb

/-- A move by days or weeks keeps dates apart. -/
theorem plus_lt (hu : unit ∈ [TimeUnit.days, .weeks]) (h : a < b) (ha : a.plus n unit = .ok a')
    (hb : b.plus n unit = .ok b') : a' < b' := by
  obtain ⟨k, hk⟩ := TimeUnit.exists_days_of_mem hu
  rw [plus_of_days hk] at ha hb
  exact plusDays_lt h ha hb

/-! ## One date, two amounts -/

/-- **More days lead further.** -/
theorem plusDays_lt_of_lt (h : m < n) (hr : d.plusDays m = .ok r) (hs : d.plusDays n = .ok s) :
    r < s := by
  obtain ⟨hrc, hre⟩ := plusDays_eq_ok_iff.mp hr
  obtain ⟨hsc, hse⟩ := plusDays_eq_ok_iff.mp hs
  rw [lt_iff_epochDay_lt (hrc.trans hsc.symm), hre, hse]
  exact Int.add_lt_add_left h _

/-- **More months lead further**, into a later month, whatever days they are moved back. -/
theorem plusMonths_lt_of_lt (h : m < n) (hr : (d.plusMonths m).result = .ok r)
    (hs : (d.plusMonths n).result = .ok s) : r < s := by
  obtain ⟨hrc, hrm, -⟩ := plusMonths_eq_ok_iff.mp hr
  obtain ⟨hsc, hsm, -⟩ := plusMonths_eq_ok_iff.mp hs
  rw [lt_iff_month_day (hrc.trans hsc.symm), hrm, hsm]
  exact .inl (Int.add_lt_add_left h _)

/-- A larger amount of any unit but the era leads further. -/
theorem plus_lt_of_lt (hu : unit ≠ .eras) (h : m < n) (hr : d.plus m unit = .ok r)
    (hs : d.plus n unit = .ok s) : r < s := by
  rcases TimeUnit.stride_cases hu with ⟨k, hk⟩ | ⟨k, hk⟩
  · rw [plus_of_days hk] at hr hs
    exact plusDays_lt_of_lt (Int.mul_lt_mul_of_pos_left h (TimeUnit.one_le_of_days hk)) hr hs
  · rw [plus_of_months hk] at hr hs
    exact plusMonths_lt_of_lt (Int.mul_lt_mul_of_pos_left h (TimeUnit.one_le_of_months hk)) hr hs

/-! ## Periods -/

/-- **Moving by a period keeps the order of dates**: its months do, and then its days. -/
theorem plusPeriod_le (h : a ≤ b) (ha : a.plusPeriod p = .ok a') (hb : b.plusPeriod p = .ok b') :
    a' ≤ b' := by
  obtain ⟨-, movedA, hmonthsA, hdaysA⟩ := plusPeriod_eq_ok_iff.mp ha
  obtain ⟨-, movedB, hmonthsB, hdaysB⟩ := plusPeriod_eq_ok_iff.mp hb
  exact plusDays_le (plusMonths_le h hmonthsA hmonthsB) hdaysA hdaysB

/-! ## All moves -/

/-- **Moves are monotone.** Two dates in order, moved by one amount of a unit other than the era,
are in order where both moves succeed, and remain apart if the unit is days or weeks. Of two amounts
the larger moves a date further. Two dates in order, moved by one period, are in order where both
moves succeed, whatever the period. -/
theorem moves_monotone :
    (∀ (a b a' b' : Date) (n : Int) (unit : TimeUnit), unit ≠ .eras → a ≤ b →
      a.plus n unit = .ok a' → b.plus n unit = .ok b' →
        a' ≤ b' ∧ (a < b → unit ∈ [TimeUnit.days, .weeks] → a' < b')) ∧
    (∀ (d r s : Date) (m n : Int) (unit : TimeUnit), unit ≠ .eras → m < n →
      d.plus m unit = .ok r → d.plus n unit = .ok s → r < s) ∧
    (∀ (a b a' b' : Date) (p : Period), a ≤ b →
      a.plusPeriod p = .ok a' → b.plusPeriod p = .ok b' → a' ≤ b') := by
  refine ⟨?_, ?_, ?_⟩
  · intro a b a' b' n unit hu h ha hb
    exact ⟨plus_le hu h ha hb, fun hlt hdays => plus_lt hdays hlt ha hb⟩
  · intro d r s m n unit hu h hr hs
    exact plus_lt_of_lt hu h hr hs
  · intro a b a' b' p h ha hb
    exact plusPeriod_le h ha hb

/-- The last two days of January, a month later: they fall together on the last of February, and a
period of one month and a day leads from both to the first of March. Two months lead further than
one, from the last of January as well. -/
theorem moves_monotone_february :
    (TimeUnit.months ≠ .eras ∧ (1 : Int) < 2 ∧
      (⟨⟨2023, 1, 30⟩, .iso, by decide⟩ : Date) ≤ ⟨⟨2023, 1, 31⟩, .iso, by decide⟩) ∧
    (plus ⟨⟨2023, 1, 30⟩, .iso, by decide⟩ 1 .months = .ok ⟨⟨2023, 2, 28⟩, .iso, by decide⟩ ∧
      plus ⟨⟨2023, 1, 31⟩, .iso, by decide⟩ 1 .months = .ok ⟨⟨2023, 2, 28⟩, .iso, by decide⟩ ∧
      (⟨⟨2023, 2, 28⟩, .iso, by decide⟩ : Date) ≤ ⟨⟨2023, 2, 28⟩, .iso, by decide⟩) ∧
    (plus ⟨⟨2023, 1, 30⟩, .iso, by decide⟩ 5 .weeks = .ok ⟨⟨2023, 3, 6⟩, .iso, by decide⟩ ∧
      plus ⟨⟨2023, 1, 31⟩, .iso, by decide⟩ 5 .weeks = .ok ⟨⟨2023, 3, 7⟩, .iso, by decide⟩ ∧
      (⟨⟨2023, 3, 6⟩, .iso, by decide⟩ : Date) < ⟨⟨2023, 3, 7⟩, .iso, by decide⟩) ∧
    (plus ⟨⟨2023, 1, 31⟩, .iso, by decide⟩ 2 .months = .ok ⟨⟨2023, 3, 31⟩, .iso, by decide⟩ ∧
      (⟨⟨2023, 2, 28⟩, .iso, by decide⟩ : Date) < ⟨⟨2023, 3, 31⟩, .iso, by decide⟩) ∧
    (plusPeriod ⟨⟨2023, 1, 30⟩, .iso, by decide⟩ ⟨.iso, 0, 1, 1⟩ =
        .ok ⟨⟨2023, 3, 1⟩, .iso, by decide⟩ ∧
      plusPeriod ⟨⟨2023, 1, 31⟩, .iso, by decide⟩ ⟨.iso, 0, 1, 1⟩ =
        .ok ⟨⟨2023, 3, 1⟩, .iso, by decide⟩ ∧
      (⟨⟨2023, 3, 1⟩, .iso, by decide⟩ : Date) ≤ ⟨⟨2023, 3, 1⟩, .iso, by decide⟩) := by
  let january : Date := ⟨⟨2023, 1, 31⟩, .iso, by decide⟩
  obtain ⟨hdates, hamounts, hperiods⟩ := moves_monotone
  have hle : (⟨⟨2023, 1, 30⟩, .iso, by decide⟩ : Date) ≤ ⟨⟨2023, 1, 31⟩, .iso, by decide⟩ := by
    decide
  exact ⟨⟨by decide, by decide, hle⟩,
    ⟨rfl, rfl, (hdates _ _ _ _ 1 .months (by decide) hle rfl rfl).1⟩,
    ⟨rfl, rfl, (hdates _ _ _ _ 5 .weeks (by decide) hle rfl rfl).2 (by decide) (by decide)⟩,
    ⟨rfl, hamounts january _ _ 1 2 .months (by decide) (by decide) rfl rfl⟩,
    rfl, rfl, hperiods _ _ _ _ ⟨.iso, 0, 1, 1⟩ hle rfl rfl⟩

end Calendrics.Date
