import Calendrics.Proofs.WholeMonths

/-!
# Counting a move

A date is moved by an amount of a unit, and then the units to the date reached are counted. The
count is the amount again, with one exception. A move by months can move the day back. Going forward
the date reached is then short of the last month by some days, and that month is not counted; going
backward it lies beyond the last month, which is counted all the same.

* `monthsUntil_of_plusMonths` — **a month move counts its months**, less one where it went forward
  and moved the day back;
* `mul_sub_one_tdiv` — in a unit made of months, the one month that is missing leaves one unit
  incomplete, and only one;
* `unitsUntil_undoes_plus` — **counts undo moves** up to this one unit.
-/

namespace Calendrics

/-- Of so many runs that lack a single one of their parts, all runs but one are whole. -/
theorem mul_sub_one_tdiv {k n : Int} (hk : 1 ≤ k) (hn : 0 < n) :
    (k * n - 1).tdiv k = n - 1 := by
  have hk' : 0 < k := by omega
  have hprod : 0 < k * n := Int.mul_pos hk' hn
  rw [Int.tdiv_eq_ediv_of_nonneg (by omega), Int.ediv_eq_iff_of_pos hk', Int.sub_mul,
    Int.mul_comm n k]
  omega

namespace Date

variable {d d' : Date} {unit : TimeUnit} {k n : Int}

/-! ## Days -/

/-- A day move counts its days. -/
theorem daysUntil_of_plusDays (h : d.plusDays n = .ok d') : d.daysUntil d' = n := by
  obtain ⟨-, he⟩ := plusDays_eq_ok_iff.mp h
  rw [daysUntil, he]
  omega

/-- A move by a run of days counts its amount. -/
theorem unitsUntil_of_plus_days (hk : unit.stride = some (.days k)) (h : d.plus n unit = .ok d') :
    d.unitsUntil d' unit = .ok n := by
  have hk' := TimeUnit.one_le_of_days hk
  rw [plus_of_days hk] at h
  obtain ⟨hc, -⟩ := plusDays_eq_ok_iff.mp h
  rw [unitsUntil_of_days hc.symm hk, daysUntil_of_plusDays h, Int.mul_tdiv_cancel_left n (by omega)]

/-! ## Months -/

/-- **A month move counts its months**, less one where it went forward and moved the day back. -/
theorem monthsUntil_of_plusMonths (h : (d.plusMonths n).result = .ok d') :
    d.monthsUntil d' = if 0 < n ∧ d'.day ≠ d.day then n - 1 else n := by
  obtain ⟨-, hm, -⟩ := plusMonths_eq_ok_iff.mp h
  have hback := day_le_of_plusMonths h
  rw [monthsUntil_eq]
  by_cases hshort : 0 < n ∧ d'.day ≠ d.day
  · rw [if_pos (by omega), if_pos hshort]
    omega
  · -- going backward the days never point the other way
    rw [if_neg (by omega), if_neg (by omega), if_neg hshort]
    omega

/-- A move by a run of months counts its amount, less one where it went forward and moved the day
back. -/
theorem unitsUntil_of_plus_months (hk : unit.stride = some (.months k))
    (h : d.plus n unit = .ok d') :
    d.unitsUntil d' unit = .ok (if 0 < n ∧ d'.day ≠ d.day then n - 1 else n) := by
  have hk' := TimeUnit.one_le_of_months hk
  have hsign : 0 < k * n ↔ 0 < n := mul_pos_iff_of_pos_left (by omega)
  rw [plus_of_months hk] at h
  obtain ⟨hc, -, -⟩ := plusMonths_eq_ok_iff.mp h
  rw [unitsUntil_of_months hc.symm hk, monthsUntil_of_plusMonths h]
  simp only [hsign]
  by_cases hshort : 0 < n ∧ d'.day ≠ d.day
  · rw [if_pos hshort, if_pos hshort, mul_sub_one_tdiv hk' hshort.1]
  · rw [if_neg hshort, if_neg hshort, Int.mul_tdiv_cancel_left n (by omega)]

/-- A move by a run of months that ends on another day has recorded that it moved the day back. -/
theorem events_plusLogged_of_day_ne (hk : unit.stride = some (.months k))
    (h : d.plus n unit = .ok d') (hday : d'.day ≠ d.day) :
    (d.plusLogged n unit).events =
      [.clampedDay d'.chronology d'.year d'.month d.day d'.day] := by
  rw [plus_of_months hk] at h
  rw [plusLogged_of_months hk, events_plusMonths h, clampEvents_of_ne hday]

/-! ## Counts undo moves -/

/-- **Counts undo moves.** From a date to the one that a move by days or weeks leads to, as many days
or weeks are counted as it was moved by. In months and the units made of years this holds of moves
backward, of moves by nothing, and of moves that keep the day of the month; a move forward that ends
on another day has moved the day back, as its log says, and one unit less is counted. -/
theorem unitsUntil_undoes_plus (d d' : Date) (n : Int) (unit : TimeUnit)
    (h : d.plus n unit = .ok d') :
    (unit ∈ [TimeUnit.days, .weeks] → d.unitsUntil d' unit = .ok n) ∧
    (unit ∈ [TimeUnit.months, .years, .decades, .centuries, .millennia] →
      (n ≤ 0 ∨ d'.day = d.day → d.unitsUntil d' unit = .ok n) ∧
      (0 < n → d'.day ≠ d.day → d.unitsUntil d' unit = .ok (n - 1) ∧
        (d.plusLogged n unit).events =
          [.clampedDay d'.chronology d'.year d'.month d.day d'.day])) := by
  refine ⟨fun hu => ?_, fun hu => ?_⟩
  · obtain ⟨k, hk⟩ := TimeUnit.exists_days_of_mem hu
    exact unitsUntil_of_plus_days hk h
  · obtain ⟨k, hk⟩ := TimeUnit.exists_months_of_mem hu
    rw [unitsUntil_of_plus_months hk h]
    refine ⟨fun hkept => ?_, fun hn hday => ⟨?_, events_plusLogged_of_day_ne hk h hday⟩⟩
    · rw [if_neg (by omega)]
    · rw [if_pos ⟨hn, hday⟩]

/-- From a leap day a decade forward leads to the last of February, short of a whole decade; a
decade back leads to the last of February too, beyond a whole decade; and a week is a week. -/
theorem unitsUntil_undoes_plus_leapDay :
    (plus ⟨⟨2024, 2, 29⟩, .iso, by decide⟩ 1 .decades = .ok ⟨⟨2034, 2, 28⟩, .iso, by decide⟩ ∧
      unitsUntil ⟨⟨2024, 2, 29⟩, .iso, by decide⟩ ⟨⟨2034, 2, 28⟩, .iso, by decide⟩ .decades =
        .ok 0) ∧
    (plus ⟨⟨2024, 2, 29⟩, .iso, by decide⟩ (-1) .decades =
        .ok ⟨⟨2014, 2, 28⟩, .iso, by decide⟩ ∧
      unitsUntil ⟨⟨2024, 2, 29⟩, .iso, by decide⟩ ⟨⟨2014, 2, 28⟩, .iso, by decide⟩ .decades =
        .ok (-1)) ∧
    (plus ⟨⟨2024, 2, 29⟩, .iso, by decide⟩ 1 .weeks = .ok ⟨⟨2024, 3, 7⟩, .iso, by decide⟩ ∧
      unitsUntil ⟨⟨2024, 2, 29⟩, .iso, by decide⟩ ⟨⟨2024, 3, 7⟩, .iso, by decide⟩ .weeks =
        .ok 1) := by
  let leapDay : Date := ⟨⟨2024, 2, 29⟩, .iso, by decide⟩
  let later : Date := ⟨⟨2034, 2, 28⟩, .iso, by decide⟩
  let earlier : Date := ⟨⟨2014, 2, 28⟩, .iso, by decide⟩
  let march : Date := ⟨⟨2024, 3, 7⟩, .iso, by decide⟩
  obtain ⟨-, hforward⟩ := unitsUntil_undoes_plus leapDay later 1 .decades rfl
  obtain ⟨-, hback⟩ := unitsUntil_undoes_plus leapDay earlier (-1) .decades rfl
  obtain ⟨hweek, -⟩ := unitsUntil_undoes_plus leapDay march 1 .weeks rfl
  exact ⟨⟨rfl, ((hforward (by decide)).2 (by decide) (by decide)).1⟩,
    ⟨rfl, (hback (by decide)).1 (.inl (by decide))⟩, rfl, hweek (by decide)⟩

end Date

end Calendrics
