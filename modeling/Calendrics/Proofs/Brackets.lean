import Calendrics.Proofs.WholeMonths

/-!
# Counts bracket the end

A count of a unit from one date to another says how often the start can be moved by the unit
without passing the other date. Counting looks at the numbers of days, of months and of days of the
month and never at the lengths of months, while a move by months stops at the end of a month that is
too short. They fit together all the same:

* `BracketsForward`, `BracketsBackward` — what it is for a number to bracket the end, for any way to
  move a date by a number;
* `le_monthsUntil_iff`, `monthsUntil_le_iff` — how many months are whole, seen from the month they
  lead to, as a month move sees it;
* `bracketsForward_months`, `bracketsBackward_months` — **whole months bracket the end**, and
  `bracketsForward_days`, `bracketsBackward_days` — days do;
* `BracketsForward.multiple`, `BracketsBackward.multiple` — a quotient of a number that brackets the
  end brackets it for moves by a multiple;
* `unitsUntil_brackets` — hence **a count brackets the end**, for every unit but the era and in both
  directions.
-/

namespace Calendrics.Date

variable {a b r start finish : Date} {move : Int → Logged Date} {unit : TimeUnit} {j k n : Int}

/-! ## What it is to bracket the end -/

/-- A number brackets the end going forward: moves by no more do not pass it, and moves by more do
not stop before it, or overflow. They may stop at it, but then only because the day was moved back,
as the log says. -/
structure BracketsForward (start finish : Date) (move : Int → Logged Date) (n : Int) : Prop where
  /-- the number counts forward -/
  nonneg : 0 ≤ n
  /-- moves by no more do not pass the end -/
  reaches : ∀ j, 0 ≤ j → j ≤ n → ∃ r, (move j).result = .ok r ∧ r ≤ finish
  /-- moves by more do not stop before it -/
  passes : ∀ j, n < j → (move j).result = .error .arithmeticOverflow ∨
    ∃ r, (move j).result = .ok r ∧ finish ≤ r ∧ (r = finish → (move j).events =
      [.clampedDay finish.chronology finish.year finish.month start.day finish.day])

/-- A number brackets the end going backward: moves by no more do not pass it, and moves by more
do, or overflow. -/
structure BracketsBackward (finish : Date) (move : Int → Logged Date) (n : Int) : Prop where
  /-- the number counts backward -/
  nonpos : n ≤ 0
  /-- moves by no more do not pass the end -/
  reaches : ∀ j, n ≤ j → j ≤ 0 → ∃ r, (move j).result = .ok r ∧ finish ≤ r
  /-- moves by more do -/
  passes : ∀ j, j < n → (move j).result = .error .arithmeticOverflow ∨
    ∃ r, (move j).result = .ok r ∧ r < finish

/-- **For moves by a multiple, the quotient brackets the end.** -/
theorem BracketsForward.multiple (h : BracketsForward start finish move n) (hk : 1 ≤ k) :
    BracketsForward start finish (fun j => move (k * j)) (n.tdiv k) := by
  have hpos : 0 ≤ k := Int.le_trans (by decide) hk
  obtain ⟨hn, hle, hlt⟩ := tdiv_bracket_of_nonneg h.nonneg hk
  refine ⟨hn, fun j hj₀ hj => ?_, fun j hj => ?_⟩
  · have hprod : k * j ≤ k * n.tdiv k := Int.mul_le_mul_of_nonneg_left hj hpos
    exact h.reaches (k * j) (Int.mul_nonneg hpos hj₀) (Int.le_trans hprod hle)
  · have hprod : k * (n.tdiv k + 1) ≤ k * j := Int.mul_le_mul_of_nonneg_left hj hpos
    exact h.passes (k * j) (Int.lt_of_lt_of_le hlt hprod)

/-- The same going backward. -/
theorem BracketsBackward.multiple (h : BracketsBackward finish move n) (hk : 1 ≤ k) :
    BracketsBackward finish (fun j => move (k * j)) (n.tdiv k) := by
  have hpos : 0 ≤ k := Int.le_trans (by decide) hk
  obtain ⟨hn, hle, hlt⟩ := tdiv_bracket_of_nonpos h.nonpos hk
  refine ⟨hn, fun j hj hj₀ => ?_, fun j hj => ?_⟩
  · have hprod : k * n.tdiv k ≤ k * j := Int.mul_le_mul_of_nonneg_left hj hpos
    exact h.reaches (k * j) (Int.le_trans hle hprod) (Int.mul_nonpos_of_nonneg_of_nonpos hpos hj₀)
  · have hprod : k * j ≤ k * (n.tdiv k - 1) :=
      Int.mul_le_mul_of_nonneg_left (Int.le_sub_one_of_lt hj) hpos
    exact h.passes (k * j) (Int.lt_of_le_of_lt hprod hlt)

/-! ## Days -/

/-- A day move gives a date or is an overflow. -/
theorem plusDays_outcome (d : Date) (n : Int) :
    d.plusDays n = .error .arithmeticOverflow ∨ ∃ r, d.plusDays n = .ok r := by
  by_cases h : d.epochDay + n ∈ d.chronology.epochDayRange
  · exact .inr (exists_plusDays h)
  · exact .inl (plusDays_eq_overflow h)

/-- The days between bracket the end going forward: one more leads past it. -/
theorem bracketsForward_days (h : start ≤ finish) :
    BracketsForward start finish (fun j => .ofExcept (start.plusDays j))
      (start.daysUntil finish) := by
  have hc := chronology_eq_of_le h
  have horder := (le_iff_epochDay_le hc).mp h
  refine ⟨Int.sub_nonneg_of_le horder, fun j hj₀ hj => ?_, fun j hj => ?_⟩
  · rw [daysUntil] at hj
    have hmem : start.epochDay + j ∈ start.chronology.epochDayRange := by
      have hs := start.epochDay_mem_epochDayRange.1
      have hf := finish.epochDay_mem_epochDayRange.2
      rw [← hc] at hf
      rw [ValueRange.mem_iff]
      omega
    obtain ⟨r, hr⟩ := exists_plusDays hmem
    obtain ⟨hrc, hre⟩ := plusDays_eq_ok_iff.mp hr
    exact ⟨r, hr, (le_iff_epochDay_le (hrc.trans hc)).mpr (by omega)⟩
  · rw [daysUntil] at hj
    refine (plusDays_outcome start j).imp_right ?_
    rintro ⟨r, hr⟩
    obtain ⟨hrc, hre⟩ := plusDays_eq_ok_iff.mp hr
    refine ⟨r, hr, (le_iff_epochDay_le (hrc.trans hc).symm).mpr (by omega), ?_⟩
    rintro rfl
    omega

/-- The days between bracket the end going backward. -/
theorem bracketsBackward_days (h : finish ≤ start) :
    BracketsBackward finish (fun j => .ofExcept (start.plusDays j)) (start.daysUntil finish) := by
  have hc := chronology_eq_of_le h
  have horder := (le_iff_epochDay_le hc).mp h
  refine ⟨Int.sub_nonpos_of_le horder, fun j hj hj₀ => ?_, fun j hj => ?_⟩
  · rw [daysUntil] at hj
    have hmem : start.epochDay + j ∈ start.chronology.epochDayRange := by
      have hs := start.epochDay_mem_epochDayRange.2
      have hf := finish.epochDay_mem_epochDayRange.1
      rw [hc] at hf
      rw [ValueRange.mem_iff]
      omega
    obtain ⟨r, hr⟩ := exists_plusDays hmem
    obtain ⟨hrc, hre⟩ := plusDays_eq_ok_iff.mp hr
    exact ⟨r, hr, (le_iff_epochDay_le (hc.trans hrc.symm)).mpr (by omega)⟩
  · rw [daysUntil] at hj
    refine (plusDays_outcome start j).imp_right ?_
    rintro ⟨r, hr⟩
    obtain ⟨hrc, hre⟩ := plusDays_eq_ok_iff.mp hr
    exact ⟨r, hr, (lt_iff_epochDay_lt (hrc.trans hc.symm)).mpr (by omega)⟩

/-! ## Month moves beside the whole months -/

/-- **Forward, so many months are whole if the day of the start in the month they lead to is no
later than the end**, whether that month has the day or not. -/
theorem le_monthsUntil_iff (h : a ≤ b) :
    j ≤ a.monthsUntil b ↔ a.prolepticMonth + j < b.prolepticMonth ∨
      a.prolepticMonth + j = b.prolepticMonth ∧ a.day ≤ b.day := by
  have horder := (le_iff_month_day (chronology_eq_of_le h)).mp h
  rw [monthsUntil_eq]
  split
  · omega
  · split <;> omega

/-- **Backward, they are if it is no earlier.** -/
theorem monthsUntil_le_iff (h : b ≤ a) :
    a.monthsUntil b ≤ j ↔ b.prolepticMonth < a.prolepticMonth + j ∨
      b.prolepticMonth = a.prolepticMonth + j ∧ b.day ≤ a.day := by
  have horder := (le_iff_month_day (chronology_eq_of_le h)).mp h
  rw [monthsUntil_eq]
  split
  · omega
  · split <;> omega

/-- Forward, a move by no more than the whole months does not pass the end. -/
theorem le_of_plusMonths (h : a ≤ b) (hr : (a.plusMonths j).result = .ok r)
    (hj : j ≤ a.monthsUntil b) : r ≤ b := by
  obtain ⟨hrc, hrm, -⟩ := plusMonths_eq_ok_iff.mp hr
  have hday := day_le_of_plusMonths hr
  rw [le_iff_month_day (hrc.trans (chronology_eq_of_le h)), hrm]
  rcases (le_monthsUntil_iff h).mp hj with hm | ⟨hm, hd⟩
  · exact .inl hm
  · exact .inr ⟨hm, Int.le_trans hday hd⟩

/-- Forward, a move by more than the whole months does not stop before the end; and it stops at
the end only on a day that was moved back. -/
theorem le_of_monthsUntil_lt (h : a ≤ b) (hr : (a.plusMonths j).result = .ok r)
    (hj : a.monthsUntil b < j) : b ≤ r ∧ (r = b → r.day ≠ a.day) := by
  obtain ⟨hrc, hrm, hrd⟩ := plusMonths_eq_ok_iff.mp hr
  have hbr : b.chronology = r.chronology := (hrc.trans (chronology_eq_of_le h)).symm
  have hmore := mt (le_monthsUntil_iff h).mpr (Int.not_le.mpr hj)
  refine ⟨(le_iff_month_day hbr).mpr ?_, ?_⟩
  · rcases Int.lt_trichotomy b.prolepticMonth r.prolepticMonth with hm | hm | hm
    · exact .inl hm
    · -- the day of the start is kept as far as the month of the end has it, and the end is in it
      have hlast : b.day ≤ r.lengthOfMonth := lengthOfMonth_congr hbr hm ▸ b.isDate.day_le
      exact .inr ⟨hm, by omega⟩
    · omega
  · rintro rfl
    omega

/-- Backward, a move by no more than the whole months does not pass the end. -/
theorem ge_of_plusMonths (h : b ≤ a) (hr : (a.plusMonths j).result = .ok r)
    (hj : a.monthsUntil b ≤ j) : b ≤ r := by
  obtain ⟨hrc, hrm, hrd⟩ := plusMonths_eq_ok_iff.mp hr
  have hbr : b.chronology = r.chronology := (chronology_eq_of_le h).trans hrc.symm
  rw [le_iff_month_day hbr]
  rcases (monthsUntil_le_iff h).mp hj with hm | ⟨hm, hd⟩
  · exact .inl (by omega)
  · have hsame : b.prolepticMonth = r.prolepticMonth := hm.trans hrm.symm
    have hlast : b.day ≤ r.lengthOfMonth := lengthOfMonth_congr hbr hsame ▸ b.isDate.day_le
    exact .inr ⟨hsame, by omega⟩

/-- Backward, a move by more than the whole months stops before the end. -/
theorem lt_of_lt_monthsUntil (h : b ≤ a) (hr : (a.plusMonths j).result = .ok r)
    (hj : j < a.monthsUntil b) : r < b := by
  obtain ⟨hrc, hrm, -⟩ := plusMonths_eq_ok_iff.mp hr
  have hday := day_le_of_plusMonths hr
  have hmore := mt (monthsUntil_le_iff h).mpr (Int.not_le.mpr hj)
  rw [lt_iff_month_day (hrc.trans (chronology_eq_of_le h).symm)]
  omega

/-- Forward, whole months are counted from zero and lead no further than the month of the end. -/
theorem monthsUntil_bounds_of_le (h : a ≤ b) :
    0 ≤ a.monthsUntil b ∧ a.prolepticMonth + a.monthsUntil b ≤ b.prolepticMonth := by
  refine ⟨(le_monthsUntil_iff h).mpr ?_, ?_⟩
  · rw [Int.add_zero]
    exact (le_iff_month_day (chronology_eq_of_le h)).mp h
  · rcases (le_monthsUntil_iff h).mp (Int.le_refl _) with hm | ⟨hm, -⟩
    · exact Int.le_of_lt hm
    · exact Int.le_of_eq hm

/-- Backward, they are counted down from zero and lead no further either. -/
theorem monthsUntil_bounds_of_ge (h : b ≤ a) :
    a.monthsUntil b ≤ 0 ∧ b.prolepticMonth ≤ a.prolepticMonth + a.monthsUntil b := by
  refine ⟨(monthsUntil_le_iff h).mpr ?_, ?_⟩
  · rw [Int.add_zero]
    exact (le_iff_month_day (chronology_eq_of_le h)).mp h
  · rcases (monthsUntil_le_iff h).mp (Int.le_refl _) with hm | ⟨hm, -⟩
    · exact Int.le_of_lt hm
    · exact Int.le_of_eq hm

/-- A month move gives a date or is an overflow. -/
theorem plusMonths_outcome (d : Date) (n : Int) :
    (d.plusMonths n).result = .error .arithmeticOverflow ∨
      ∃ r, (d.plusMonths n).result = .ok r := by
  by_cases h : Chronology.firstMonth ≤ d.prolepticMonth + n ∧
      d.prolepticMonth + n ≤ Chronology.lastMonth
  · exact .inr (d.exists_plusMonths h.1 h.2)
  · rw [plusMonths_eq_overflow h]
    exact .inl rfl

/-- **Whole months bracket the end going forward.** -/
theorem bracketsForward_months (h : start ≤ finish) :
    BracketsForward start finish start.plusMonths (start.monthsUntil finish) := by
  obtain ⟨hn, hmonths⟩ := monthsUntil_bounds_of_le h
  refine ⟨hn, fun j hj₀ hj => ?_, fun j hj => ?_⟩
  · have hs := start.firstMonth_le_prolepticMonth
    have hf := finish.prolepticMonth_le_lastMonth
    obtain ⟨r, hr⟩ := start.exists_plusMonths (n := j) (by omega) (by omega)
    exact ⟨r, hr, le_of_plusMonths h hr hj⟩
  · refine (plusMonths_outcome start j).imp_right ?_
    rintro ⟨r, hr⟩
    obtain ⟨hle, hclamped⟩ := le_of_monthsUntil_lt h hr hj
    refine ⟨r, hr, hle, ?_⟩
    rintro rfl
    rw [events_plusMonths hr, clampEvents_of_ne (hclamped rfl)]

/-- **Whole months bracket the end going backward.** -/
theorem bracketsBackward_months (h : finish ≤ start) :
    BracketsBackward finish start.plusMonths (start.monthsUntil finish) := by
  obtain ⟨hn, hmonths⟩ := monthsUntil_bounds_of_ge h
  refine ⟨hn, fun j hj hj₀ => ?_, fun j hj => ?_⟩
  · have hs := start.prolepticMonth_le_lastMonth
    have hf := finish.firstMonth_le_prolepticMonth
    obtain ⟨r, hr⟩ := start.exists_plusMonths (n := j) (by omega) (by omega)
    exact ⟨r, hr, ge_of_plusMonths h hr hj⟩
  · refine (plusMonths_outcome start j).imp_right ?_
    rintro ⟨r, hr⟩
    exact ⟨r, hr, lt_of_lt_monthsUntil h hr hj⟩

/-! ## Counts of a unit -/

/-- A count of a unit brackets the end for moves by the unit. -/
theorem exists_brackets (hc : start.chronology = finish.chronology) (hu : unit ≠ .eras) :
    ∃ n, start.unitsUntil finish unit = .ok n ∧
      (start ≤ finish → BracketsForward start finish (start.plusLogged · unit) n) ∧
      (finish ≤ start → BracketsBackward finish (start.plusLogged · unit) n) := by
  rcases TimeUnit.stride_cases hu with ⟨k, hk⟩ | ⟨k, hk⟩
  · have hmove : (start.plusLogged · unit) = fun j => .ofExcept (start.plusDays (k * j)) :=
      funext fun j => plusLogged_of_days hk
    rw [hmove]
    exact ⟨_, unitsUntil_of_days hc hk,
      fun h => (bracketsForward_days h).multiple (TimeUnit.one_le_of_days hk),
      fun h => (bracketsBackward_days h).multiple (TimeUnit.one_le_of_days hk)⟩
  · have hmove : (start.plusLogged · unit) = fun j => start.plusMonths (k * j) :=
      funext fun j => plusLogged_of_months hk
    rw [hmove]
    exact ⟨_, unitsUntil_of_months hc hk,
      fun h => (bracketsForward_months h).multiple (TimeUnit.one_le_of_months hk),
      fun h => (bracketsBackward_months h).multiple (TimeUnit.one_le_of_months hk)⟩

/-- **A count brackets the end.** Between two dates of one chronology there is a count of every
unit but the era. Forward it is not negative, so many moves by the unit succeed and do not pass the
end, and one more overflows or does not stop before the end; it stops at the end only where it moved
the day back to the end of the month. Backward it is not positive, so many moves succeed and do not
pass the end, and one more overflows or does pass it. -/
theorem unitsUntil_brackets (start finish : Date) (unit : TimeUnit)
    (hc : start.chronology = finish.chronology) (hu : unit ≠ .eras) :
    ∃ n, start.unitsUntil finish unit = .ok n ∧
      (start ≤ finish →
        0 ≤ n ∧ (∃ r, start.plus n unit = .ok r ∧ r ≤ finish) ∧
        (start.plus (n + 1) unit = .error .arithmeticOverflow ∨
          ∃ r, start.plus (n + 1) unit = .ok r ∧ finish ≤ r ∧
            (r = finish → (start.plusLogged (n + 1) unit).events =
              [.clampedDay finish.chronology finish.year finish.month start.day finish.day]))) ∧
      (finish ≤ start →
        n ≤ 0 ∧ (∃ r, start.plus n unit = .ok r ∧ finish ≤ r) ∧
        (start.plus (n - 1) unit = .error .arithmeticOverflow ∨
          ∃ r, start.plus (n - 1) unit = .ok r ∧ r < finish)) := by
  obtain ⟨n, hn, hforward, hbackward⟩ := exists_brackets hc hu
  refine ⟨n, hn, fun h => ?_, fun h => ?_⟩
  · obtain ⟨hnonneg, hreaches, hpasses⟩ := hforward h
    exact ⟨hnonneg, hreaches n hnonneg (Int.le_refl n), hpasses (n + 1) (Int.lt_succ n)⟩
  · obtain ⟨hnonpos, hreaches, hpasses⟩ := hbackward h
    have hlt : n - 1 < n := Int.sub_one_lt_of_le (Int.le_refl n)
    exact ⟨hnonpos, hreaches n (Int.le_refl n) hnonpos, hpasses (n - 1) hlt⟩

/-- From the last of January to the last of February no month is whole: one month more stops at the
end, and only because there the day is moved back. From the last of February back to the last of
January no month is whole either, and one month more passes the end. -/
theorem unitsUntil_brackets_february :
    Chronology.iso = .iso ∧ TimeUnit.months ≠ .eras ∧
      (plusLogged ⟨⟨2023, 1, 31⟩, .iso, by decide⟩ (0 + 1) .months).events =
        [.clampedDay .iso 2023 2 31 28] ∧
      ∃ r, plus ⟨⟨2023, 2, 28⟩, .iso, by decide⟩ (0 - 1) .months = .ok r ∧
        r < ⟨⟨2023, 1, 31⟩, .iso, by decide⟩ := by
  let january : Date := ⟨⟨2023, 1, 31⟩, .iso, by decide⟩
  let february : Date := ⟨⟨2023, 2, 28⟩, .iso, by decide⟩
  obtain ⟨n, hn, hforward, -⟩ := unitsUntil_brackets january february .months rfl (by decide)
  obtain ⟨m, hm, -, hbackward⟩ := unitsUntil_brackets february january .months rfl (by decide)
  obtain rfl : 0 = n := Except.ok.inj hn
  obtain rfl : 0 = m := Except.ok.inj hm
  refine ⟨rfl, by decide, ?_, ?_⟩
  · obtain ⟨-, -, herr | ⟨r, hr, -, hclamped⟩⟩ := hforward (by decide)
    · cases herr
    · obtain rfl : february = r := Except.ok.inj hr
      exact hclamped rfl
  · obtain ⟨-, -, herr | hpassed⟩ := hbackward (by decide)
    · cases herr
    · exact hpassed

end Calendrics.Date
