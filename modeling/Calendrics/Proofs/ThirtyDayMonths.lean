import Calendrics.Proofs.Cycles
import Calendrics.Proofs.CountLaws
import Calendrics.Proofs.NormalForm

/-!
# Months of thirty days

In the 360-day calendar every month has thirty days. No month is too short for any day, so no move
ever moves a day back, and everything that this spoils in other calendars holds in this one.

The reason is that a month is a run of days here: a move by months decodes and encodes a month, a
move by days a day number, and they are the same move. The rest follows from what is known of day
moves, which have inverses.

* `monthLength_uniform30`, `monthStart_add_uniform30` — months of thirty days, one after the other;
* `plusMonths_eq_plusDays` — **a month move is a day move** by thirty times as many days, refusals
  and log included;
* `minus_of_plus` — hence a move by any unit but the era is undone by the move back;
* `exists_moved_of_periodUntil` — in both directions the days of a gap are counted from where its
  months lead;
* `periodUntil_swap` — **turned round, a gap has all its signs changed**: its years and months in
  every calendar (`years_months_of_swap`), and here its days too;
* `intervals_invertible` — **gaps and moves are invertible**.
-/

namespace Calendrics

namespace Chronology

/-- Every month has thirty days. -/
theorem monthLength_uniform30 (m : Int) : uniform30.monthLength m = 30 := by
  obtain ⟨h₁, h₂⟩ := month_mem m
  rw [monthLength, lengthOfMonth]
  rcases month_cases h₁ h₂ with h | h | h | h | h | h | h | h | h | h | h | h <;> rw [h] <;> rfl

/-- So many months later, thirty times as many days have passed. -/
theorem monthStart_add_uniform30 (m n : Int) :
    uniform30.monthStart (m + n) = uniform30.monthStart m + 30 * n :=
  uniform30.tiles_months.start_add_of_length_eq monthLength_uniform30 m n

end Chronology

namespace Date

variable {a b d moved : Date} {p q : Period} {unit : TimeUnit} {n : Int}

/-! ## Moves -/

/-- **A month move is a day move**, by thirty times as many days. -/
theorem plusMonths_eq_plusDays (hd : d.chronology = .uniform30) (n : Int) :
    d.plusMonths n = .ofExcept (d.plusDays (30 * n)) := by
  have hlast : d.day ≤ d.chronology.monthLength (d.prolepticMonth + n) := by
    have hday := d.day_le_monthLength
    rw [hd, Chronology.monthLength_uniform30] at hday ⊢
    exact hday
  -- both moves lead to the same place in the month whose number is so much larger
  have ht := Chronology.isDay_inMonth d.isDate.one_le_day hlast
  have hmonth := YearMonthDay.monthNumber_inMonth (d.prolepticMonth + n) d.day
  have hnumber : d.chronology.epochDay (.inMonth (d.prolepticMonth + n) d.day) =
      d.epochDay + 30 * n := by
    rw [ht.epochDay_eq, hmonth, d.epochDay_eq, hd, Chronology.monthStart_add_uniform30]
    simp only [YearMonthDay.inMonth]
    omega
  rw [plusMonths_of_isDay_same ht hmonth rfl, plusDays_of_isDay ht hnumber]

/-- A month move adds thirty times as many days. -/
theorem epochDay_of_plusMonths (hd : d.chronology = .uniform30)
    (h : (d.plusMonths n).result = .ok moved) : moved.epochDay = d.epochDay + 30 * n := by
  rw [plusMonths_eq_plusDays hd, Logged.result_ofExcept] at h
  exact (plusDays_eq_ok_iff.mp h).2

/-- A month move keeps the day of the month. -/
theorem day_eq_of_plusMonths (hd : d.chronology = .uniform30)
    (h : (d.plusMonths n).result = .ok moved) : moved.day = d.day := by
  have hevents := events_plusMonths h
  rw [plusMonths_eq_plusDays hd, Logged.events_ofExcept] at hevents
  exact clampEvents_eq_nil_iff.mp hevents.symm

/-- **Every unit but the era is a run of days.** -/
theorem exists_plusLogged_eq_plusDays (hu : unit ≠ .eras) :
    ∃ k, ∀ d : Date, d.chronology = .uniform30 → ∀ n,
      d.plusLogged n unit = .ofExcept (d.plusDays (k * n)) := by
  rcases TimeUnit.stride_cases hu with ⟨k, hk⟩ | ⟨k, hk⟩
  · exact ⟨k, fun d _ n => plusLogged_of_days hk⟩
  · refine ⟨30 * k, fun d hd n => ?_⟩
    rw [plusLogged_of_months hk, plusMonths_eq_plusDays hd, Int.mul_assoc]

/-- A move records nothing. -/
theorem events_plusLogged_eq_nil (hd : d.chronology = .uniform30) (hu : unit ≠ .eras) (n : Int) :
    (d.plusLogged n unit).events = [] := by
  obtain ⟨k, hk⟩ := exists_plusLogged_eq_plusDays hu
  rw [hk d hd, Logged.events_ofExcept]

/-- **The move back undoes a move.** -/
theorem minus_of_plus (hd : d.chronology = .uniform30) (hu : unit ≠ .eras)
    (h : d.plus n unit = .ok moved) : moved.minus n unit = .ok d := by
  obtain ⟨k, hk⟩ := exists_plusLogged_eq_plusDays hu
  rw [plus, hk d hd, Logged.result_ofExcept] at h
  obtain ⟨hc, -⟩ := plusDays_eq_ok_iff.mp h
  rw [minus, minusLogged_eq_plusLogged_neg hu, hk moved (hc.trans hd), Logged.result_ofExcept,
    Int.mul_neg]
  exact plusDays_neg h

/-! ## Gaps -/

/-- In both directions the days of a gap are counted from where its months lead. -/
theorem exists_moved_of_periodUntil (ha : a.chronology = .uniform30)
    (hp : a.periodUntil b = .ok p) :
    ∃ moved, (a.plusMonths p.totalMonths).result = .ok moved ∧
      p.days = b.epochDay - moved.epochDay := by
  rcases le_total (chronology_eq_of_periodUntil hp) with h | h
  · exact exists_moved_of_le h hp
  · -- backward they are counted from the day of the start in that month, which the month has
    obtain ⟨moved, hmeasures⟩ := exists_moved_of_ge h hp
    have hkept := day_eq_of_plusMonths ha hmeasures.plusMonths_eq
    have hdays := hmeasures.add_days
    exact ⟨moved, hmeasures.plusMonths_eq, by omega⟩

/-- **Moving by a gap reaches its end**, in both directions. -/
theorem plusPeriod_of_periodUntil (ha : a.chronology = .uniform30)
    (hp : a.periodUntil b = .ok p) : a.plusPeriod p = .ok b := by
  obtain ⟨moved, hmoved, hdays⟩ := exists_moved_of_periodUntil ha hp
  obtain ⟨hmc, -, -⟩ := plusMonths_eq_ok_iff.mp hmoved
  have hmb : b.chronology = moved.chronology :=
    (chronology_eq_of_periodUntil hp).symm.trans hmc.symm
  refine plusPeriod_eq_ok_iff.mpr ⟨(chronology_of_periodUntil hp).symm, moved, hmoved, ?_⟩
  exact plusDays_eq_ok_iff.mpr ⟨hmb, by omega⟩

/-- A gap amounts to the days between its dates. -/
theorem days_of_periodUntil (ha : a.chronology = .uniform30) (hp : a.periodUntil b = .ok p) :
    30 * p.totalMonths + p.days = b.epochDay - a.epochDay := by
  obtain ⟨moved, hmoved, hdays⟩ := exists_moved_of_periodUntil ha hp
  have hmonths := epochDay_of_plusMonths ha hmoved
  omega

/-- In every chronology, a gap turned round has the same years and months with other signs. -/
theorem years_months_of_swap (hp : a.periodUntil b = .ok p) (hq : b.periodUntil a = .ok q) :
    q.years = -p.years ∧ q.months = -p.months := by
  have hc := chronology_eq_of_periodUntil hp
  obtain ⟨hpy, hpm⟩ := years_of_periodUntil hc hp
  obtain ⟨hqy, hqm⟩ := years_of_periodUntil hc.symm hq
  rw [monthsUntil_swap] at hqy hqm
  rw [Int.neg_tdiv, ← hpy] at hqy
  rw [← hpm, Period.totalMonths, Period.totalMonths] at hqm
  exact ⟨hqy, by omega⟩

/-- **A gap turned round has all its signs changed.** -/
theorem periodUntil_swap (ha : a.chronology = .uniform30) (hp : a.periodUntil b = .ok p) :
    b.periodUntil a = .ok p.negated := by
  have hc := chronology_eq_of_periodUntil hp
  obtain ⟨q, hq⟩ := exists_periodUntil hc.symm
  obtain ⟨hyears, hmonths⟩ := years_months_of_swap hp hq
  -- the years and months being what they are, the days are what is left of the days between
  have hpdays := days_of_periodUntil ha hp
  have hqdays := days_of_periodUntil (hc.symm.trans ha) hq
  have hdays : q.days = -p.days := by
    rw [Period.totalMonths] at hpdays hqdays
    omega
  have hqc : q.chronology = p.chronology := by
    rw [chronology_of_periodUntil hp, chronology_of_periodUntil hq, hc]
  rw [hq]
  exact congrArg Except.ok (Period.ext hqc hyears hmonths hdays)

/-! ## Gaps and moves are invertible -/

/-- **Gaps and moves are invertible** in the 360-day calendar. Any two dates, in either order, have
a gap between them; the gap from the second to the first is the same with all signs changed, and
moving either date by its gap to the other reaches the other. A move by an amount of any unit but the
era is undone by the move back if it succeeds, and records nothing. No move by the least 64-bit
amount, which has no negative, succeeds. -/
theorem intervals_invertible (d : Date) (hd : d.chronology = .uniform30) :
    (∀ finish : Date, finish.chronology = .uniform30 →
      ∃ p, d.periodUntil finish = .ok p ∧ finish.periodUntil d = .ok p.negated ∧
        d.plusPeriod p = .ok finish ∧ finish.plusPeriod p.negated = .ok d) ∧
    (∀ n unit moved, unit ≠ TimeUnit.eras → d.plus n unit = .ok moved →
      moved.minus n unit = .ok d ∧ (d.plusLogged n unit).events = []) := by
  refine ⟨?_, ?_⟩
  · intro finish hf
    obtain ⟨p, hp⟩ := exists_periodUntil (hd.trans hf.symm)
    have hback := periodUntil_swap hd hp
    exact ⟨p, hp, hback, plusPeriod_of_periodUntil hd hp, plusPeriod_of_periodUntil hf hback⟩
  · intro n unit moved hu h
    exact ⟨minus_of_plus hd hu h, events_plusLogged_eq_nil hd hu n⟩

/-- From 10 January of year one back to 25 December of year -1, where a month is taken back; in the
other direction one is borrowed. And thirteen months back from 30 March of year one, which end on
30 February of year zero. -/
theorem intervals_invertible_across_zero :
    (Chronology.uniform30 = .uniform30 ∧
      periodUntil ⟨⟨1, 1, 10⟩, .uniform30, by decide⟩ ⟨⟨-1, 12, 25⟩, .uniform30, by decide⟩ =
        .ok ⟨.uniform30, -1, 0, -15⟩ ∧
      periodUntil ⟨⟨-1, 12, 25⟩, .uniform30, by decide⟩ ⟨⟨1, 1, 10⟩, .uniform30, by decide⟩ =
        .ok (Period.negated ⟨.uniform30, -1, 0, -15⟩) ∧
      plusPeriod ⟨⟨1, 1, 10⟩, .uniform30, by decide⟩ ⟨.uniform30, -1, 0, -15⟩ =
        .ok ⟨⟨-1, 12, 25⟩, .uniform30, by decide⟩) ∧
    TimeUnit.months ≠ .eras ∧
      plus ⟨⟨1, 3, 30⟩, .uniform30, by decide⟩ (-13) .months =
        .ok ⟨⟨0, 2, 30⟩, .uniform30, by decide⟩ ∧
      minus ⟨⟨0, 2, 30⟩, .uniform30, by decide⟩ (-13) .months =
        .ok ⟨⟨1, 3, 30⟩, .uniform30, by decide⟩ := by
  obtain ⟨hgaps, -⟩ := intervals_invertible ⟨⟨1, 1, 10⟩, .uniform30, by decide⟩ rfl
  obtain ⟨-, hmoves⟩ := intervals_invertible ⟨⟨1, 3, 30⟩, .uniform30, by decide⟩ rfl
  obtain ⟨p, hp, hback, hreach, -⟩ := hgaps ⟨⟨-1, 12, 25⟩, .uniform30, by decide⟩ rfl
  obtain rfl : ⟨.uniform30, -1, 0, -15⟩ = p := Except.ok.inj hp
  exact ⟨⟨rfl, hp, hback, hreach⟩, by decide, rfl, (hmoves (-13) .months _ (by decide) rfl).1⟩

end Date

end Calendrics
