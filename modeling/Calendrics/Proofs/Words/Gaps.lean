import Calendrics.Proofs.PeriodBounds
import Calendrics.Proofs.Words.Moves

/-!
# Gaps and periods in words

Counting the units between two dates, splitting the gap in a period, turning a period round and
moving a date by it, calculated in words. The gap between any two dates is in reach; a period is
only if it comes from such a gap, and a calculation on it relies on that (`Period.InReach`).

* `unitsUntil_eq`, `periodUntil_eq` — gaps, for any two dates;
* `totalMonths_eq`, `negated_eq`, `plusPeriod_eq` — periods in reach.
-/

namespace Calendrics.Words

/-! ## Calculations -/

/-- The years and months of a period as one number of months. -/
def totalMonths (p : Period) : Checked Int := do
  Word.i64.add (← Word.i64.mul p.years 12) p.months

/-- The same amount in the other direction. Only the years have 64 bits. -/
def negated (p : Period) : Checked Period := do
  return ⟨p.chronology, ← Word.i64.neg p.years, ← Word.i32.neg p.months, ← Word.i32.neg p.days⟩

/-- The date a period later. -/
def plusPeriod (d : BareDate) (p : Period) : Checked BareDate := do
  Checked.ofExact (d.requireChronology p.chronology)
  let moved ← plusMonths d (← totalMonths p)
  plusDays moved p.days

/-- The days from one date to another. -/
def daysUntil (start finish : BareDate) : Checked Int := do
  Word.i64.sub (← epochDay finish) (← epochDay start)

/-- The whole months from one date to another. -/
def monthsUntil (start finish : BareDate) : Checked Int := do
  return (← Word.i64.sub (← packedMonthDay finish) (← packedMonthDay start)).tdiv 256

/-- The whole units from one date to another. -/
def unitsUntil (start finish : BareDate) (unit : TimeUnit) : Checked Int := do
  Checked.ofExact (start.requireChronology finish.chronology)
  match unit with
  | .days => daysUntil start finish
  | .weeks => return (← daysUntil start finish).tdiv 7
  | .months => monthsUntil start finish
  | .years => return (← monthsUntil start finish).tdiv 12
  | .decades => return (← monthsUntil start finish).tdiv (← Word.i64.mul 12 10)
  | .centuries => return (← monthsUntil start finish).tdiv (← Word.i64.mul 12 100)
  | .millennia => return (← monthsUntil start finish).tdiv (← Word.i64.mul 12 1000)
  | .eras => Word.i64.sub (Era.ofYear finish.year).value (Era.ofYear start.year).value

/-- The gap between two dates as a period. Months and days are narrowed to 32 bits by a function
that refuses what does not fit. -/
def periodUntil (start finish : BareDate) : Checked Period := do
  Checked.ofExact (start.requireChronology finish.chronology)
  let months ← Word.i64.sub (← prolepticMonth finish) (← prolepticMonth start)
  let days ← Word.i64.sub finish.day start.day
  if 0 < months ∧ days < 0 then do
    let months ← Word.i64.sub months 1
    let shifted ← plusMonths start months
    let days ← Word.i64.sub (← epochDay finish) (← epochDay shifted)
    Checked.ofExact (Period.ofMonthsDays start.chronology months days)
  else if months < 0 ∧ 0 < days then do
    let months ← Word.i64.add months 1
    let length ← lengthOfMonth finish.chronology finish.year finish.month
    let days ← Word.i64.sub days length
    Checked.ofExact (Period.ofMonthsDays start.chronology months days)
  else
    Checked.ofExact (Period.ofMonthsDays start.chronology months days)

/-! ## Periods in reach -/

variable {p : Period}

theorem totalMonths_eq (h : p.InReach) : totalMonths p = .ok p.totalMonths := by
  obtain ⟨hyears, hmonths, -⟩ := h
  unfold totalMonths
  simp (disch := (rw [Word.mem_i64]; omega)) only [Checked.ok_bind, Word.mul_of_mem,
    Word.add_of_mem]
  rfl

/-- **A period in reach can be turned round.** -/
theorem negated_eq (h : p.InReach) : negated p = .ok p.negated := by
  obtain ⟨hyears, hmonths, hdays⟩ := h
  unfold negated
  simp (disch := first | (rw [Word.mem_i64]; omega) | (rw [Word.mem_i32]; omega)) only
    [Checked.ok_bind, Word.neg_of_mem]
  rfl

/-- Out of reach is a period whose days are the least number of 32 bits. -/
example : negated ⟨.iso, 0, 0, -2147483648⟩ = .error (.wrapped .i32 2147483648) := rfl

/-- **Moving by a period in reach stops for refusals only.** -/
theorem plusPeriod_eq (d : Date) (h : p.InReach) :
    plusPeriod d.bare p = Checked.ofExact (d.bare.plusPeriod p) := by
  rw [plusPeriod, BareDate.plusPeriod, totalMonths_eq h, Checked.ofExact_bind]
  refine congrArg (_ >>= ·) (funext fun _ => ?_)
  rw [Checked.ok_bind, plusMonths_eq, ← Date.bare_plusMonths]
  cases (d.plusMonths p.totalMonths).result with
  | error e => rfl
  | ok moved => exact plusDays_eq moved p.days

/-! ## Gaps -/

variable (start finish : Date)

/-- The months of two dates are close enough to be subtracted. -/
theorem prolepticMonth_sub_bounds :
    -24000000000 ≤ finish.prolepticMonth - start.prolepticMonth ∧
      finish.prolepticMonth - start.prolepticMonth ≤ 24000000000 := by
  have hstart := start.prolepticMonth_bounds
  have hfinish := finish.prolepticMonth_bounds
  omega

/-- So are their numbers. -/
theorem epochDay_sub_mem : finish.epochDay - start.epochDay ∈ Word.i64.range := by
  have hstart := start.epochDay_bounds
  have hfinish := finish.epochDay_bounds
  rw [Word.mem_i64]
  omega

theorem daysUntil_eq : daysUntil start.bare finish.bare = .ok (start.daysUntil finish) := by
  rw [daysUntil, epochDay_eq, epochDay_eq, Checked.ok_bind, Checked.ok_bind]
  exact Word.sub_of_mem (epochDay_sub_mem start finish)

/-- The packed numbers of dates are small enough to be subtracted. -/
theorem packedMonthDay_bounds (d : Date) :
    -4000000000000 ≤ d.packedMonthDay ∧ d.packedMonthDay ≤ 4000000000000 := by
  have hmonths := d.prolepticMonth_bounds
  have hday₁ := d.isDate.one_le_day
  have hday₂ := d.day_le
  simp only [Date.packedMonthDay, Date.packingFactor]
  omega

theorem monthsUntil_eq : monthsUntil start.bare finish.bare = .ok (start.monthsUntil finish) := by
  have hstart := packedMonthDay_bounds start
  have hfinish := packedMonthDay_bounds finish
  rw [monthsUntil, packedMonthDay_eq, packedMonthDay_eq, Checked.ok_bind, Checked.ok_bind,
    Word.sub_of_mem (by rw [Word.mem_i64]; omega)]
  rfl

/-- **Counting units stops for refusals only.** -/
theorem unitsUntil_eq (u : TimeUnit) :
    unitsUntil start.bare finish.bare u = Checked.ofExact (start.unitsUntil finish u) := by
  unfold unitsUntil Date.unitsUntil
  rw [Checked.ofExact_bind]
  refine congrArg (_ >>= ·) (funext fun _ => ?_)
  have hera : ∀ d : Date, d.era.value = 0 ∨ d.era.value = 1 := by
    intro d
    cases d.era
    · exact .inl rfl
    · exact .inr rfl
  cases u with
  | days => exact daysUntil_eq start finish
  | weeks => rw [daysUntil_eq]; rfl
  | months => exact monthsUntil_eq start finish
  | years => rw [monthsUntil_eq]; rfl
  | decades => rw [monthsUntil_eq]; rfl
  | centuries => rw [monthsUntil_eq]; rfl
  | millennia => rw [monthsUntil_eq]; rfl
  | eras =>
    refine Word.sub_of_mem ?_
    change finish.era.value - start.era.value ∈ Word.i64.range
    rw [Word.mem_i64]
    rcases hera start with h | h <;> rcases hera finish with h' | h' <;> omega

/-- **Splitting a gap stops for refusals only.** -/
theorem periodUntil_eq :
    periodUntil start.bare finish.bare = Checked.ofExact (start.periodUntil finish) := by
  by_cases hc : start.chronology = finish.chronology
  · have hsame : start.bare.requireChronology finish.bare.chronology = .ok () := if_pos hc
    obtain ⟨hmonths₁, hmonths₂⟩ := prolepticMonth_sub_bounds start finish
    have hday := start.day_le
    have hday' := finish.day_le
    have hfirst := start.isDate.one_le_day
    have hfirst' := finish.isDate.one_le_day
    have hlength := finish.chronology.lengthOfMonth_bounds finish.year
      finish.isDate.one_le_month finish.isDate.month_le
    have hlengthOf : lengthOfMonth finish.bare.chronology finish.bare.year finish.bare.month =
        .ok finish.lengthOfMonth := lengthOfMonth_date finish
    have hfits : finish.day - start.day ∈ Word.i64.range := by
      rw [Word.mem_i64]
      omega
    have hdays : Word.i64.sub finish.bare.day start.bare.day = .ok (finish.day - start.day) :=
      Word.sub_of_mem hfits
    change 28 ≤ finish.lengthOfMonth ∧ finish.lengthOfMonth ≤ 31 at hlength
    rw [periodUntil, hsame, Checked.ofExact_ok, Checked.ok_bind, prolepticMonth_eq,
      Checked.ok_bind, prolepticMonth_eq, Checked.ok_bind,
      Word.sub_of_mem (by rw [Word.mem_i64]; omega), Checked.ok_bind, hdays, Checked.ok_bind,
      Date.periodUntil_eq hc]
    split
    · -- the borrowed month leads to a date, unless the move to it is refused
      rw [Word.sub_of_mem (by rw [Word.mem_i64]; omega), Checked.ok_bind, plusMonths_eq,
        ← Date.bare_plusMonths, Checked.ofExact_bind]
      cases (start.plusMonths (finish.prolepticMonth - start.prolepticMonth - 1)).result with
      | error e => rfl
      | ok moved =>
        change (do
          let days ← Word.i64.sub (← epochDay finish.bare) (← epochDay moved.bare)
          Checked.ofExact (Period.ofMonthsDays start.chronology _ days)) = _
        rw [epochDay_eq, Checked.ok_bind, epochDay_eq, Checked.ok_bind,
          Word.sub_of_mem (epochDay_sub_mem moved finish)]
        rfl
    · split
      · rw [Word.add_of_mem (by rw [Word.mem_i64]; omega), Checked.ok_bind, hlengthOf,
          Checked.ok_bind, Word.sub_of_mem (by rw [Word.mem_i64]; omega), Checked.ok_bind]
        rfl
      · rfl
  · have hother : start.bare.requireChronology finish.bare.chronology =
        .error (.chronologyMismatch start.chronology finish.chronology) := if_neg hc
    rw [Date.periodUntil_bare, periodUntil, BareDate.periodUntil, hother]
    rfl

end Calendrics.Words
