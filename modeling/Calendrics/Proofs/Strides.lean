import Mathlib.Algebra.Order.Ring.Int
import Calendrics.Date.Arithmetic
import Calendrics.Proofs.Moves

/-!
# Units as runs of days or of months

Seven of the eight units are runs of one of two things: a week is seven days, and a year, a
decade, a century and a millennium are so many months. `TimeUnit.stride` is that table. Moves and
counts use it in steps of their own — a week move multiplies and then moves by days, a year move
adds to the year, a move by decades multiplies and then moves by years — and each of these steps
can refuse. None of it matters:

* `plusLogged_of_days`, `plusLogged_of_months` — **a move by a unit is one day move or one month
  move**, by so many times the amount, refusals and log included;
* `minusLogged_eq_plusLogged_neg` — a move back is a move by the negative amount;
* `unitsUntil_of_days`, `unitsUntil_of_months` — a count of a unit is a quotient of the days or of
  the whole months between the dates.
-/

namespace Calendrics

/-- What a unit is a run of. -/
inductive Stride where
  /-- so many days -/
  | days (count : Int)
  /-- so many months -/
  | months (count : Int)
deriving DecidableEq

namespace TimeUnit

/-- The run that a unit stands for. An era is no run of days or months. -/
def stride : TimeUnit → Option Stride
  | days => some (.days 1)
  | weeks => some (.days 7)
  | months => some (.months 1)
  | years => some (.months 12)
  | decades => some (.months 120)
  | centuries => some (.months 1200)
  | millennia => some (.months 12000)
  | eras => none

variable {unit : TimeUnit} {k : Int}

/-- Every unit but the era is a run of days or a run of months. -/
theorem stride_cases (hu : unit ≠ eras) :
    (∃ k, unit.stride = some (.days k)) ∨ ∃ k, unit.stride = some (.months k) := by
  cases unit with
  | days => exact .inl ⟨1, rfl⟩
  | weeks => exact .inl ⟨7, rfl⟩
  | months => exact .inr ⟨1, rfl⟩
  | years => exact .inr ⟨12, rfl⟩
  | decades => exact .inr ⟨120, rfl⟩
  | centuries => exact .inr ⟨1200, rfl⟩
  | millennia => exact .inr ⟨12000, rfl⟩
  | eras => exact absurd rfl hu

/-- Days and weeks are runs of days. -/
theorem exists_days_of_mem (h : unit ∈ [days, weeks]) : ∃ k, unit.stride = some (.days k) := by
  simp only [List.mem_cons, List.not_mem_nil, or_false] at h
  rcases h with rfl | rfl
  · exact ⟨1, rfl⟩
  · exact ⟨7, rfl⟩

/-- Months and the units made of years are runs of months. -/
theorem exists_months_of_mem (h : unit ∈ [months, years, decades, centuries, millennia]) :
    ∃ k, unit.stride = some (.months k) := by
  simp only [List.mem_cons, List.not_mem_nil, or_false] at h
  rcases h with rfl | rfl | rfl | rfl | rfl
  · exact ⟨1, rfl⟩
  · exact ⟨12, rfl⟩
  · exact ⟨120, rfl⟩
  · exact ⟨1200, rfl⟩
  · exact ⟨12000, rfl⟩

/-- A unit that is a run is no era. -/
theorem ne_eras_of_stride {run : Stride} (h : unit.stride = some run) : unit ≠ eras := by
  rintro rfl
  cases h

/-- A run of days has at least one. -/
theorem one_le_of_days (h : unit.stride = some (.days k)) : 1 ≤ k := by
  cases unit <;> cases h <;> decide

/-- A run of months has at least one. -/
theorem one_le_of_months (h : unit.stride = some (.months k)) : 1 ≤ k := by
  cases unit <;> cases h <;> decide

end TimeUnit

/-- A positive multiple of a number that does not fit in 64 bits does not fit either. -/
theorem Amount.mul_not_mem_range {k n : Int} (hk : 1 ≤ k) (hn : n ∉ Amount.range) :
    k * n ∉ Amount.range := by
  rw [Amount.mem_range] at hn ⊢
  rcases Int.le_total 0 n with h₀ | h₀
  · have := le_mul_of_one_le_left h₀ hk
    omega
  · have := mul_le_of_one_le_left h₀ hk
    omega

/-- Day numbers of supported years stay below four hundred thousand millions on either side. -/
theorem Chronology.epochDayRange_bounds (c : Chronology) :
    -400000000000 ≤ c.epochDayRange.min ∧ c.epochDayRange.max ≤ 400000000000 := by
  cases c <;> decide

namespace Date

variable {d start finish : Date} {unit : TimeUnit} {k n : Int}

/-! ## Amounts that do not fit in 64 bits

No amount that leads to a supported date is anywhere near the limits, so a product that does not
fit is refused rightly, whether it is refused as a product or as a move. -/

/-- A day move by an amount that does not fit is an overflow. -/
theorem plusDays_of_not_mem_range (h : n ∉ Amount.range) :
    d.plusDays n = .error .arithmeticOverflow := by
  refine plusDays_eq_overflow fun he => ?_
  obtain ⟨h₁, h₂⟩ := d.chronology.epochDayRange_bounds
  obtain ⟨he₁, he₂⟩ := he
  obtain ⟨hd₁, hd₂⟩ := d.epochDay_mem_epochDayRange
  rw [Amount.mem_range] at h
  omega

/-- A month move by an amount that does not fit is an overflow. -/
theorem plusMonths_of_not_mem_range (h : n ∉ Amount.range) :
    d.plusMonths n = .ofExcept (.error .arithmeticOverflow) := by
  refine plusMonths_eq_overflow fun hm => ?_
  have h₁ := d.firstMonth_le_prolepticMonth
  have h₂ := d.prolepticMonth_le_lastMonth
  rw [Amount.mem_range] at h
  simp only [Chronology.firstMonth, Chronology.lastMonth, minYear, maxYear, monthsPerYear]
    at h₁ h₂ hm
  omega

/-! ## Moves -/

/-- A week move is a day move. -/
theorem plusWeeks_eq_plusDays (d : Date) (n : Int) : d.plusWeeks n = d.plusDays (7 * n) := by
  have hcomm : n * daysPerWeek = 7 * n := Int.mul_comm n 7
  rw [plusWeeks, Amount.mul, hcomm]
  by_cases h : 7 * n ∈ Amount.range
  · rw [Amount.ofInt_of_mem h]
    rfl
  · rw [Amount.ofInt_of_not_mem h, plusDays_of_not_mem_range h]
    rfl

/-- A move by a multiple of years is a month move. -/
theorem plusYears_mul_eq_plusMonths (d : Date) (n k : Int) :
    (do d.plusYears (← Amount.mul n k) : Logged Date) = d.plusMonths (12 * k * n) := by
  rw [Amount.mul, Int.mul_assoc, Int.mul_comm k n]
  by_cases h : n * k ∈ Amount.range
  · rw [Amount.ofInt_of_mem h, Logged.lift_ok_bind]
    exact plusYears_eq_plusMonths d (n * k)
  · rw [Amount.ofInt_of_not_mem h, Logged.lift_error_bind,
      plusMonths_of_not_mem_range (Amount.mul_not_mem_range (by decide) h)]

/-- **A move by a run of days is a day move.** -/
theorem plusLogged_of_days (h : unit.stride = some (.days k)) :
    d.plusLogged n unit = .ofExcept (d.plusDays (k * n)) := by
  cases unit <;> cases h
  case days => rw [Int.one_mul, plusLogged]
  case weeks => rw [← plusWeeks_eq_plusDays, plusLogged]

/-- **A move by a run of months is a month move.** -/
theorem plusLogged_of_months (h : unit.stride = some (.months k)) :
    d.plusLogged n unit = d.plusMonths (k * n) := by
  cases unit <;> cases h
  case months => rw [Int.one_mul, plusLogged]
  case years => exact plusYears_eq_plusMonths d n
  case decades => exact plusYears_mul_eq_plusMonths d n 10
  case centuries => exact plusYears_mul_eq_plusMonths d n 100
  case millennia => exact plusYears_mul_eq_plusMonths d n 1000

/-- A move by a run of days, without its log. -/
theorem plus_of_days (h : unit.stride = some (.days k)) :
    d.plus n unit = d.plusDays (k * n) := by
  rw [plus, plusLogged_of_days h, Logged.result_ofExcept]

/-- A move by a run of months, without its log. -/
theorem plus_of_months (h : unit.stride = some (.months k)) :
    d.plus n unit = (d.plusMonths (k * n)).result := by
  rw [plus, plusLogged_of_months h]

/-- A move by an amount that does not fit is an overflow. -/
theorem plusLogged_of_not_mem_range (hu : unit ≠ .eras) (hn : n ∉ Amount.range) :
    d.plusLogged n unit = .ofExcept (.error .arithmeticOverflow) := by
  rcases TimeUnit.stride_cases hu with ⟨k, h⟩ | ⟨k, h⟩
  · have hk := Amount.mul_not_mem_range (TimeUnit.one_le_of_days h) hn
    rw [plusLogged_of_days h, plusDays_of_not_mem_range hk]
  · have hk := Amount.mul_not_mem_range (TimeUnit.one_le_of_months h) hn
    rw [plusLogged_of_months h, plusMonths_of_not_mem_range hk]

/-- **A move back is a move by the negative amount**, also where that does not fit in 64 bits. -/
theorem minusLogged_eq_plusLogged_neg (hu : unit ≠ .eras) :
    d.minusLogged n unit = d.plusLogged (-n) unit := by
  rw [minusLogged, Amount.neg]
  by_cases h : -n ∈ Amount.range
  · rw [Amount.ofInt_of_mem h, Logged.lift_ok_bind]
  · rw [Amount.ofInt_of_not_mem h, Logged.lift_error_bind, plusLogged_of_not_mem_range hu h]

/-! ## Counts -/

/-- A count of a run of days is a quotient of the days between. -/
theorem unitsUntil_of_days (hc : start.chronology = finish.chronology)
    (h : unit.stride = some (.days k)) :
    start.unitsUntil finish unit = .ok ((start.daysUntil finish).tdiv k) := by
  rw [unitsUntil.eq_def, requireChronology, if_pos hc]
  cases unit <;> cases h
  case days =>
    rw [Int.tdiv_one]
    rfl
  case weeks => rfl

/-- A count of a run of months is a quotient of the whole months between. -/
theorem unitsUntil_of_months (hc : start.chronology = finish.chronology)
    (h : unit.stride = some (.months k)) :
    start.unitsUntil finish unit = .ok ((start.monthsUntil finish).tdiv k) := by
  rw [unitsUntil.eq_def, requireChronology, if_pos hc]
  cases unit <;> cases h
  case months =>
    rw [Int.tdiv_one]
    rfl
  all_goals rfl

end Date

end Calendrics
