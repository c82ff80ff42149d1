import Calendrics.EpochDay.MarchYear

/-!
# Day numbers of the Julian calendar

The Julian calendar repeats every four years of 1461 days. A cycle begins on 1 March of a year
divisible by four, and its four March years have 365 days each, but for the last, which ends with
the leap day. Days are numbered as in the Gregorian calendar, so day 0 is 19 December 1969 of the
Julian calendar, 719470 days after its 1 March of year zero.
-/

namespace Calendrics.Julian

/-- The number of the day with a given date. -/
def epochDay (t : YearMonthDay) : Int :=
  let y := MarchYear.ofDate t.year t.month
  y / 4 * 1461 + (y % 4 * 365 + MarchYear.dayOf t.month t.day) - 719470

/-- The March year of a day `n` of a cycle. -/
def yearOfCycle (n : Int) : Int :=
  (n - n / 1460) / 365

/-- The date of the day with a given number. -/
def ofEpochDay (e : Int) : YearMonthDay :=
  let cycle := (e + 719470) / 1461
  let n := (e + 719470) % 1461
  let y := yearOfCycle n
  MarchYear.toDate (cycle * 4 + y) (n - 365 * y)

/-- A day of a cycle is one of at most 366 days of its March year, and it is the 366th only in
the last year of the cycle. -/
theorem yearOfCycle_bounds {n : Int} (h₀ : 0 ≤ n) (h₁ : n < 1461) :
    0 ≤ yearOfCycle n ∧ yearOfCycle n ≤ 3 ∧ 0 ≤ n - 365 * yearOfCycle n ∧
      n - 365 * yearOfCycle n ≤ 365 ∧ (n - 365 * yearOfCycle n = 365 → yearOfCycle n = 3) := by
  unfold yearOfCycle
  omega

/-- **Finding the date of a day number keeps the number.** -/
theorem epochDay_ofEpochDay (e : Int) : epochDay (ofEpochDay e) = e := by
  have h₀ : 0 ≤ (e + 719470) % 1461 := Int.emod_nonneg _ (by decide)
  have h₁ : (e + 719470) % 1461 < 1461 := Int.emod_lt_of_pos _ (by decide)
  obtain ⟨hy₀, hy₁, hd₀, hd₁, -⟩ := yearOfCycle_bounds h₀ h₁
  simp only [epochDay, ofEpochDay]
  rw [MarchYear.ofDate_toDate _ hd₀ hd₁, MarchYear.dayOf_toDate _ hd₀ hd₁]
  generalize yearOfCycle ((e + 719470) % 1461) = y at *
  omega

end Calendrics.Julian
