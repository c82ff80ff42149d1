import Calendrics.Proofs.PeriodsBackward
import Calendrics.Proofs.Strides

/-!
# Whole months

How many whole months lie between two dates is found in two ways. A count of months packs the month
and the day of each date in one number and divides the difference; a period takes the difference of
the months and corrects it by one if the days point the other way. This module shows that they
agree, and with them the years, decades, centuries and millennia:

* `monthsUntil_eq` — **the packed count is the corrected difference**;
* `years_of_periodUntil` — hence the years and months of a period are those of the packed count;
* `periodUntil_agrees_with_unitsUntil` — **periods and counts agree** in every unit made of months.

A quotient toward zero lies between two multiples of its divisor; `tdiv_bracket_of_nonneg` and
`tdiv_bracket_of_nonpos` say which.
-/

namespace Calendrics

/-! ## Quotients toward zero -/

/-- From zero upward, a quotient is the last whole multiple that does not exceed. -/
theorem tdiv_bracket_of_nonneg {x k : Int} (hx : 0 ≤ x) (hk : 0 < k) :
    0 ≤ x.tdiv k ∧ k * x.tdiv k ≤ x ∧ x < k * (x.tdiv k + 1) := by
  refine ⟨Int.tdiv_nonneg hx (Int.le_of_lt hk), Int.mul_tdiv_self_le hx, ?_⟩
  rw [Int.mul_add, Int.mul_one]
  exact Int.lt_mul_tdiv_self_add hk

/-- From zero downward, it is the first whole multiple that is not exceeded. -/
theorem tdiv_bracket_of_nonpos {x k : Int} (hx : x ≤ 0) (hk : 0 < k) :
    x.tdiv k ≤ 0 ∧ x ≤ k * x.tdiv k ∧ k * (x.tdiv k - 1) < x := by
  obtain ⟨h₀, h₁, h₂⟩ := tdiv_bracket_of_nonneg (Int.neg_nonneg_of_nonpos hx) hk
  rw [Int.neg_tdiv] at h₀ h₁ h₂
  rw [Int.mul_neg] at h₁
  have hnext : k * (-x.tdiv k + 1) = -(k * (x.tdiv k - 1)) := by
    rw [← Int.mul_neg]
    congr 1
    omega
  rw [hnext] at h₂
  exact ⟨by omega, by omega, by omega⟩

/-- Dividing twice is dividing by the product. -/
theorem tdiv_tdiv (x : Int) {a b : Int} (ha : 0 ≤ a) : (x.tdiv a).tdiv b = x.tdiv (a * b) := by
  have hnonneg : ∀ y : Int, 0 ≤ y → (y.tdiv a).tdiv b = y.tdiv (a * b) := by
    intro y hy
    rw [Int.tdiv_eq_ediv_of_nonneg hy, Int.tdiv_eq_ediv_of_nonneg (Int.ediv_nonneg hy ha),
      Int.tdiv_eq_ediv_of_nonneg hy, Int.ediv_ediv_of_nonneg ha]
  rcases Int.le_total 0 x with hx | hx
  · exact hnonneg x hx
  · have h := hnonneg (-x) (Int.neg_nonneg_of_nonpos hx)
    rw [Int.neg_tdiv, Int.neg_tdiv, Int.neg_tdiv] at h
    omega

namespace Date

variable {a b : Date} {p : Period}

/-! ## The packed count -/

/-- Dates of one chronology are comparable. -/
theorem le_total (hc : a.chronology = b.chronology) : a ≤ b ∨ b ≤ a := by
  rw [le_iff_epochDay_le hc, le_iff_epochDay_le hc.symm]
  exact Int.le_total _ _

/-- **The packed count is the corrected difference**: the difference of the months, less a month
that is not whole because the days point the other way. -/
theorem monthsUntil_eq (a b : Date) :
    a.monthsUntil b =
      if 0 < b.prolepticMonth - a.prolepticMonth ∧ b.day - a.day < 0 then
        b.prolepticMonth - a.prolepticMonth - 1
      else if b.prolepticMonth - a.prolepticMonth < 0 ∧ 0 < b.day - a.day then
        b.prolepticMonth - a.prolepticMonth + 1
      else
        b.prolepticMonth - a.prolepticMonth := by
  have ha := a.chronology.monthLength_bounds a.prolepticMonth
  have hb := b.chronology.monthLength_bounds b.prolepticMonth
  have ha₁ := a.isDate.one_le_day
  have ha₂ := a.day_le_monthLength
  have hb₁ := b.isDate.one_le_day
  have hb₂ := b.day_le_monthLength
  have hpacked : b.packedMonthDay - a.packedMonthDay =
      256 * (b.prolepticMonth - a.prolepticMonth) + (b.day - a.day) := by
    simp only [packedMonthDay, packingFactor]
    omega
  rw [monthsUntil, hpacked, packingFactor]
  -- the days are too few to reach the next multiple of the packing factor
  rcases Int.le_total 0 (256 * (b.prolepticMonth - a.prolepticMonth) + (b.day - a.day)) with h | h
  · obtain ⟨-, h₁, h₂⟩ := tdiv_bracket_of_nonneg h (show (0 : Int) < 256 by decide)
    split
    · omega
    · split <;> omega
  · obtain ⟨-, h₁, h₂⟩ := tdiv_bracket_of_nonpos h (show (0 : Int) < 256 by decide)
    split
    · omega
    · split <;> omega

/-! ## Periods have the packed count -/

/-- The months of a gap are the packed count, however its days are counted. -/
theorem exists_ofMonthsDays_of_periodUntil (hc : a.chronology = b.chronology)
    (h : a.periodUntil b = .ok p) :
    ∃ days, Period.ofMonthsDays a.chronology (a.monthsUntil b) days = .ok p := by
  rw [periodUntil_eq hc] at h
  rw [monthsUntil_eq]
  by_cases hforward : 0 < b.prolepticMonth - a.prolepticMonth ∧ b.day - a.day < 0
  · rw [if_pos hforward] at h ⊢
    obtain ⟨moved, -, h⟩ := Outcome.bind_eq_ok_iff.mp h
    exact ⟨_, h⟩
  · by_cases hbackward : b.prolepticMonth - a.prolepticMonth < 0 ∧ 0 < b.day - a.day
    · rw [if_neg hforward, if_pos hbackward] at h ⊢
      exact ⟨_, h⟩
    · rw [if_neg hforward, if_neg hbackward] at h ⊢
      exact ⟨_, h⟩

/-- **The years and months of a period are those of the packed count.** -/
theorem years_of_periodUntil (hc : a.chronology = b.chronology) (h : a.periodUntil b = .ok p) :
    p.years = (a.monthsUntil b).tdiv 12 ∧ p.totalMonths = a.monthsUntil b := by
  obtain ⟨days, hdays⟩ := exists_ofMonthsDays_of_periodUntil hc h
  rw [Period.eq_of_ofMonthsDays hdays]
  exact ⟨rfl, Int.tdiv_mul_add_tmod _ 12⟩

/-- Between any two dates of one chronology there is a period. -/
theorem exists_periodUntil (hc : a.chronology = b.chronology) : ∃ p, a.periodUntil b = .ok p := by
  rcases le_total hc with h | h
  · obtain ⟨p, -, hp, -⟩ := exists_periodUntil_of_le h
    exact ⟨p, hp⟩
  · obtain ⟨p, _, hp⟩ := exists_measuresBackward h
    exact ⟨p, hp.periodUntil_eq⟩

/-- **Periods and counts agree.** Between two dates of one chronology, in either order, there is a
period; the count of months is its number of months, the count of years is its years, and the
counts of decades, centuries and millennia are tenths, hundredths and thousandths of its years,
rounded toward zero. -/
theorem periodUntil_agrees_with_unitsUntil (start finish : Date)
    (hc : start.chronology = finish.chronology) :
    ∃ p, start.periodUntil finish = .ok p ∧
      start.unitsUntil finish .months = .ok p.totalMonths ∧
      start.unitsUntil finish .years = .ok p.years ∧
      start.unitsUntil finish .decades = .ok (p.years.tdiv 10) ∧
      start.unitsUntil finish .centuries = .ok (p.years.tdiv 100) ∧
      start.unitsUntil finish .millennia = .ok (p.years.tdiv 1000) := by
  obtain ⟨p, hp⟩ := exists_periodUntil hc
  obtain ⟨hyears, hmonths⟩ := years_of_periodUntil hc hp
  have hcount (k : Int) :=
    tdiv_tdiv (b := k) (start.monthsUntil finish) (show (0 : Int) ≤ 12 by decide)
  refine ⟨p, hp, ?_, ?_, ?_, ?_, ?_⟩
  · rw [unitsUntil_of_months hc rfl, Int.tdiv_one, hmonths]
  · rw [unitsUntil_of_months hc rfl, hyears]
  all_goals
    rw [unitsUntil_of_months hc rfl, hyears, hcount]
    rfl

/-- From a leap day back to the last of a January in another month, where a month is taken back: the
gap is a whole number of centuries, and two whole millennia. -/
theorem periodUntil_agrees_with_unitsUntil_leapDay :
    Chronology.iso = .iso ∧ ∃ p,
      periodUntil ⟨⟨2024, 2, 29⟩, .iso, by decide⟩ ⟨⟨-76, 1, 31⟩, .iso, by decide⟩ = .ok p ∧
      p.years = -2100 ∧ p.days = -29 ∧
      unitsUntil ⟨⟨2024, 2, 29⟩, .iso, by decide⟩ ⟨⟨-76, 1, 31⟩, .iso, by decide⟩ .centuries =
        .ok (-21) ∧
      unitsUntil ⟨⟨2024, 2, 29⟩, .iso, by decide⟩ ⟨⟨-76, 1, 31⟩, .iso, by decide⟩ .millennia =
        .ok (-2) := by
  obtain ⟨p, hp, -, -, -, hcenturies, hmillennia⟩ := periodUntil_agrees_with_unitsUntil
    ⟨⟨2024, 2, 29⟩, .iso, by decide⟩ ⟨⟨-76, 1, 31⟩, .iso, by decide⟩ rfl
  obtain rfl : ⟨.iso, -2100, 0, -29⟩ = p := Except.ok.inj hp
  exact ⟨rfl, _, hp, rfl, rfl, hcenturies, hmillennia⟩

end Date

end Calendrics
