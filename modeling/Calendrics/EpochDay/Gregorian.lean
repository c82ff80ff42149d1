import Calendrics.EpochDay.MarchYear

/-!
# Day numbers of the Gregorian calendar

The Gregorian calendar repeats every 400 years of 146097 days. A cycle begins on 1 March of a year
divisible by 400; the March years of a cycle are numbered from 0 to 399, and March year `y` of a
cycle begins `daysBeforeYear y` days after it. Day 0 is 1 January 1970, which is 719468 days after
1 March of year zero.

`Gregorian.epochDay` numbers the days and `Gregorian.ofEpochDay` finds the date of a number. The
latter has to estimate the March year from the day of the cycle: dividing by 365 counts too many
years, because leap days pile up, and the estimate first takes away the leap days passed.

The lemmas split a day of a cycle into centuries, spans of four years, years and days
(`exists_decomposition`); all facts about the estimate are linear in these.
-/

namespace Calendrics.Gregorian

/-- Days of a cycle before its March year `y`. -/
def daysBeforeYear (y : Int) : Int :=
  y * 365 + y / 4 - y / 100

/-- The number of the day with a given date. -/
def epochDay (t : YearMonthDay) : Int :=
  let y := MarchYear.ofDate t.year t.month
  y / 400 * 146097 + (daysBeforeYear (y % 400) + MarchYear.dayOf t.month t.day) - 719468

/-- The March year of a day `n` of a cycle: the days are first thinned out by the leap days that
end each span of four years, each century but the last, and the cycle. -/
def yearOfCycle (n : Int) : Int :=
  (n - n / 1460 + n / 36524 - n / 146096) / 365

/-- The date of the day with a given number. -/
def ofEpochDay (e : Int) : YearMonthDay :=
  let cycle := (e + 719468) / 146097
  let n := (e + 719468) % 146097
  let y := yearOfCycle n
  MarchYear.toDate (cycle * 400 + y) (n - daysBeforeYear y)

/-! ## The days of one cycle -/

/-- Every day of a cycle is a day `t` of year `k` of span `q` of century `c`. Only the last year
of a span has a 366th day, and only the last century has one in its last span. -/
theorem exists_decomposition {n : Int} (h₀ : 0 ≤ n) (h₁ : n < 146097) :
    ∃ c q k t : Int, n = 36524 * c + 1461 * q + 365 * k + t ∧ 0 ≤ c ∧ c ≤ 3 ∧ 0 ≤ q ∧ q ≤ 24 ∧
      0 ≤ k ∧ k ≤ 3 ∧ 0 ≤ t ∧ t ≤ 365 ∧ (t = 365 → k = 3 ∧ (q = 24 → c = 3)) := by
  obtain ⟨c, hc⟩ : ∃ c : Int, c = min (n / 36524) 3 := ⟨_, rfl⟩
  obtain ⟨r, hr⟩ : ∃ r : Int, r = n - 36524 * c := ⟨_, rfl⟩
  have hr₀ : 0 ≤ r ∧ r ≤ 36524 ∧ (r = 36524 → c = 3) ∧ 0 ≤ c ∧ c ≤ 3 := by omega
  obtain ⟨q, hq⟩ : ∃ q : Int, q = r / 1461 := ⟨_, rfl⟩
  obtain ⟨s, hs⟩ : ∃ s : Int, s = r - 1461 * q := ⟨_, rfl⟩
  have hs₀ : 0 ≤ s ∧ s ≤ 1460 ∧ 0 ≤ q ∧ q ≤ 24 := by omega
  obtain ⟨k, hk⟩ : ∃ k : Int, k = min (s / 365) 3 := ⟨_, rfl⟩
  refine ⟨c, q, k, s - 365 * k, by omega, ?_⟩
  have hk₀ : 0 ≤ k ∧ k ≤ 3 ∧ 0 ≤ s - 365 * k ∧ s - 365 * k ≤ 365 ∧
      (s - 365 * k = 365 → k = 3) := by omega
  obtain ⟨hk₁, hk₂, hk₃, hk₄, hk₅⟩ := hk₀
  refine ⟨by omega, by omega, by omega, by omega, hk₁, hk₂, hk₃, hk₄, fun h => ⟨hk₅ h, ?_⟩⟩
  intro hq₀
  have := hk₅ h
  omega

/-- In terms of centuries, spans and years, the days before a year of a cycle are linear. -/
theorem daysBeforeYear_eq {c q k : Int} (hq₀ : 0 ≤ q) (hq₁ : q ≤ 24)
    (hk₀ : 0 ≤ k) (hk₁ : k ≤ 3) :
    daysBeforeYear (100 * c + 4 * q + k) = 36524 * c + 1461 * q + 365 * k := by
  have h₁ : (100 * c + 4 * q + k) / 4 = 25 * c + q := by omega
  have h₂ : (100 * c + 4 * q + k) / 100 = c := by omega
  unfold daysBeforeYear
  rw [h₁, h₂]
  omega

/-- The estimate finds the year of every day of a cycle. -/
theorem yearOfCycle_eq {c q k t : Int} (hc₀ : 0 ≤ c) (hc₁ : c ≤ 3) (hq₀ : 0 ≤ q) (hq₁ : q ≤ 24)
    (hk₀ : 0 ≤ k) (hk₁ : k ≤ 3) (ht₀ : 0 ≤ t) (ht₁ : t ≤ 365)
    (ht : t = 365 → k = 3 ∧ (q = 24 → c = 3)) :
    yearOfCycle (36524 * c + 1461 * q + 365 * k + t) = 100 * c + 4 * q + k := by
  obtain ⟨n, hn⟩ : ∃ n : Int, n = 36524 * c + 1461 * q + 365 * k + t := ⟨_, rfl⟩
  rw [← hn]
  -- the leap days of the spans passed
  have h₁ : n / 1460 = 25 * c + q + (if 1460 ≤ 24 * c + q + 365 * k + t then 1 else 0) := by
    split <;> omega
  -- the last day of the cycle ends a century and the cycle
  have h₂ : n / 36524 = c + n / 146096 := by
    by_cases hlast : n = 146096
    · have : c = 3 := by omega
      omega
    · have : n < 36524 * (c + 1) := by
        by_cases hc : c = 3
        · omega
        · by_cases h365 : t = 365
          · have := (ht h365).2
            omega
          · omega
      omega
  unfold yearOfCycle
  rw [h₁, h₂]
  by_cases h365 : t = 365
  · have := (ht h365).1
    split <;> omega
  · split <;> omega

/-- **What the estimate yields.** A day of a cycle is one of at most 366 days of its March year,
and it is the 366th only if the year after that March year's beginning is a leap year. -/
theorem yearOfCycle_bounds {n : Int} (h₀ : 0 ≤ n) (h₁ : n < 146097) :
    0 ≤ yearOfCycle n ∧ yearOfCycle n ≤ 399 ∧ 0 ≤ n - daysBeforeYear (yearOfCycle n) ∧
      n - daysBeforeYear (yearOfCycle n) ≤ 365 ∧
      (n - daysBeforeYear (yearOfCycle n) = 365 → yearOfCycle n % 4 = 3 ∧
        (yearOfCycle n % 100 = 99 → yearOfCycle n = 399)) := by
  obtain ⟨c, q, k, t, rfl, hc₀, hc₁, hq₀, hq₁, hk₀, hk₁, ht₀, ht₁, ht⟩ :=
    exists_decomposition h₀ h₁
  rw [yearOfCycle_eq hc₀ hc₁ hq₀ hq₁ hk₀ hk₁ ht₀ ht₁ ht,
    daysBeforeYear_eq hq₀ hq₁ hk₀ hk₁]
  refine ⟨by omega, by omega, by omega, by omega, fun h => ?_⟩
  obtain ⟨h₂, h₃⟩ := ht (by omega)
  refine ⟨by omega, fun h => ?_⟩
  have := h₃ (by omega)
  omega

/-! ## The date of a day number -/

/-- **Finding the date of a day number keeps the number.** -/
theorem epochDay_ofEpochDay (e : Int) : epochDay (ofEpochDay e) = e := by
  have h₀ : 0 ≤ (e + 719468) % 146097 := Int.emod_nonneg _ (by decide)
  have h₁ : (e + 719468) % 146097 < 146097 := Int.emod_lt_of_pos _ (by decide)
  obtain ⟨hy₀, hy₁, hd₀, hd₁, -⟩ := yearOfCycle_bounds h₀ h₁
  simp only [epochDay, ofEpochDay]
  rw [MarchYear.ofDate_toDate _ hd₀ hd₁, MarchYear.dayOf_toDate _ hd₀ hd₁]
  generalize yearOfCycle ((e + 719468) % 146097) = y at *
  have h₂ : ((e + 719468) / 146097 * 400 + y) / 400 = (e + 719468) / 146097 := by omega
  have h₃ : ((e + 719468) / 146097 * 400 + y) % 400 = y := by omega
  rw [h₂, h₃]
  omega

end Calendrics.Gregorian
