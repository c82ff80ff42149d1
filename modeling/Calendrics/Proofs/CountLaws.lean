import Calendrics.Proofs.Orders
import Calendrics.Proofs.WholeMonths

/-!
# Laws of counts

A count of a unit looks at one number of each date, its *position*: the day number for days and
weeks, the packed number of month and day for months and the units made of years, the number of the
era for eras. It divides the difference of the positions by the *width* of the unit, toward zero.

Nothing else is needed for the laws of counts. Rounding toward zero treats both directions alike,
which rounding down would not, and a larger difference never has a smaller quotient.

* `unitsUntil_eq_tdiv` — **a count is a rounded difference of positions**, for every unit;
* `position_mono` — later dates have later positions;
* `unitsUntil_swap`, `unitsUntil_mono`, `unitsUntil_anti` — counts change their sign with the
  direction, grow with the end and fall with the start;
* `unitsUntil_antisymm_mono` — **counts are antisymmetric and monotone**, and days add up.
-/

namespace Calendrics

variable {a b c : Date}

/-! ## Positions -/

namespace TimeUnit

/-- The number of a date that counts of a unit look at. -/
def position (unit : TimeUnit) (d : Date) : Int :=
  match unit.stride with
  | some (.days _) => d.epochDay
  | some (.months _) => d.packedMonthDay
  | none => d.era.value

/-- How far positions advance with one whole unit. -/
def width (unit : TimeUnit) : Int :=
  match unit.stride with
  | some (.days k) => k
  | some (.months k) => Date.packingFactor * k
  | none => 1

/-- A unit has some width. -/
theorem width_pos (unit : TimeUnit) : 0 < unit.width := by
  cases unit <;> decide

end TimeUnit

namespace Date

/-- Later dates are not in earlier years. -/
theorem year_le_of_le (h : a ≤ b) : a.year ≤ b.year := by
  have hc := chronology_eq_of_le h
  rcases (le_iff hc).mp h with hlt | rfl
  · have := (lt_iff hc).mp hlt
    omega
  · exact Int.le_refl _

/-- **Later dates have later positions**, whatever the unit. -/
theorem position_mono (unit : TimeUnit) (h : a ≤ b) : unit.position a ≤ unit.position b := by
  have hc := chronology_eq_of_le h
  simp only [TimeUnit.position]
  split
  · exact (isKey_epochDay.le_iff hc).mp h
  · exact (isKey_packedMonthDay.le_iff hc).mp h
  · exact Era.value_mono (year_le_of_le h)

/-! ## Counts by positions -/

/-- A count of eras is a difference of their numbers. -/
theorem unitsUntil_of_eras (hc : a.chronology = b.chronology) :
    a.unitsUntil b .eras = .ok (b.era.value - a.era.value) := by
  rw [unitsUntil, requireChronology, if_pos hc]
  rfl

/-- **A count is a rounded difference of positions**, for every unit. -/
theorem unitsUntil_eq_tdiv (unit : TimeUnit) (hc : a.chronology = b.chronology) :
    a.unitsUntil b unit = .ok ((unit.position b - unit.position a).tdiv unit.width) := by
  by_cases hu : unit = .eras
  · rw [hu, unitsUntil_of_eras hc]
    exact congrArg Except.ok (Int.tdiv_one _).symm
  · rcases TimeUnit.stride_cases hu with ⟨k, hk⟩ | ⟨k, hk⟩
    · simp only [unitsUntil_of_days hc hk, daysUntil, TimeUnit.position, TimeUnit.width, hk]
    · simp only [unitsUntil_of_months hc hk, monthsUntil, TimeUnit.position, TimeUnit.width, hk]
      rw [tdiv_tdiv _ (show 0 ≤ packingFactor by decide)]

/-! ## The laws -/

/-- Whole months change their sign with the direction. -/
theorem monthsUntil_swap (a b : Date) : b.monthsUntil a = -a.monthsUntil b := by
  rw [monthsUntil, monthsUntil, ← Int.neg_tdiv, Int.neg_sub]

/-- **A count changes its sign with the direction.** -/
theorem unitsUntil_swap (unit : TimeUnit) (hc : a.chronology = b.chronology) :
    ∃ n, a.unitsUntil b unit = .ok n ∧ b.unitsUntil a unit = .ok (-n) := by
  refine ⟨_, unitsUntil_eq_tdiv unit hc, ?_⟩
  rw [unitsUntil_eq_tdiv unit hc.symm, ← Int.neg_tdiv, Int.neg_sub]

/-- **A count grows with the end.** -/
theorem unitsUntil_mono (unit : TimeUnit) (hc : a.chronology = b.chronology) (h : b ≤ c) :
    ∃ m n, a.unitsUntil b unit = .ok m ∧ a.unitsUntil c unit = .ok n ∧ m ≤ n := by
  have hc' := hc.trans (chronology_eq_of_le h)
  refine ⟨_, _, unitsUntil_eq_tdiv unit hc, unitsUntil_eq_tdiv unit hc', ?_⟩
  exact Int.tdiv_le_tdiv unit.width_pos (Int.sub_le_sub_right (position_mono unit h) _)

/-- **A count falls with the start.** -/
theorem unitsUntil_anti (unit : TimeUnit) (hc : a.chronology = b.chronology) (h : b ≤ c) :
    ∃ m n, b.unitsUntil a unit = .ok m ∧ c.unitsUntil a unit = .ok n ∧ n ≤ m := by
  have hc' := hc.trans (chronology_eq_of_le h)
  refine ⟨_, _, unitsUntil_eq_tdiv unit hc.symm, unitsUntil_eq_tdiv unit hc'.symm, ?_⟩
  exact Int.tdiv_le_tdiv unit.width_pos (Int.sub_le_sub_left (position_mono unit h) _)

/-- A count of days is a difference of day numbers. -/
theorem unitsUntil_days (hc : a.chronology = b.chronology) :
    a.unitsUntil b .days = .ok (b.epochDay - a.epochDay) := by
  rw [unitsUntil_of_days hc rfl, Int.tdiv_one, daysUntil]

/-- Days add up. -/
theorem unitsUntil_days_add (hab : a.chronology = b.chronology)
    (hbc : b.chronology = c.chronology) :
    ∃ m n, a.unitsUntil b .days = .ok m ∧ b.unitsUntil c .days = .ok n ∧
      a.unitsUntil c .days = .ok (m + n) := by
  refine ⟨_, _, unitsUntil_days hab, unitsUntil_days hbc, ?_⟩
  rw [unitsUntil_days (hab.trans hbc)]
  congr 1
  omega

/-- **Counts are antisymmetric and monotone.** Between two dates of one chronology there is a count
of every unit, eras included, and in the other direction it is the same with the other sign. To a
later end no fewer units are counted, and from a later start no more. The days between three dates
add up. -/
theorem unitsUntil_antisymm_mono (a b c : Date) (unit : TimeUnit)
    (hab : a.chronology = b.chronology) (hbc : b.chronology = c.chronology) :
    (∃ n, a.unitsUntil b unit = .ok n ∧ b.unitsUntil a unit = .ok (-n)) ∧
    (b ≤ c → ∃ m n, a.unitsUntil b unit = .ok m ∧ a.unitsUntil c unit = .ok n ∧ m ≤ n) ∧
    (b ≤ c → ∃ m n, b.unitsUntil a unit = .ok m ∧ c.unitsUntil a unit = .ok n ∧ n ≤ m) ∧
    (∃ m n, a.unitsUntil b .days = .ok m ∧ b.unitsUntil c .days = .ok n ∧
      a.unitsUntil c .days = .ok (m + n)) :=
  ⟨unitsUntil_swap unit hab, unitsUntil_mono unit hab, unitsUntil_anti unit hab,
    unitsUntil_days_add hab hbc⟩

/-- Across year zero: from 31 March of year 5 back to 28 February of year -5 there are 121 months,
which are ten whole years and not eleven, and ten again in the other direction; to 1 April of year -5
there are no more. -/
theorem unitsUntil_antisymm_mono_across_zero :
    (Chronology.iso = .iso ∧
      (⟨⟨-5, 2, 28⟩, .iso, by decide⟩ : Date) ≤ ⟨⟨-5, 4, 1⟩, .iso, by decide⟩) ∧
    (unitsUntil ⟨⟨5, 3, 31⟩, .iso, by decide⟩ ⟨⟨-5, 2, 28⟩, .iso, by decide⟩ .years = .ok (-10) ∧
      unitsUntil ⟨⟨-5, 2, 28⟩, .iso, by decide⟩ ⟨⟨5, 3, 31⟩, .iso, by decide⟩ .years =
        .ok (- -10)) ∧
    (∃ n, unitsUntil ⟨⟨5, 3, 31⟩, .iso, by decide⟩ ⟨⟨-5, 4, 1⟩, .iso, by decide⟩ .years = .ok n ∧
      -10 ≤ n) ∧
    ∃ n, unitsUntil ⟨⟨-5, 4, 1⟩, .iso, by decide⟩ ⟨⟨5, 3, 31⟩, .iso, by decide⟩ .years = .ok n ∧
      n ≤ 10 := by
  have hle : (⟨⟨-5, 2, 28⟩, .iso, by decide⟩ : Date) ≤ ⟨⟨-5, 4, 1⟩, .iso, by decide⟩ := by decide
  obtain ⟨⟨n, hn, hback⟩, hmono, hanti, -⟩ := unitsUntil_antisymm_mono ⟨⟨5, 3, 31⟩, .iso, by decide⟩
    ⟨⟨-5, 2, 28⟩, .iso, by decide⟩ ⟨⟨-5, 4, 1⟩, .iso, by decide⟩ .years rfl rfl
  obtain rfl : -10 = n := Except.ok.inj hn
  obtain ⟨m, later, hm, hlater, hle₁⟩ := hmono hle
  obtain rfl : -10 = m := Except.ok.inj hm
  obtain ⟨m', later', hm', hlater', hle₂⟩ := hanti hle
  obtain rfl : 10 = m' := Except.ok.inj hm'
  exact ⟨⟨rfl, hle⟩, ⟨hn, hback⟩, ⟨later, hlater, hle₁⟩, later', hlater', hle₂⟩

end Date

end Calendrics
