import Calendrics.Proofs.Strides

/-!
# One order

Dates of one chronology are compared by year, month and day. There are other ways to say which of
two dates is earlier: the one with the smaller day number, the one with the smaller packed number,
the one from which the days to the other are counted forward. They all say the same.

A number attached to dates is a *key* if earlier dates have smaller numbers; one lemma
(`IsKey.compare?_eq`) turns that into agreement on all three outcomes of a comparison, and another
(`IsKey.le_iff`) into an order that includes equality.

* `isKey_epochDay`, `isKey_packedMonthDay` — day numbers and packed numbers are keys;
* `orders_coincide` — **all comparisons have one outcome**, and across chronologies there is none.
-/

namespace Calendrics.Date

variable {a b : Date} {key : Date → Int}

/-! ## Keys -/

/-- Earlier dates of a chronology have smaller numbers, and only they. -/
def IsKey (key : Date → Int) : Prop :=
  ∀ a b : Date, a.chronology = b.chronology → (a < b ↔ key a < key b)

/-- Compared the other way round, dates have the opposite outcome. -/
theorem compare?_swap (a b : Date) : (a.compare? b).map Ordering.swap = b.compare? a := by
  by_cases hc : a.chronology = b.chronology
  · rw [compare?, compare?, if_pos hc, if_pos hc.symm, Option.map_some, Ordering.swap_then,
      Ordering.swap_then, Int.compare_swap, Int.compare_swap, Int.compare_swap]
  · rw [compare?, compare?, if_neg hc, if_neg (Ne.symm hc), Option.map_none]

/-- A later date compares as greater. -/
theorem compare?_eq_gt_iff : a.compare? b = some .gt ↔ b < a := by
  change _ ↔ b.compare? a = some .lt
  rw [← compare?_swap a b]
  rcases a.compare? b with _ | (_ | _ | _) <;> decide

/-- **A key compares as the dates do**, on all three outcomes. -/
theorem IsKey.compare?_eq (h : IsKey key) (hc : a.chronology = b.chronology) :
    a.compare? b = some (compare (key a) (key b)) := by
  rcases lt_trichotomy (key a) (key b) with hlt | heq | hgt
  · rw [Int.compare_eq_lt.mpr hlt]
    exact (h a b hc).mpr hlt
  · -- neither date is earlier, and there is no fourth outcome
    have hlt : a.compare? b ≠ some .lt := fun hab => absurd ((h a b hc).mp hab) (by omega)
    have hgt : a.compare? b ≠ some .gt := fun hab =>
      absurd ((h b a hc.symm).mp (compare?_eq_gt_iff.mp hab)) (by omega)
    rw [Int.compare_eq_eq.mpr heq]
    rw [compare?, if_pos hc] at hlt hgt ⊢
    generalize (compare a.year b.year).then _ = outcome at *
    cases outcome with
    | lt => exact absurd rfl hlt
    | eq => rfl
    | gt => exact absurd rfl hgt
  · rw [Int.compare_eq_gt.mpr hgt]
    exact compare?_eq_gt_iff.mpr ((h b a hc.symm).mpr hgt)

/-- Dates are ordered as their keys, equality included. -/
theorem IsKey.le_iff (h : IsKey key) (hc : a.chronology = b.chronology) :
    a ≤ b ↔ key a ≤ key b := by
  rw [le_iff_epochDay_le hc, ← Int.not_lt, ← lt_iff_epochDay_lt hc.symm, h b a hc.symm, Int.not_lt]

/-- **Day numbers are a key.** -/
theorem isKey_epochDay : IsKey epochDay :=
  fun _ _ => lt_iff_epochDay_lt

/-- **Packed numbers are a key**: no month has as many days as the packing factor. -/
theorem isKey_packedMonthDay : IsKey packedMonthDay := by
  intro a b hc
  have ha := a.chronology.monthLength_bounds a.prolepticMonth
  have hb := b.chronology.monthLength_bounds b.prolepticMonth
  have ha₁ := a.isDate.one_le_day
  have ha₂ := a.day_le_monthLength
  have hb₁ := b.isDate.one_le_day
  have hb₂ := b.day_le_monthLength
  rw [lt_iff_month_day hc]
  simp only [packedMonthDay, packingFactor]
  omega

/-! ## Comparisons agree -/

/-- A difference compares with zero as its two numbers compare. -/
theorem compare_sub_zero (m n : Int) : compare (m - n) 0 = compare m n := by
  rcases lt_trichotomy m n with h | h | h
  · rw [Int.compare_eq_lt.mpr h, Int.compare_eq_lt.mpr (by omega)]
  · rw [Int.compare_eq_eq.mpr h, Int.compare_eq_eq.mpr (by omega)]
  · rw [Int.compare_eq_gt.mpr h, Int.compare_eq_gt.mpr (by omega)]

/-- **All comparisons have one outcome.** Dates of one chronology compare as their day numbers, as
their packed numbers, and as the days from the second to the first compare with zero; and they
compare as equal exactly if they are. Dates of different chronologies do not compare and are not
equal, whatever days they name. -/
theorem orders_coincide (a b : Date) :
    (a.chronology = b.chronology →
      ∃ outcome, a.compare? b = some outcome ∧
        compare a.epochDay b.epochDay = outcome ∧
        compare a.packedMonthDay b.packedMonthDay = outcome ∧
        (∃ days, b.unitsUntil a .days = .ok days ∧ compare days 0 = outcome) ∧
        (outcome = .eq ↔ a = b)) ∧
    (a.chronology ≠ b.chronology → a.compare? b = none ∧ a ≠ b) := by
  refine ⟨fun hc => ?_, fun hc => ⟨if_neg hc, ?_⟩⟩
  · have hpacked := (isKey_packedMonthDay.compare?_eq hc).symm
    have hdays : b.unitsUntil a .days = .ok (a.epochDay - b.epochDay) := by
      rw [unitsUntil_of_days hc.symm rfl, Int.tdiv_one, daysUntil]
    have hequal := compare?_eq_eq_iff hc
    rw [isKey_epochDay.compare?_eq hc, Option.some.injEq] at hpacked hequal
    refine ⟨_, isKey_epochDay.compare?_eq hc, rfl, hpacked, ⟨_, hdays, ?_⟩, hequal⟩
    exact compare_sub_zero a.epochDay b.epochDay
  · rintro rfl
    exact hc rfl

/-- Across the end of the leap February of year zero; and one day that has a date in two
chronologies. -/
theorem orders_coincide_february :
    (compare? ⟨⟨0, 2, 29⟩, .iso, by decide⟩ ⟨⟨0, 3, 1⟩, .iso, by decide⟩ = some .lt ∧
      compare (Chronology.iso.epochDay ⟨0, 2, 29⟩) (Chronology.iso.epochDay ⟨0, 3, 1⟩) = .lt) ∧
    Chronology.iso.epochDay ⟨1970, 1, 14⟩ = Chronology.julian.epochDay ⟨1970, 1, 1⟩ ∧
      compare? ⟨⟨1970, 1, 14⟩, .iso, by decide⟩ ⟨⟨1970, 1, 1⟩, .julian, by decide⟩ = none := by
  obtain ⟨outcome, hfields, hnumbers, -⟩ :=
    (orders_coincide ⟨⟨0, 2, 29⟩, .iso, by decide⟩ ⟨⟨0, 3, 1⟩, .iso, by decide⟩).1 rfl
  obtain rfl : outcome = .lt := Option.some.inj (hfields.symm.trans rfl)
  have hnone := (orders_coincide ⟨⟨1970, 1, 14⟩, .iso, by decide⟩
    ⟨⟨1970, 1, 1⟩, .julian, by decide⟩).2 (by decide)
  exact ⟨⟨hfields, hnumbers⟩, by decide, hnone.1⟩

end Calendrics.Date
