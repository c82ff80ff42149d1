import Calendrics.Months
import Calendrics.YearMonthDay

/-!
# Day numbers of calendars with years of one length

Where every year has the same months, day numbers are affine in the year: the days of the years
since 1970, the days of the months passed, and the days of the month. Finding the date of a number
divides by the length of the year and then walks through the months until the rest fits.

The months are given by the list of their lengths. The walk recurses on that list; it never gets
to the end of it, because the rest it starts with is smaller than the total of the lengths.
-/

namespace Calendrics.FixedYear

/-- The number of the day with a given date, where a year has months of the given lengths. -/
def epochDay (months : List Int) (t : YearMonthDay) : Int :=
  (t.year - 1970) * Months.total months + Months.before months t.month + t.day - 1

/-- The month and the day of the month, both from 1, of day `n` of the year, from 0. -/
def walk : List Int → Int → Int × Int
  | [], n => (1, n + 1)
  | length :: rest, n =>
    if n < length then (1, n + 1)
    else
      let r := walk rest (n - length)
      (r.1 + 1, r.2)

/-- The date of the day with a given number. -/
def ofEpochDay (months : List Int) (e : Int) : YearMonthDay :=
  let r := walk months (e % Months.total months)
  ⟨e / Months.total months + 1970, r.1, r.2⟩

/-- **The walk ends inside the list.** It stops at a month of the list, on a day that the month
has, and the months before that one together with the day make up what it started with. -/
theorem walk_spec (months : List Int) {n : Int} (h₀ : 0 ≤ n) (h₁ : n < Months.total months) :
    1 ≤ (walk months n).1 ∧ (walk months n).1 ≤ months.length ∧ 1 ≤ (walk months n).2 ∧
      (walk months n).2 ≤ Months.lengthOf months (walk months n).1 ∧
      Months.before months (walk months n).1 + (walk months n).2 = n + 1 := by
  induction months generalizing n with
  | nil =>
    simp only [Months.total_nil] at h₁
    omega
  | cons length rest ih =>
    simp only [Months.total_cons] at h₁
    by_cases h : n < length
    · simp only [walk, if_pos h, List.length_cons, Months.lengthOf_first, Months.before_first]
      omega
    · obtain ⟨h₂, h₃, h₄, h₅, h₆⟩ := ih (n := n - length) (by omega) (by omega)
      simp only [walk, if_neg h, List.length_cons, Months.lengthOf_cons_succ _ _ h₂,
        Months.before_cons_succ _ _ h₂]
      exact ⟨by omega, by omega, h₄, h₅, by omega⟩

/-- **Finding the date of a day number keeps the number.** -/
theorem epochDay_ofEpochDay {months : List Int} (h : 0 < Months.total months) (e : Int) :
    epochDay months (ofEpochDay months e) = e := by
  obtain ⟨-, -, -, -, h₁⟩ :=
    walk_spec months (Int.emod_nonneg e (Int.ne_of_gt h)) (Int.emod_lt_of_pos e h)
  have h₂ := Int.mul_ediv_add_emod e (Months.total months)
  simp only [epochDay, ofEpochDay]
  rw [Int.mul_comm] at h₂
  rw [show e / Months.total months + 1970 - 1970 = e / Months.total months by omega]
  omega

end Calendrics.FixedYear
