import Calendrics.ValueRange

/-!
# Eras

Years are split in two eras at year one. The years of the common era count up from 1 at year one;
those before it count up from 1 at year zero, backwards.
-/

namespace Calendrics

/-- One of the two eras. -/
inductive Era where
  /-- the years up to and including year zero -/
  | beforeCommon
  /-- the years from year one on -/
  | common
deriving DecidableEq

namespace Era

/-- Both eras, the earlier first. -/
def all : List Era := [beforeCommon, common]

/-- The usual abbreviation. -/
def name : Era → String
  | beforeCommon => "BCE"
  | common => "CE"

/-- The number of an era: 0 before year one, 1 from then on. -/
def value : Era → Int
  | beforeCommon => 0
  | common => 1

/-- The numbers that eras have. -/
def valueRange : ValueRange where
  min := 0
  max := 1

/-- The era of a year. -/
def ofYear (year : Int) : Era :=
  if 1 ≤ year then common else beforeCommon

/-- The era with a given number. -/
def ofValue (value : Int) : Except CalendarError Era :=
  if value = 0 then .ok beforeCommon
  else if value = 1 then .ok common
  else .error (valueRange.refusal .era value)

/-- The year counted within its era. -/
def yearOfEra (year : Int) : Int :=
  if 1 ≤ year then year else 1 - year

/-- The year with a given number in an era: the inverse of counting within the era. -/
def year (era : Era) (yearOfEra : Int) : Int :=
  match era with
  | beforeCommon => 1 - yearOfEra
  | common => yearOfEra

/-- **An era and a year of it give back the year.** -/
theorem year_ofYear_yearOfEra (y : Int) : (ofYear y).year (yearOfEra y) = y := by
  unfold ofYear yearOfEra
  split
  · rfl
  · simp only [year]
    omega

/-- The year with a number in an era is in that era. -/
theorem ofYear_year (e : Era) {n : Int} (h : 1 ≤ n) : ofYear (e.year n) = e := by
  cases e with
  | beforeCommon => exact if_neg (show ¬1 ≤ 1 - n by omega)
  | common => exact if_pos h

/-- It has that number there. -/
theorem yearOfEra_year (e : Era) {n : Int} (h : 1 ≤ n) : yearOfEra (e.year n) = n := by
  cases e with
  | beforeCommon =>
    rw [year, yearOfEra, if_neg (by omega)]
    omega
  | common => exact if_pos h

/-- The number of an era is read as that era. -/
theorem ofValue_value (e : Era) : ofValue e.value = .ok e := by
  cases e <;> rfl

/-- Different eras have different numbers. -/
theorem value_inj {e e' : Era} (h : e.value = e'.value) : e = e' := by
  have hread := e.ofValue_value
  rw [h, ofValue_value] at hread
  exact (Except.ok.inj hread).symm

/-- They have different names, too. -/
theorem name_inj {e e' : Era} : e.name = e'.name ↔ e = e' := by
  cases e <;> cases e' <;> decide

/-- Later years are in eras with no smaller numbers. -/
theorem value_mono {y z : Int} (h : y ≤ z) : (ofYear y).value ≤ (ofYear z).value := by
  by_cases hy : 1 ≤ y
  · have hz : 1 ≤ z := Int.le_trans hy h
    simp [ofYear, hy, hz]
  · rw [ofYear, if_neg hy, ofYear]
    split <;> decide

/-- Every number in the range is that of an era. -/
theorem exists_value_eq {v : Int} (h : v ∈ valueRange) : ∃ e : Era, e.value = v := by
  obtain ⟨h₀, h₁⟩ : 0 ≤ v ∧ v ≤ 1 := h
  rcases Int.lt_or_eq_of_le h₁ with hlt | rfl
  · obtain rfl : v = 0 := by omega
    exact ⟨beforeCommon, rfl⟩
  · exact ⟨common, rfl⟩

/-- There are only two eras, so of two different ones a third is either. -/
theorem eq_iff_ne {a b e : Era} (h : a ≠ b) : e = a ↔ e ≠ b := by
  cases a <;> cases b <;> cases e <;> simp at h ⊢

/-- An era and a year of it tell years apart. -/
theorem year_unique {y z : Int} (hera : (ofYear y).value = (ofYear z).value)
    (hyear : yearOfEra y = yearOfEra z) : y = z := by
  rw [← year_ofYear_yearOfEra y, ← year_ofYear_yearOfEra z, value_inj hera, hyear]

/-- Years with one number in different eras are mirror images: 1 and 0, 2 and -1 and so on. -/
theorem year_mirror {y z : Int} (hera : (ofYear y).value ≠ (ofYear z).value)
    (hyear : yearOfEra y = yearOfEra z) : y = 1 - z := by
  unfold ofYear yearOfEra at *
  by_cases hy : 1 ≤ y <;> by_cases hz : 1 ≤ z <;> simp [hy, hz] at hera hyear <;> omega

/-- Years of an era count from 1. -/
theorem one_le_yearOfEra (y : Int) : 1 ≤ yearOfEra y := by
  unfold yearOfEra
  split <;> omega

end Era

end Calendrics
