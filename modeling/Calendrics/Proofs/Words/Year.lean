import Calendrics.Proofs.DayCount
import Calendrics.Proofs.Words.Arithmetic

/-!
# The year in words

The lengths of months and years, calculated in words: months are looked up in tables of thirteen
places, where place 0 stands for no month, and added up in 16 bits. A year can be any number, as
the leap rule takes only remainders; a month is one of twelve.

Remainders here have the sign of the year, as those of machine words do. This makes no difference
to whether they are zero (`isLeapYear_eq`).
-/

namespace Calendrics.Words

/-! ## The tables -/

/-- The month lengths of a common year. -/
def daysInMonth : List Int := [0, 31, 28, 31, 30, 31, 30, 31, 31, 30, 31, 30, 31]

/-- The month lengths of the 366-day calendar. -/
def daysInMonthAllLeap : List Int := [0, 31, 29, 31, 30, 31, 30, 31, 31, 30, 31, 30, 31]

/-- The month lengths of the 360-day calendar. -/
def daysInMonthUniform30 : List Int := [0, 30, 30, 30, 30, 30, 30, 30, 30, 30, 30, 30, 30]

/-- The table of a chronology. Those with leap days go by the one for common years. -/
def monthTable : Chronology → List Int
  | .iso | .julian | .noLeap => daysInMonth
  | .allLeap => daysInMonthAllLeap
  | .uniform30 => daysInMonthUniform30

/-! ## Calculations -/

/-- The leap rule. -/
def isLeapYear (c : Chronology) (year : Int) : Bool :=
  match c with
  | .iso => (year.tmod 4 = 0 ∧ year.tmod 100 ≠ 0) ∨ year.tmod 400 = 0
  | .julian => year.tmod 4 = 0
  | .allLeap => true
  | .noLeap | .uniform30 => false

/-- The length of a month where only February depends on the year. -/
def solarMonthLength (month : Int) (leap : Bool) : Checked Int :=
  if month = 2 ∧ leap = true then .ok 29 else lookup daysInMonth month

/-- The length of a month of a year. -/
def lengthOfMonth (c : Chronology) (year month : Int) : Checked Int :=
  match c with
  | .iso | .julian => solarMonthLength month (isLeapYear c year)
  | .noLeap | .allLeap | .uniform30 => lookup (monthTable c) month

/-- The longest that a month can be. -/
def maxLengthOfMonth (c : Chronology) (month : Int) : Checked Int :=
  match c with
  | .iso | .julian => solarMonthLength month true
  | .noLeap | .allLeap | .uniform30 => lookup (monthTable c) month

/-- The days of the first months of a year, added up from January on. -/
def daysOfMonths (c : Chronology) (year : Int) : Nat → Checked Int
  | 0 => .ok 0
  | k + 1 => do Word.u16.add (← daysOfMonths c year k) (← lengthOfMonth c year (k + 1))

/-- The days of a year before a month. -/
def daysBeforeMonth (c : Chronology) (year month : Int) : Checked Int :=
  daysOfMonths c year (month - 1).toNat

/-- The length of a year. -/
def lengthOfYear (c : Chronology) (year : Int) : Checked Int := do
  Word.u16.add (← daysBeforeMonth c year 12) (← lengthOfMonth c year 12)

/-- The length of every year, where all have the same: the sum of the table. -/
def daysPerYear (c : Chronology) : Checked Int :=
  (monthTable c).foldlM Word.i64.add 0

/-- The longest that a year can be. -/
def maxLengthOfYear (c : Chronology) : Checked Int :=
  match c with
  | .iso | .julian => .ok 366
  | .noLeap | .allLeap | .uniform30 => do Word.u16.hold (← daysPerYear c)

/-- The longest that any month can be. -/
def maxDayOfMonth (c : Chronology) : Checked Int :=
  [1, 2, 3, 4, 5, 6, 7, 8, 9, 10, 11, 12].foldlM
    (fun longest month => do return max longest (← maxLengthOfMonth c month)) 0

/-! ## They do not stop -/

/-- A remainder is zero with either sign. -/
theorem tmod_eq_zero_iff (n k : Int) : n.tmod k = 0 ↔ n % k = 0 := by
  rw [← Int.dvd_iff_tmod_eq_zero, Int.dvd_iff_emod_eq_zero]

/-- The sign of the remainders does not change the leap rule. -/
theorem isLeapYear_eq (c : Chronology) (year : Int) : isLeapYear c year = c.isLeapYear year := by
  cases c <;> simp only [isLeapYear, Chronology.isLeapYear, ne_eq, tmod_eq_zero_iff]

variable {c : Chronology} {year m : Int}

/-- The entries from place 1 on are the months, in their order. -/
theorem lookup_month {first : Int} {months : List Int} (h₁ : 1 ≤ m) (h₂ : m ≤ months.length) :
    lookup (first :: months) m = .ok (Months.lengthOf months m) := by
  have hplace : m.toNat = (m - 1).toNat + 1 := by omega
  have hlt : (m - 1).toNat < months.length := by omega
  rw [lookup, if_pos (by omega), hplace, List.getElem?_cons_succ, Months.lengthOf,
    List.getD_eq_getElem?_getD, List.getElem?_eq_getElem hlt]
  rfl

/-- In the solar calendars only February is not taken from the table. -/
theorem solarMonthLength_eq (h₁ : 1 ≤ m) (h₂ : m ≤ 12) (leap : Bool) :
    solarMonthLength m leap =
      .ok (Months.lengthOf (Chronology.solarMonths (if leap then 29 else 28)) m) := by
  rcases Chronology.month_cases h₁ h₂ with rfl | rfl | rfl | rfl | rfl | rfl | rfl | rfl | rfl |
    rfl | rfl | rfl <;> cases leap <;> rfl

/-- **Months are in the tables.** -/
theorem lengthOfMonth_eq (c : Chronology) (year : Int) (h₁ : 1 ≤ m) (h₂ : m ≤ 12) :
    lengthOfMonth c year m = .ok (c.lengthOfMonth year m) := by
  have hsolar := solarMonthLength_eq h₁ h₂ (isLeapYear c year)
  rw [isLeapYear_eq] at hsolar
  cases c with
  | iso => rwa [lengthOfMonth, isLeapYear_eq]
  | julian => rwa [lengthOfMonth, isLeapYear_eq]
  | noLeap => exact lookup_month h₁ h₂
  | allLeap => exact lookup_month h₁ h₂
  | uniform30 => exact lookup_month h₁ h₂

theorem maxLengthOfMonth_eq (c : Chronology) (h₁ : 1 ≤ m) (h₂ : m ≤ 12) :
    maxLengthOfMonth c m = .ok (c.longestMonth m) := by
  cases c with
  | iso => exact solarMonthLength_eq h₁ h₂ true
  | julian => exact solarMonthLength_eq h₁ h₂ true
  | noLeap => exact lookup_month h₁ h₂
  | allLeap => exact lookup_month h₁ h₂
  | uniform30 => exact lookup_month h₁ h₂

/-- The days of the first months add up in 16 bits. -/
theorem daysOfMonths_eq (c : Chronology) (year : Int) (k : Nat) (hk : k ≤ 12) :
    daysOfMonths c year k = .ok (c.daysBeforeMonth year (k + 1)) := by
  induction k with
  | zero => simp [daysOfMonths, Chronology.daysBeforeMonth]
  | succ k ih =>
    have hnext : ((k + 1 : Nat) : Int) + 1 = (k + 1 : Int) + 1 := by omega
    have hsum := c.daysBeforeMonth_succ year (show (1 : Int) ≤ k + 1 by omega)
    have hfits : c.daysBeforeMonth year (k + 1) + c.lengthOfMonth year (k + 1) ∈
        Word.u16.range := by
      have hbounds := c.daysBeforeMonth_bounds year (show 1 ≤ (k + 1 : Int) + 1 by omega) (by omega)
      rw [hsum] at hbounds
      rw [Word.mem_u16]
      omega
    rw [daysOfMonths, ih (by omega), Checked.ok_bind,
      lengthOfMonth_eq c year (by omega) (by omega),
      Checked.ok_bind, Word.add_of_mem hfits, hnext, hsum]

theorem daysBeforeMonth_eq (c : Chronology) (year : Int) (h₁ : 1 ≤ m) (h₂ : m ≤ 12) :
    daysBeforeMonth c year m = .ok (c.daysBeforeMonth year m) := by
  have hm : (((m - 1).toNat : Nat) : Int) + 1 = m := by omega
  rw [daysBeforeMonth, daysOfMonths_eq c year _ (by omega), hm]

/-- **Every year has a length**, whatever number it is. -/
theorem lengthOfYear_eq (c : Chronology) (year : Int) :
    lengthOfYear c year = .ok (c.lengthOfYear year) := by
  have hfits : c.daysBeforeMonth year 12 + c.lengthOfMonth year 12 ∈ Word.u16.range := by
    have hdays := c.daysBeforeMonth_bounds year (show (1 : Int) ≤ 12 by decide) (by decide)
    have hlength := c.lengthOfMonth_bounds year (show (1 : Int) ≤ 12 by decide) (by decide)
    rw [Word.mem_u16]
    omega
  rw [lengthOfYear, daysBeforeMonth_eq c year (by decide) (by decide), Checked.ok_bind,
    lengthOfMonth_eq c year (by decide) (by decide), Checked.ok_bind, Word.add_of_mem hfits,
    c.lengthOfYear_eq]

/-- Three chronologies have the same months in all years. -/
theorem fixedYear_cases (h₁ : c ≠ .iso) (h₂ : c ≠ .julian) :
    c = .noLeap ∨ c = .allLeap ∨ c = .uniform30 := by
  cases c with
  | iso => exact absurd rfl h₁
  | julian => exact absurd rfl h₂
  | noLeap => exact .inl rfl
  | allLeap => exact .inr (.inl rfl)
  | uniform30 => exact .inr (.inr rfl)

/-- The length of all years is that of the longest, where years have one length. -/
theorem daysPerYear_eq (h₁ : c ≠ .iso) (h₂ : c ≠ .julian) :
    daysPerYear c = .ok c.longestYear := by
  obtain rfl | rfl | rfl := fixedYear_cases h₁ h₂ <;> rfl

theorem maxLengthOfYear_eq (c : Chronology) : maxLengthOfYear c = .ok c.longestYear := by
  cases c <;> rfl

theorem maxDayOfMonth_eq (c : Chronology) : maxDayOfMonth c = .ok c.longestMonthOfAll := by
  cases c <;> rfl

end Calendrics.Words
