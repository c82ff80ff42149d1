import Calendrics.Proofs.FieldRanges
import Calendrics.Proofs.Words.Year

/-!
# Day numbers in words

Numbering the days and finding the date of a number, calculated in words: everything is in 64 bits,
but for the month and the day that are found, which are narrowed to 8 bits at the end.

The formulas go wrong for years and numbers near the limits of 64 bits. They are given supported
dates and numbers in the range of the day number only, which both stay below a billion years, and
for those nothing wraps:

* `toEpochDay_eq` — **the number of every supported date**;
* `fromEpochDay_eq` — **the date of every number in the range**;
* `walkMonths_drop` — the walk through the months, as a loop that reads the table by place.

The proofs calculate one step after the other: `simp` turns a step into its result, once `omega` has
shown from the bounds on the input that the result fits.
-/

namespace Calendrics.Words

/-! ## Calculations -/

/-- The day, from 0, of the March year. -/
def marchDayOfYear (month day : Int) : Checked Int := do
  let marchMonth := (← Word.i64.add month 9).tmod 12
  let before := (← Word.i64.add (← Word.i64.mul 153 marchMonth) 2).tdiv 5
  Word.i64.sub (← Word.i64.add before day) 1

/-- The month and the day of a day of the March year. -/
def monthDayFromMarchDay (marchDay : Int) : Checked (Int × Int) := do
  let marchMonth := (← Word.i64.add (← Word.i64.mul 5 marchDay) 2).tdiv 153
  let before := (← Word.i64.add (← Word.i64.mul 153 marchMonth) 2).tdiv 5
  let day ← Word.i64.add (← Word.i64.sub marchDay before) 1
  let month ← if marchMonth < 10 then Word.i64.add marchMonth 3 else Word.i64.sub marchMonth 9
  return (← Word.u8.hold month, ← Word.u8.hold day)

/-- The March year of a month of a year. -/
def marchYear (year month : Int) : Checked Int :=
  if month ≤ 2 then Word.i64.sub year 1 else .ok year

/-- The year of a month of a March year. -/
def yearOfMarchYear (marchYear month : Int) : Checked Int :=
  if month ≤ 2 then Word.i64.add marchYear 1 else .ok marchYear

/-- The days of a cycle of 400 years before one of its years. -/
def isoDaysBeforeYear (yearOfCycle : Int) : Checked Int := do
  let yearDays ← Word.i64.mul yearOfCycle 365
  Word.i64.sub (← Word.i64.add yearDays (yearOfCycle.tdiv 4)) (yearOfCycle.tdiv 100)

/-- The year of a day of a cycle of 400 years. -/
def isoYearOfCycle (dayOfCycle : Int) : Checked Int := do
  let lastDay ← Word.i64.sub 146097 1
  let thinned ← Word.i64.add (← Word.i64.sub dayOfCycle (dayOfCycle.tdiv 1460))
    (dayOfCycle.tdiv 36524)
  return (← Word.i64.sub thinned (dayOfCycle.tdiv lastDay)).tdiv 365

/-- The number of a day of the Gregorian calendar. -/
def isoToEpochDay (year month day : Int) : Checked Int := do
  let year ← marchYear year month
  -- the cycle is rounded down, also before year zero; what is divided after that is not negative
  let cycle := year / 400
  let yearOfCycle := year % 400
  let dayOfCycle ← Word.i64.add (← isoDaysBeforeYear yearOfCycle) (← marchDayOfYear month day)
  Word.i64.sub (← Word.i64.add (← Word.i64.mul cycle 146097) dayOfCycle) 719468

/-- The day of the Gregorian calendar with a number. -/
def isoFromEpochDay (e : Int) : Checked YearMonthDay := do
  let shifted ← Word.i64.add e 719468
  let cycle := shifted / 146097
  let dayOfCycle := shifted % 146097
  let yearOfCycle ← isoYearOfCycle dayOfCycle
  let marchDay ← Word.i64.sub dayOfCycle (← isoDaysBeforeYear yearOfCycle)
  let (month, day) ← monthDayFromMarchDay marchDay
  let year ← Word.i64.add (← Word.i64.mul cycle 400) yearOfCycle
  return ⟨← yearOfMarchYear year month, month, day⟩

/-- The year of a day of a cycle of four years. -/
def julianYearOfCycle (dayOfCycle : Int) : Checked Int := do
  let lastDay ← Word.i64.sub 1461 1
  return (← Word.i64.sub dayOfCycle (dayOfCycle.tdiv lastDay)).tdiv 365

/-- The number of a day of the Julian calendar. -/
def julianToEpochDay (year month day : Int) : Checked Int := do
  let year ← marchYear year month
  let cycle := year / 4
  let yearOfCycle := year % 4
  let dayOfCycle ← Word.i64.add (← Word.i64.mul yearOfCycle 365) (← marchDayOfYear month day)
  Word.i64.sub (← Word.i64.add (← Word.i64.mul cycle 1461) dayOfCycle) 719470

/-- The day of the Julian calendar with a number. -/
def julianFromEpochDay (e : Int) : Checked YearMonthDay := do
  let shifted ← Word.i64.add e 719470
  let cycle := shifted / 1461
  let dayOfCycle := shifted % 1461
  let yearOfCycle ← julianYearOfCycle dayOfCycle
  let marchDay ← Word.i64.sub dayOfCycle (← Word.i64.mul 365 yearOfCycle)
  let (month, day) ← monthDayFromMarchDay marchDay
  let year ← Word.i64.add (← Word.i64.mul cycle 4) yearOfCycle
  return ⟨← yearOfMarchYear year month, month, day⟩

/-- The number of a day, where all years have the same months. -/
def fixedToEpochDay (c : Chronology) (year month day : Int) : Checked Int := do
  let yearDays ← Word.i64.mul (← Word.i64.sub year 1970) (← daysPerYear c)
  let monthDays ← Word.i64.add yearDays (← daysBeforeMonth c year month)
  Word.i64.sub (← Word.i64.add monthDays day) 1

/-- Taking away the months of the rest of a table while they fit: the month that does not, and
what is left. The walk has to end before the table does. -/
def walkMonths : List Int → Int → Int → Checked (Int × Int)
  | [], month, _ => .error (.outside month)
  | length :: rest, month, dayOfYear =>
    if length ≤ dayOfYear then do
      let dayOfYear ← Word.i64.sub dayOfYear length
      let month ← Word.u8.add month 1
      walkMonths rest month dayOfYear
    else
      .ok (month, dayOfYear)

/-- The day with a number, where all years have the same months. -/
def fixedFromEpochDay (c : Chronology) (e : Int) : Checked YearMonthDay := do
  let perYear ← daysPerYear c
  let (month, rest) ← walkMonths ((monthTable c).drop 1) 1 (e % perYear)
  return ⟨← Word.i64.add (e / perYear) 1970, month, ← Word.u8.add (← Word.u8.hold rest) 1⟩

/-- The number of a day. -/
def toEpochDay (c : Chronology) (year month day : Int) : Checked Int :=
  match c with
  | .iso => isoToEpochDay year month day
  | .julian => julianToEpochDay year month day
  | .noLeap | .allLeap | .uniform30 => fixedToEpochDay c year month day

/-- The day with a number. -/
def fromEpochDay (c : Chronology) (e : Int) : Checked YearMonthDay :=
  match c with
  | .iso => isoFromEpochDay e
  | .julian => julianFromEpochDay e
  | .noLeap | .allLeap | .uniform30 => fixedFromEpochDay c e

/-- The numbers of the supported days. -/
def epochDayRange (c : Chronology) : Checked ValueRange := do
  let lastDay ← lengthOfMonth c maxYear 12
  newRange (← toEpochDay c minYear 1 1) (← toEpochDay c maxYear 12 lastDay)

/-! ## March years -/

variable {c : Chronology} {year m d e y n : Int}

/-- A day of a month is one of the first of its March year. -/
theorem dayOf_bounds (m : Int) (hd₁ : 1 ≤ d) (hd₂ : d ≤ 31) :
    0 ≤ MarchYear.dayOf m d ∧ MarchYear.dayOf m d ≤ 367 := by
  unfold MarchYear.dayOf MarchYear.daysBefore
  omega

theorem marchDayOfYear_eq (hm₁ : 1 ≤ m) (hm₂ : m ≤ 12) (hd₁ : 1 ≤ d) (hd₂ : d ≤ 31) :
    marchDayOfYear m d = .ok (MarchYear.dayOf m d) := by
  unfold marchDayOfYear
  simp (disch := first | omega | (rw [Word.mem_i64]; omega)) only [Checked.ok_bind,
    Word.add_of_mem, Word.sub_of_mem, Word.mul_of_mem, Int.tdiv_eq_ediv_of_nonneg,
    Int.tmod_eq_emod_of_nonneg]
  rfl

/-- The month and the day of a day of a March year fit in 8 bits. -/
theorem monthDayFromMarchDay_eq (y : Int) (h₀ : 0 ≤ n) (h₁ : n ≤ 365) :
    monthDayFromMarchDay n =
      .ok ((MarchYear.toDate y n).month, (MarchYear.toDate y n).day) := by
  obtain ⟨hm₁, hm₂, -⟩ := MarchYear.toDate_month y h₀ h₁
  obtain ⟨hd₁, hd₂⟩ := MarchYear.toDate_day y h₀ h₁
  have hmonth : (MarchYear.toDate y n).month ∈ Word.u8.range := by
    rw [Word.mem_u8]
    omega
  have hday : (MarchYear.toDate y n).day ∈ Word.u8.range := by
    rw [Word.mem_u8]
    repeat' split at hd₂
    all_goals omega
  have hmarch := MarchYear.month_bounds h₀ h₁
  unfold monthDayFromMarchDay
  simp only [MarchYear.toDate, MarchYear.daysBefore] at hmonth hday ⊢
  split at hmonth <;>
    simp (disch := first | omega | assumption | (rw [Word.mem_i64]; omega)) only [Checked.ok_bind,
      Word.add_of_mem, Word.sub_of_mem, Word.mul_of_mem, Int.tdiv_eq_ediv_of_nonneg, if_pos, if_neg,
      Word.hold_of_mem] <;> rfl

/-- A year with a March year is one of the supported years or the year before them. -/
theorem marchYear_eq (h₁ : minYear ≤ year) (h₂ : year ≤ maxYear) (month : Int) :
    marchYear year month = .ok (MarchYear.ofDate year month) := by
  simp only [minYear, maxYear] at h₁ h₂
  unfold marchYear MarchYear.ofDate
  split
  · exact Word.sub_of_mem (by rw [Word.mem_i64]; omega)
  · rfl

/-- The March year of a date is one of the supported years, or the one before them. -/
theorem ofDate_bounds (h₁ : minYear ≤ year) (h₂ : year ≤ maxYear) (month : Int) :
    minYear - 1 ≤ MarchYear.ofDate year month ∧ MarchYear.ofDate year month ≤ maxYear := by
  unfold MarchYear.ofDate
  split <;> omega

theorem yearOfMarchYear_eq (h : y + 1 ∈ Word.i64.range) (month : Int) :
    yearOfMarchYear y month = .ok (if month ≤ 2 then y + 1 else y) := by
  unfold yearOfMarchYear
  split
  · exact Word.add_of_mem h
  · rfl

/-! ## The Gregorian calendar -/

theorem isoDaysBeforeYear_eq (h₀ : 0 ≤ y) (h₁ : y < 400) :
    isoDaysBeforeYear y = .ok (Gregorian.daysBeforeYear y) := by
  unfold isoDaysBeforeYear
  simp (disch := first | omega | (rw [Word.mem_i64]; omega)) only [Checked.ok_bind,
    Word.add_of_mem, Word.sub_of_mem, Word.mul_of_mem, Int.tdiv_eq_ediv_of_nonneg]
  rfl

theorem isoYearOfCycle_eq (h₀ : 0 ≤ n) (h₁ : n < 146097) :
    isoYearOfCycle n = .ok (Gregorian.yearOfCycle n) := by
  unfold isoYearOfCycle
  simp (disch := first | omega | (rw [Word.mem_i64]; omega)) only [Checked.ok_bind,
    Word.add_of_mem, Word.sub_of_mem, Int.tdiv_eq_ediv_of_nonneg]
  rfl

theorem isoToEpochDay_eq (hy₁ : minYear ≤ year) (hy₂ : year ≤ maxYear) (hm₁ : 1 ≤ m)
    (hm₂ : m ≤ 12) (hd₁ : 1 ≤ d) (hd₂ : d ≤ 31) :
    isoToEpochDay year m d = .ok (Gregorian.epochDay ⟨year, m, d⟩) := by
  obtain ⟨hmarch₁, hmarch₂⟩ := ofDate_bounds hy₁ hy₂ m
  obtain ⟨hday₁, hday₂⟩ := dayOf_bounds m hd₁ hd₂
  unfold isoToEpochDay Gregorian.epochDay
  rw [marchYear_eq hy₁ hy₂, marchDayOfYear_eq hm₁ hm₂ hd₁ hd₂, Checked.ok_bind]
  generalize MarchYear.ofDate year m = y at *
  generalize MarchYear.dayOf m d = n at *
  simp only [minYear, maxYear] at hmarch₁ hmarch₂
  have hdays := isoDaysBeforeYear_eq (Int.emod_nonneg y (by decide))
    (Int.emod_lt_of_pos y (by decide : (0 : Int) < 400))
  have hbounds : 0 ≤ Gregorian.daysBeforeYear (y % 400) ∧
      Gregorian.daysBeforeYear (y % 400) ≤ 145731 := by
    unfold Gregorian.daysBeforeYear
    omega
  simp (disch := (rw [Word.mem_i64]; omega)) only [Checked.ok_bind, hdays, Word.add_of_mem,
    Word.sub_of_mem, Word.mul_of_mem]

theorem isoFromEpochDay_eq (h₁ : -400000000000 ≤ e) (h₂ : e ≤ 400000000000) :
    isoFromEpochDay e = .ok (Gregorian.ofEpochDay e) := by
  have hn₀ : 0 ≤ (e + 719468) % 146097 := Int.emod_nonneg _ (by decide)
  have hn₁ : (e + 719468) % 146097 < 146097 := Int.emod_lt_of_pos _ (by decide)
  -- the year of the cycle has to be found before its days are known to fit
  obtain ⟨hy₀, hy₁, hd₀, hd₁, -⟩ := Gregorian.yearOfCycle_bounds hn₀ hn₁
  have hyear := isoYearOfCycle_eq hn₀ hn₁
  have hdays := isoDaysBeforeYear_eq hy₀ (by omega)
  have hmonth := monthDayFromMarchDay_eq
    ((e + 719468) / 146097 * 400 + Gregorian.yearOfCycle ((e + 719468) % 146097)) hd₀ hd₁
  unfold isoFromEpochDay Gregorian.ofEpochDay
  simp (disch := (rw [Word.mem_i64]; omega)) only [Checked.ok_bind, Word.add_of_mem, hyear, hdays,
    Word.sub_of_mem, hmonth, Word.mul_of_mem, yearOfMarchYear_eq]
  rfl

/-! ## The Julian calendar -/

theorem julianYearOfCycle_eq (h₀ : 0 ≤ n) (h₁ : n < 1461) :
    julianYearOfCycle n = .ok (Julian.yearOfCycle n) := by
  unfold julianYearOfCycle
  simp (disch := first | omega | (rw [Word.mem_i64]; omega)) only [Checked.ok_bind,
    Word.sub_of_mem, Int.tdiv_eq_ediv_of_nonneg]
  rfl

theorem julianToEpochDay_eq (hy₁ : minYear ≤ year) (hy₂ : year ≤ maxYear) (hm₁ : 1 ≤ m)
    (hm₂ : m ≤ 12) (hd₁ : 1 ≤ d) (hd₂ : d ≤ 31) :
    julianToEpochDay year m d = .ok (Julian.epochDay ⟨year, m, d⟩) := by
  obtain ⟨hmarch₁, hmarch₂⟩ := ofDate_bounds hy₁ hy₂ m
  obtain ⟨hday₁, hday₂⟩ := dayOf_bounds m hd₁ hd₂
  unfold julianToEpochDay Julian.epochDay
  rw [marchYear_eq hy₁ hy₂, marchDayOfYear_eq hm₁ hm₂ hd₁ hd₂]
  generalize MarchYear.ofDate year m = y at *
  generalize MarchYear.dayOf m d = n at *
  simp only [minYear, maxYear] at hmarch₁ hmarch₂
  simp (disch := (rw [Word.mem_i64]; omega)) only [Checked.ok_bind, Word.add_of_mem,
    Word.sub_of_mem, Word.mul_of_mem]

theorem julianFromEpochDay_eq (h₁ : -400000000000 ≤ e) (h₂ : e ≤ 400000000000) :
    julianFromEpochDay e = .ok (Julian.ofEpochDay e) := by
  have hn₀ : 0 ≤ (e + 719470) % 1461 := Int.emod_nonneg _ (by decide)
  have hn₁ : (e + 719470) % 1461 < 1461 := Int.emod_lt_of_pos _ (by decide)
  obtain ⟨hy₀, hy₁, hd₀, hd₁, -⟩ := Julian.yearOfCycle_bounds hn₀ hn₁
  have hyear := julianYearOfCycle_eq hn₀ hn₁
  have hmonth := monthDayFromMarchDay_eq
    ((e + 719470) / 1461 * 4 + Julian.yearOfCycle ((e + 719470) % 1461)) hd₀ hd₁
  unfold julianFromEpochDay Julian.ofEpochDay
  simp (disch := (rw [Word.mem_i64]; omega)) only [Checked.ok_bind, Word.add_of_mem, hyear,
    Word.sub_of_mem, hmonth, Word.mul_of_mem, yearOfMarchYear_eq]
  rfl

/-! ## The calendars with years of one length -/

/-- **The walk reads the table at the month it has come to**, and has no result if the table ends
before. -/
theorem walkMonths_drop (table : List Int) (k : Nat) (dayOfYear : Int) :
    walkMonths (table.drop k) k dayOfYear = (do
      let length ← lookup table k
      if length ≤ dayOfYear then do
        let dayOfYear ← Word.i64.sub dayOfYear length
        let month ← Word.u8.add k 1
        walkMonths (table.drop (k + 1)) month dayOfYear
      else
        .ok (k, dayOfYear)) := by
  have hplace : 0 ≤ (k : Int) := by omega
  rw [lookup, if_pos hplace, Int.toNat_natCast]
  by_cases hk : k < table.length
  · rw [List.drop_eq_getElem_cons hk, List.getElem?_eq_getElem hk]
    rfl
  · rw [List.drop_eq_nil_of_le (by omega), List.getElem?_eq_none (by omega)]
    rfl

/-- The walk in words is the walk through the rest of the months, counted from the month it starts
at and from day 0. -/
theorem walkMonths_eq (rest : List Int) (hlengths : ∀ length ∈ rest, 0 ≤ length) (hm₀ : 0 ≤ m)
    (hm₁ : m + rest.length ≤ 255) (hn₀ : 0 ≤ n) (hn₁ : n < Months.total rest) (hn₂ : n ≤ 366) :
    walkMonths rest m n =
      .ok (m - 1 + (FixedYear.walk rest n).1, (FixedYear.walk rest n).2 - 1) := by
  induction rest generalizing m n with
  | nil =>
    simp only [Months.total_nil] at hn₁
    omega
  | cons length rest ih =>
    obtain ⟨hlength, hrest⟩ := List.forall_mem_cons.mp hlengths
    simp only [Months.total_cons] at hn₁
    simp only [List.length_cons] at hm₁
    by_cases h : length ≤ n
    · have hday : n - length ∈ Word.i64.range := by
        rw [Word.mem_i64]
        omega
      have hmonth : m + 1 ∈ Word.u8.range := by
        rw [Word.mem_u8]
        omega
      rw [walkMonths, if_pos h, Word.sub_of_mem hday, Checked.ok_bind, Word.add_of_mem hmonth,
        Checked.ok_bind, ih hrest (by omega) (by omega) (by omega) (by omega) (by omega),
        FixedYear.walk, if_neg (by omega)]
      refine congrArg Except.ok (Prod.ext ?_ rfl)
      change m + 1 - 1 + (FixedYear.walk rest (n - length)).1 =
        m - 1 + ((FixedYear.walk rest (n - length)).1 + 1)
      omega
    · rw [walkMonths, if_neg h, FixedYear.walk, if_pos (by omega)]
      exact congrArg Except.ok (Prod.ext (by omega) (by omega))

/-- Years of one length have one of three. -/
theorem longestYear_cases (h₁ : c ≠ .iso) (h₂ : c ≠ .julian) :
    c.longestYear = 360 ∨ c.longestYear = 365 ∨ c.longestYear = 366 := by
  obtain rfl | rfl | rfl := fixedYear_cases h₁ h₂ <;> decide

theorem fixedToEpochDay_eq (h₁ : c ≠ .iso) (h₂ : c ≠ .julian) (hy₁ : minYear ≤ year)
    (hy₂ : year ≤ maxYear) (hm₁ : 1 ≤ m) (hm₂ : m ≤ 12) (hd₁ : 1 ≤ d) (hd₂ : d ≤ 31) :
    fixedToEpochDay c year m d =
      .ok ((year - 1970) * c.longestYear + c.daysBeforeMonth year m + d - 1) := by
  obtain ⟨hdays₁, hdays₂⟩ := c.daysBeforeMonth_bounds year hm₁ (by omega)
  have hlength := longestYear_cases h₁ h₂
  have hperYear := daysPerYear_eq h₁ h₂
  simp only [minYear, maxYear] at hy₁ hy₂
  unfold fixedToEpochDay
  generalize c.longestYear = length at *
  rcases hlength with rfl | rfl | rfl <;>
    simp (disch := (rw [Word.mem_i64]; omega)) only [Checked.ok_bind, hperYear,
      daysBeforeMonth_eq c year hm₁ hm₂, Word.add_of_mem, Word.sub_of_mem, Word.mul_of_mem]

/-- The table of a calendar with years of one length is that of its months, after place 0. -/
theorem drop_monthTable (h₁ : c ≠ .iso) (h₂ : c ≠ .julian) :
    (monthTable c).drop 1 = c.monthLengths c.hasLeapYears := by
  obtain rfl | rfl | rfl := fixedYear_cases h₁ h₂ <;> rfl

/-- No month is longer than 31 days. -/
theorem longestMonth_le (c : Chronology) (h₁ : 1 ≤ m) (h₂ : m ≤ 12) : c.longestMonth m ≤ 31 :=
  (c.longestMonth_le_longestMonthOfAll h₁ h₂).trans c.longestMonthOfAll_le

/-- **The walk ends inside the table** for every day of a year, where the walk through the months
does. -/
theorem walkMonths_monthTable (hc₁ : c ≠ .iso) (hc₂ : c ≠ .julian) (h₀ : 0 ≤ n)
    (h₁ : n < c.longestYear) :
    walkMonths ((monthTable c).drop 1) 1 n =
      .ok ((FixedYear.walk (c.monthLengths c.hasLeapYears) n).1,
        (FixedYear.walk (c.monthLengths c.hasLeapYears) n).2 - 1) := by
  have hlengths : ∀ length ∈ c.monthLengths c.hasLeapYears, 0 ≤ length := by
    cases c <;> decide
  have hcount := c.length_monthLengths c.hasLeapYears
  have hyear : n ≤ 366 := by
    rcases longestYear_cases hc₁ hc₂ with h | h | h <;> omega
  rw [drop_monthTable hc₁ hc₂, walkMonths_eq (c.monthLengths c.hasLeapYears) hlengths (by decide)
    (by omega) h₀ h₁ hyear, Int.sub_self, Int.zero_add]

/-- What the walk finds fits in 8 bits, and its year in 64. This holds of every number of 64 bits, as
nothing is multiplied here. -/
theorem fixedFromEpochDay_eq (hc₁ : c ≠ .iso) (hc₂ : c ≠ .julian) (he : e ∈ Word.i64.range) :
    fixedFromEpochDay c e = .ok (FixedYear.ofEpochDay (c.monthLengths c.hasLeapYears) e) := by
  have hcases := longestYear_cases hc₁ hc₂
  have hperYear := daysPerYear_eq hc₁ hc₂
  obtain ⟨hrest₀, hrest₁, hyear⟩ : 0 ≤ e % c.longestYear ∧ e % c.longestYear < c.longestYear ∧
      e / c.longestYear + 1970 ∈ Word.i64.range := by
    rw [Word.mem_i64] at he ⊢
    rcases hcases with h | h | h <;> rw [h] <;> omega
  have hcount := c.length_monthLengths c.hasLeapYears
  have hwalk := walkMonths_monthTable hc₁ hc₂ hrest₀ hrest₁
  obtain ⟨hm₁, hm₂, hd₁, hd₂, -⟩ :=
    FixedYear.walk_spec (c.monthLengths c.hasLeapYears) hrest₀ hrest₁
  have hlongest := longestMonth_le c hm₁ (by omega)
  unfold Chronology.longestMonth at hlongest
  unfold fixedFromEpochDay FixedYear.ofEpochDay
  rw [hperYear, Checked.ok_bind, hwalk, Checked.ok_bind]
  simp (disch := first | assumption | (rw [Word.mem_u8]; omega)) only [Checked.ok_bind,
    Word.add_of_mem, Word.hold_of_mem, Int.sub_add_cancel]
  rfl

/-! ## Every chronology -/

/-- Where all years have the same months, the days before a month do not depend on the year. -/
theorem epochDay_of_fixedYear (h₁ : c ≠ .iso) (h₂ : c ≠ .julian) (t : YearMonthDay) :
    c.epochDay t =
      (t.year - 1970) * c.longestYear + c.daysBeforeMonth t.year t.month + t.day - 1 := by
  obtain rfl | rfl | rfl := fixedYear_cases h₁ h₂ <;> rfl

/-- The number of such a date, in words. -/
theorem toEpochDay_of_fixedYear (h₁ : c ≠ .iso) (h₂ : c ≠ .julian) (hy₁ : minYear ≤ year)
    (hy₂ : year ≤ maxYear) (hm₁ : 1 ≤ m) (hm₂ : m ≤ 12) (hd₁ : 1 ≤ d) (hd₂ : d ≤ 31) :
    toEpochDay c year m d = .ok (c.epochDay ⟨year, m, d⟩) := by
  have hfixed := fixedToEpochDay_eq h₁ h₂ hy₁ hy₂ hm₁ hm₂ hd₁ hd₂
  rw [epochDay_of_fixedYear h₁ h₂]
  obtain rfl | rfl | rfl := fixedYear_cases h₁ h₂ <;> exact hfixed

/-- **The number of every supported date**, in words. -/
theorem toEpochDay_eq {t : YearMonthDay} (h : c.IsDate t) :
    toEpochDay c t.year t.month t.day = .ok (c.epochDay t) := by
  obtain ⟨hy₁, hy₂, hm₁, hm₂, hd₁, hd₂⟩ := h
  have hd₃ := hd₂.trans (c.lengthOfMonth_bounds t.year hm₁ hm₂).2
  cases c with
  | iso => exact isoToEpochDay_eq hy₁ hy₂ hm₁ hm₂ hd₁ hd₃
  | julian => exact julianToEpochDay_eq hy₁ hy₂ hm₁ hm₂ hd₁ hd₃
  | noLeap => exact toEpochDay_of_fixedYear (by decide) (by decide) hy₁ hy₂ hm₁ hm₂ hd₁ hd₃
  | allLeap => exact toEpochDay_of_fixedYear (by decide) (by decide) hy₁ hy₂ hm₁ hm₂ hd₁ hd₃
  | uniform30 => exact toEpochDay_of_fixedYear (by decide) (by decide) hy₁ hy₂ hm₁ hm₂ hd₁ hd₃

/-- Beyond the supported years the number wraps: the days up to the last year of 64 bits are too many. -/
example : toEpochDay .iso 9223372036854775807 3 1 =
    .error (.wrapped .i64 3368767461170930377083) := rfl

/-- **The date of every number of 64 bits**, supported or not, where all years have the same months. -/
theorem fromEpochDay_of_fixedYear (h₁ : c ≠ .iso) (h₂ : c ≠ .julian) (he : e ∈ Word.i64.range) :
    fromEpochDay c e = .ok (c.ofEpochDay e) := by
  have hfixed := fixedFromEpochDay_eq h₁ h₂ he
  obtain rfl | rfl | rfl := fixedYear_cases h₁ h₂ <;> exact hfixed

/-- **The date of every number in the range**, in words. -/
theorem fromEpochDay_eq (h : e ∈ c.epochDayRange) : fromEpochDay c e = .ok (c.ofEpochDay e) := by
  have h₁ := c.epochDayRange_bounds.1.trans h.1
  have h₂ := h.2.trans c.epochDayRange_bounds.2
  have he : e ∈ Word.i64.range := Word.mem_i64.mpr ⟨by omega, by omega⟩
  cases c with
  | iso => exact isoFromEpochDay_eq h₁ h₂
  | julian => exact julianFromEpochDay_eq h₁ h₂
  | noLeap => exact fromEpochDay_of_fixedYear (by decide) (by decide) he
  | allLeap => exact fromEpochDay_of_fixedYear (by decide) (by decide) he
  | uniform30 => exact fromEpochDay_of_fixedYear (by decide) (by decide) he

/-- The first and the last supported day are dates, so they have numbers. -/
theorem epochDayRange_eq (c : Chronology) : epochDayRange c = .ok c.epochDayRange := by
  have hfirst : c.IsDate (.newYear minYear) := by
    cases c <;> decide
  have hlast : c.IsDate c.lastDate := by
    cases c <;> decide
  have hmin : toEpochDay c minYear 1 1 = .ok c.epochDayRange.min := toEpochDay_eq hfirst
  have hmax : toEpochDay c maxYear 12 (c.lengthOfMonth maxYear 12) = .ok c.epochDayRange.max :=
    toEpochDay_eq hlast
  rw [epochDayRange, lengthOfMonth_eq c maxYear (by decide) (by decide), Checked.ok_bind, hmin,
    Checked.ok_bind, hmax, Checked.ok_bind, newRange_eq]

end Calendrics.Words
