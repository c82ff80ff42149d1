import Calendrics.Proofs.BareDate
import Calendrics.Proofs.Words.EpochDay

/-!
# Dates in words

The fields and the ranges of a date, and the ways to make one, calculated in words. Dates are taken
and given without their proofs; a calculation on the numbers of a `Date` relies on there being such
a day, and its lemma says what it comes to then:

* `get_eq`, `range_eq`, `packedMonthDay_eq`, `hashWord_eq` — every number that is read off a date;
* `resolvePrevious_eq`, `dateFromFields_eq`, `dateFromFieldsExactly_eq`, `dateFromEpochDay_eq` — the
  ways to make a date, from any numbers, which refuse exactly what they refuse with exact integers.
-/

namespace Calendrics.Words

/-! ## Fields -/

/-- The number of the day. -/
def epochDay (d : BareDate) : Checked Int :=
  toEpochDay d.chronology d.year d.month d.day

/-- The day of the year. -/
def dayOfYear (d : BareDate) : Checked Int := do
  Word.u16.add (← daysBeforeMonth d.chronology d.year d.month) d.day

/-- The day of the week. -/
def dayOfWeek (d : BareDate) : Checked Int := do
  let shifted ← Word.i64.add (← epochDay d) 3
  Word.u8.hold (← Word.i64.add (shifted % 7) 1)

/-- Where a count from 1 stands in its group of seven. -/
def placeInWeek (w : Word) (n : Int) : Checked Int := do
  w.add ((← w.sub n 1).tmod 7) 1

/-- Which group of seven a count from 1 is in. -/
def numberOfWeek (w : Word) (n : Int) : Checked Int := do
  w.add ((← w.sub n 1).tdiv 7) 1

/-- The months since January of year zero. -/
def prolepticMonth (d : BareDate) : Checked Int := do
  Word.i64.sub (← Word.i64.add (← Word.i64.mul d.year 12) d.month) 1

/-- The year counted within its era, or the year with such a number in the era of another. -/
def yearInEra (year n : Int) : Checked Int :=
  if 1 ≤ year then .ok n else Word.i64.sub 1 n

/-- The value of a field. -/
def get (d : BareDate) : Field → Checked Int
  | .dayOfWeek => dayOfWeek d
  | .alignedDayOfWeekInMonth => placeInWeek .u8 d.day
  | .alignedDayOfWeekInYear => do Word.u8.hold (← placeInWeek .u16 (← dayOfYear d))
  | .dayOfMonth => .ok d.day
  | .dayOfYear => dayOfYear d
  | .epochDay => epochDay d
  | .alignedWeekOfMonth => numberOfWeek .u8 d.day
  | .alignedWeekOfYear => do Word.u8.hold (← numberOfWeek .u16 (← dayOfYear d))
  | .monthOfYear => .ok d.month
  | .prolepticMonth => prolepticMonth d
  | .yearOfEra => yearInEra d.year d.year
  | .year => .ok d.year
  | .era => .ok (Era.ofYear d.year).value

/-- The month since year zero and the day of the month in one number. -/
def packedMonthDay (d : BareDate) : Checked Int := do
  Word.i64.add (← Word.i64.mul (← prolepticMonth d) 256) d.day

/-- The year, the month and the day in one number. -/
def hashWord (d : BareDate) : Checked Int := do
  let year ← Word.i64.shiftLeft d.year 11
  let month ← Word.i64.shiftLeft d.month 6
  Word.i64.add (← Word.i64.add year month) d.day

/-! ## Ranges of fields -/

/-- How many groups of seven it takes to cover a number of days. -/
def weeksCovering (days : Int) : Checked Int :=
  if 0 < days.tmod 7 then Word.i64.add (days.tdiv 7) 1 else .ok (days.tdiv 7)

/-- The values that a field takes in a chronology. -/
def validRange (c : Chronology) : Field → Checked ValueRange
  | .dayOfWeek | .alignedDayOfWeekInMonth | .alignedDayOfWeekInYear => newRange 1 7
  | .dayOfMonth => do newRange 1 (← maxDayOfMonth c)
  | .dayOfYear => do newRange 1 (← maxLengthOfYear c)
  | .alignedWeekOfMonth => do newRange 1 (← weeksCovering (← maxDayOfMonth c))
  | .alignedWeekOfYear => do newRange 1 (← weeksCovering (← maxLengthOfYear c))
  | .monthOfYear => newRange 1 12
  | .prolepticMonth => do
    let first ← Word.i64.mul minYear 12
    let last ← Word.i64.sub (← Word.i64.add (← Word.i64.mul maxYear 12) 12) 1
    newRange first last
  | .yearOfEra => do newRange 1 (← Word.i64.sub 1 minYear)
  | .year => newRange minYear maxYear
  | .era => newRange 0 1
  | .epochDay => epochDayRange c

/-- The values that a field can take in the month or the year of a date. -/
def range (d : BareDate) : Field → Checked ValueRange
  | .dayOfMonth => do newRange 1 (← lengthOfMonth d.chronology d.year d.month)
  | .dayOfYear => do newRange 1 (← lengthOfYear d.chronology d.year)
  | .alignedWeekOfMonth => do
    newRange 1 (← weeksCovering (← lengthOfMonth d.chronology d.year d.month))
  | f => validRange d.chronology f

/-! ## Making dates -/

/-- A month that a caller names, as a word of 8 bits. -/
def checkedMonth (month : Int) : Checked Int := do
  let month ← Checked.ofExact (monthRange.check .monthOfYear month)
  if month ∈ Word.u8.range then .ok month
  else Checked.ofExact (.error (monthRange.refusal .monthOfYear month))

/-- The length of a month that a caller names. -/
def checkedLengthOfMonth (c : Chronology) (year month : Int) : Checked Int := do
  lengthOfMonth c year (← checkedMonth month)

/-- The date with a computed year, month and day, which is moved back to the end of the month. -/
def resolvePrevious (c : Chronology) (year month day : Int) : Checked BareDate := do
  let year ← Checked.ofExact (yearRange.check .year year)
  let month ← checkedMonth month
  let length ← lengthOfMonth c year month
  if day < 1 then
    Checked.ofExact (.error (.invalidFieldValue .dayOfMonth day 1 length))
  else
    .ok ⟨⟨year, month, if day ∈ Word.u8.range ∧ day ≤ length then day else length⟩, c⟩

/-- The date with a given year, month and day, which may be moved back. -/
def dateFromFields (c : Chronology) (year month day : Int) : Checked BareDate := do
  let month ← checkedMonth month
  let days ← newRange 1 (← maxLengthOfMonth c month)
  let day ← Checked.ofExact (days.check .dayOfMonth day)
  resolvePrevious c year month day

/-- The date with exactly the given year, month and day. -/
def dateFromFieldsExactly (c : Chronology) (year month day : Int) : Checked BareDate := do
  let d ← dateFromFields c year month day
  if d.day = day then
    .ok d
  else do
    let length ← lengthOfMonth d.chronology d.year d.month
    Checked.ofExact (.error (.invalidFieldValue .dayOfMonth day 1 length))

/-- The date of the day with a given number. -/
def dateFromEpochDay (c : Chronology) (e : Int) : Checked BareDate := do
  let e ← Checked.ofExact ((← epochDayRange c).check .epochDay e)
  return ⟨← fromEpochDay c e, c⟩

/-- The same day as a date of another chronology. -/
def convertTo (d : BareDate) (c : Chronology) : Checked BareDate := do
  dateFromEpochDay c (← epochDay d)

/-! ## Reading stops nowhere -/

variable {c : Chronology} (d : Date)

theorem epochDay_eq : epochDay d.bare = .ok d.epochDay :=
  toEpochDay_eq d.isDate

theorem dayOfYear_eq : dayOfYear d.bare = .ok d.dayOfYear := by
  have hfits : d.dayOfYear ∈ Word.u16.range := by
    have hfirst := d.one_le_dayOfYear
    have hlast := d.dayOfYear_le
    rw [Word.mem_u16]
    omega
  have hdays := daysBeforeMonth_eq d.chronology d.year d.isDate.one_le_month d.isDate.month_le
  exact (congrArg (· >>= _) hdays).trans (Word.add_of_mem hfits)

/-- Places in groups of seven and numbers of groups fit wherever the counts do. -/
theorem placeInWeek_eq {w : Word} {n : Int} (hw : ∀ k : Int, 0 ≤ k → k ≤ n → k ∈ w.range)
    (hn : 1 ≤ n) : placeInWeek w n = .ok (Date.placeInWeek n) := by
  have hsub : n - 1 ∈ w.range := hw _ (by omega) (by omega)
  have hadd : (n - 1).tmod 7 + 1 ∈ w.range := by
    rw [Int.tmod_eq_emod_of_nonneg (by omega)]
    exact hw _ (by omega) (by omega)
  rw [placeInWeek, Word.sub_of_mem hsub, Checked.ok_bind, Word.add_of_mem hadd,
    Int.tmod_eq_emod_of_nonneg (by omega)]
  rfl

theorem numberOfWeek_eq {w : Word} {n : Int} (hw : ∀ k : Int, 0 ≤ k → k ≤ n → k ∈ w.range)
    (hn : 1 ≤ n) : numberOfWeek w n = .ok (Date.numberOfWeek n) := by
  have hsub : n - 1 ∈ w.range := hw _ (by omega) (by omega)
  have hadd : (n - 1).tdiv 7 + 1 ∈ w.range := by
    rw [Int.tdiv_eq_ediv_of_nonneg (by omega)]
    exact hw _ (by omega) (by omega)
  rw [numberOfWeek, Word.sub_of_mem hsub, Checked.ok_bind, Word.add_of_mem hadd,
    Int.tdiv_eq_ediv_of_nonneg (by omega)]
  rfl

theorem dayOfWeek_eq : dayOfWeek d.bare = .ok d.dayOfWeek := by
  obtain ⟨h₁, h₂⟩ := d.epochDay_bounds
  unfold dayOfWeek Date.dayOfWeek
  rw [epochDay_eq]
  generalize d.epochDay = e at *
  simp (disch := first | (rw [Word.mem_i64]; omega) | (rw [Word.mem_u8]; omega)) only
    [Checked.ok_bind, Word.add_of_mem, Word.hold_of_mem]
  rfl

/-- The year and the month of a date are in reach. -/
theorem prolepticMonth_eq : prolepticMonth d.bare = .ok d.prolepticMonth := by
  obtain ⟨hy₁, hy₂, hm₁, hm₂, -, -⟩ := d.isDate
  simp only [minYear, maxYear] at hy₁ hy₂
  unfold prolepticMonth
  simp (disch := (rw [Word.mem_i64]; omega)) only [Date.bare, Checked.ok_bind, Word.mul_of_mem,
    Word.add_of_mem, Word.sub_of_mem]
  rfl

theorem yearInEra_eq {year n : Int} (h₁ : -999999999 ≤ n) (h₂ : n ≤ 1000000000) :
    yearInEra year n = .ok ((Era.ofYear year).year n) := by
  unfold yearInEra Era.ofYear
  split
  · rfl
  · exact Word.sub_of_mem (by rw [Word.mem_i64]; omega)

/-- **Every field of a date is calculated without a stop.** -/
theorem get_eq (f : Field) : get d.bare f = .ok (d.get f) := by
  have hu8 : ∀ k : Int, 0 ≤ k → k ≤ d.day → k ∈ Word.u8.range := by
    have hlast := d.day_le
    intro k h₀ h₁
    rw [Word.mem_u8]
    omega
  have hu16 : ∀ k : Int, 0 ≤ k → k ≤ d.dayOfYear → k ∈ Word.u16.range := by
    have hlast := d.dayOfYear_le
    intro k h₀ h₁
    rw [Word.mem_u16]
    omega
  cases f with
  | dayOfWeek => exact dayOfWeek_eq d
  | alignedDayOfWeekInMonth => exact placeInWeek_eq hu8 d.isDate.one_le_day
  | alignedDayOfWeekInYear =>
    have hplace := Date.placeInWeek_bounds d.dayOfYear
    rw [get, dayOfYear_eq, Checked.ok_bind, placeInWeek_eq hu16 d.one_le_dayOfYear]
    exact Word.hold_of_mem (by rw [Word.mem_u8]; omega)
  | dayOfMonth => rfl
  | dayOfYear => exact dayOfYear_eq d
  | epochDay => exact epochDay_eq d
  | alignedWeekOfMonth => exact numberOfWeek_eq hu8 d.isDate.one_le_day
  | alignedWeekOfYear =>
    obtain ⟨hweek₁, hweek₂⟩ := Date.numberOfWeek_bounds d.one_le_dayOfYear d.dayOfYear_le
    have hweeks : Calendrics.weeksCovering 366 = 53 := by decide
    rw [get, dayOfYear_eq, Checked.ok_bind, numberOfWeek_eq hu16 d.one_le_dayOfYear]
    exact Word.hold_of_mem (by rw [Word.mem_u8]; omega)
  | monthOfYear => rfl
  | prolepticMonth => exact prolepticMonth_eq d
  | yearOfEra =>
    obtain ⟨hy₁, hy₂⟩ := mem_yearRange.mp d.year_mem_yearRange
    simp only [minYear, maxYear] at hy₁ hy₂
    have hera : (Era.ofYear d.year).year d.year = d.yearOfEra := by
      unfold Date.yearOfEra Era.yearOfEra Era.ofYear
      split <;> rfl
    exact (yearInEra_eq hy₁ (by omega)).trans (congrArg Except.ok hera)
  | year => rfl
  | era => rfl

/-- The numbers that stand for a date in comparisons and in hashing fit as well. -/
theorem packedMonthDay_eq : packedMonthDay d.bare = .ok d.packedMonthDay := by
  have hmonths := d.prolepticMonth_bounds
  have hfirst := d.isDate.one_le_day
  have hlast := d.day_le
  unfold packedMonthDay Date.packedMonthDay
  rw [prolepticMonth_eq, Date.packingFactor]
  generalize d.prolepticMonth = m at *
  simp (disch := (rw [Word.mem_i64]; omega)) only [Date.bare, Checked.ok_bind, Word.mul_of_mem,
    Word.add_of_mem]

theorem hashWord_eq : hashWord d.bare = .ok d.hashWord := by
  obtain ⟨hy₁, hy₂, hm₁, hm₂, hd₁, -⟩ := d.isDate
  have hlast := d.day_le
  simp only [minYear, maxYear] at hy₁ hy₂
  unfold hashWord Word.shiftLeft
  simp (disch := (rw [Word.mem_i64]; omega)) only [Date.bare, Int.shiftLeft_eq, Checked.ok_bind,
    Word.hold_of_mem, Word.add_of_mem]
  rfl

/-! ## Ranges are not empty -/

theorem weeksCovering_eq {n : Int} (h₀ : 0 ≤ n) (h₁ : n ≤ 366) :
    weeksCovering n = .ok (Calendrics.weeksCovering n) := by
  unfold weeksCovering Calendrics.weeksCovering
  rw [Int.tmod_eq_emod_of_nonneg h₀, Int.tdiv_eq_ediv_of_nonneg h₀]
  split
  · rw [Word.add_of_mem (by rw [Word.mem_i64]; omega)]
    exact congrArg Except.ok (by omega)
  · exact congrArg Except.ok (by omega)

/-- **Every field has a range in every chronology.** -/
theorem validRange_eq (c : Chronology) (f : Field) : validRange c f = .ok (c.validRange f) := by
  have hyear : c.longestYear ≤ 366 := by
    cases c <;> decide
  have hmonth : c.longestMonthOfAll ≤ 366 := by
    cases c <;> decide
  have hyear₁ := c.one_le_longestYear
  have hmonth₁ := c.one_le_longestMonthOfAll
  cases f with
  | dayOfWeek => exact newRange_eq (c.validRange .dayOfWeek)
  | alignedDayOfWeekInMonth => exact newRange_eq (c.validRange .dayOfWeek)
  | alignedDayOfWeekInYear => exact newRange_eq (c.validRange .dayOfWeek)
  | dayOfMonth =>
    rw [validRange, maxDayOfMonth_eq, Checked.ok_bind]
    exact newRange_eq (c.validRange .dayOfMonth)
  | dayOfYear =>
    rw [validRange, maxLengthOfYear_eq, Checked.ok_bind]
    exact newRange_eq (c.validRange .dayOfYear)
  | epochDay => exact epochDayRange_eq c
  | alignedWeekOfMonth =>
    rw [validRange, maxDayOfMonth_eq, Checked.ok_bind, weeksCovering_eq (by omega) hmonth,
      Checked.ok_bind]
    exact newRange_eq (c.validRange .alignedWeekOfMonth)
  | alignedWeekOfYear =>
    rw [validRange, maxLengthOfYear_eq, Checked.ok_bind, weeksCovering_eq (by omega) hyear,
      Checked.ok_bind]
    exact newRange_eq (c.validRange .alignedWeekOfYear)
  | monthOfYear => rfl
  | prolepticMonth => rfl
  | yearOfEra => rfl
  | year => rfl
  | era => rfl

theorem lengthOfMonth_date : lengthOfMonth d.chronology d.year d.month = .ok d.lengthOfMonth :=
  lengthOfMonth_eq d.chronology d.year d.isDate.one_le_month d.isDate.month_le

/-- **Every field has a range for every date.** -/
theorem range_eq (f : Field) : range d.bare f = .ok (d.range f) := by
  have hlength := d.chronology.lengthOfMonth_bounds d.year d.isDate.one_le_month d.isDate.month_le
  have hmonth : lengthOfMonth d.bare.chronology d.bare.year d.bare.month = .ok d.lengthOfMonth :=
    lengthOfMonth_date d
  cases f with
  | dayOfMonth =>
    rw [range, hmonth, Checked.ok_bind]
    exact newRange_eq (d.range .dayOfMonth)
  | dayOfYear =>
    rw [range, lengthOfYear_eq, Checked.ok_bind]
    exact newRange_eq (d.range .dayOfYear)
  | alignedWeekOfMonth =>
    change 28 ≤ d.lengthOfMonth ∧ d.lengthOfMonth ≤ 31 at hlength
    rw [range, hmonth, Checked.ok_bind, weeksCovering_eq (by omega) (by omega), Checked.ok_bind]
    exact newRange_eq (d.range .alignedWeekOfMonth)
  | dayOfWeek => exact validRange_eq d.chronology .dayOfWeek
  | alignedDayOfWeekInMonth => exact validRange_eq d.chronology .alignedDayOfWeekInMonth
  | alignedDayOfWeekInYear => exact validRange_eq d.chronology .alignedDayOfWeekInYear
  | epochDay => exact validRange_eq d.chronology .epochDay
  | alignedWeekOfYear => exact validRange_eq d.chronology .alignedWeekOfYear
  | monthOfYear => exact validRange_eq d.chronology .monthOfYear
  | prolepticMonth => exact validRange_eq d.chronology .prolepticMonth
  | yearOfEra => exact validRange_eq d.chronology .yearOfEra
  | year => exact validRange_eq d.chronology .year
  | era => exact validRange_eq d.chronology .era

/-! ## Making dates stops for refusals only -/

variable {year m day : Int}

/-- A month that is one of twelve fits in 8 bits, and any other is refused before. -/
theorem checkedMonth_eq (m : Int) :
    checkedMonth m = Checked.ofExact (monthRange.check .monthOfYear m) := by
  rw [checkedMonth]
  by_cases h : m ∈ monthRange
  · have hfits : m ∈ Word.u8.range :=
      ⟨Int.le_trans (by decide) h.1, Int.le_trans h.2 (by decide)⟩
    rw [ValueRange.check_of_mem _ h, Checked.ofExact_ok, Checked.ok_bind, if_pos hfits]
  · rw [ValueRange.check_of_not_mem _ h]
    rfl

theorem checkedLengthOfMonth_eq (c : Chronology) (year m : Int) :
    checkedLengthOfMonth c year m = Checked.ofExact (c.checkedLengthOfMonth year m) := by
  rw [checkedLengthOfMonth, checkedMonth_eq, Chronology.checkedLengthOfMonth]
  by_cases h : m ∈ monthRange
  · rw [ValueRange.check_of_mem _ h]
    exact lengthOfMonth_eq c year h.1 h.2
  · rw [ValueRange.check_of_not_mem _ h]
    rfl

/-- **Resolving stops for refusals only.** -/
theorem resolvePrevious_eq (c : Chronology) (year m day : Int) :
    resolvePrevious c year m day = Checked.ofExact (BareDate.resolve c year m day) := by
  rw [resolvePrevious, BareDate.resolve, checkedMonth_eq]
  by_cases hy : year ∈ yearRange
  · by_cases hm : m ∈ monthRange
    · have hlength := c.lengthOfMonth_bounds year hm.1 hm.2
      rw [ValueRange.check_of_mem _ hy, ValueRange.check_of_mem _ hm, if_pos hy, if_pos hm,
        Checked.ofExact_ok, Checked.ofExact_ok, Checked.ok_bind, Checked.ok_bind,
        lengthOfMonth_eq c year hm.1 hm.2, Checked.ok_bind]
      by_cases hd : 1 ≤ day
      · -- a day that fits in 8 bits and in the month is kept, every other one is later
        have hday : (if day ∈ Word.u8.range ∧ day ≤ c.lengthOfMonth year m then day
            else c.lengthOfMonth year m) = min day (c.lengthOfMonth year m) := by
          by_cases hle : day ≤ c.lengthOfMonth year m
          · have hfits : day ∈ Word.u8.range := by
              rw [Word.mem_u8]
              omega
            rw [if_pos ⟨hfits, hle⟩, Int.min_eq_left hle]
          · rw [if_neg fun h => hle h.2, Int.min_eq_right (by omega)]
        rw [if_neg (by omega), if_pos hd, hday]
        rfl
      · rw [if_pos (by omega), if_neg hd]
    · rw [ValueRange.check_of_mem _ hy, ValueRange.check_of_not_mem _ hm, if_pos hy, if_neg hm]
      rfl
  · rw [ValueRange.check_of_not_mem _ hy, if_neg hy]
    rfl

/-- **Making a date from fields stops for refusals only.** -/
theorem dateFromFields_eq (c : Chronology) (year m day : Int) :
    dateFromFields c year m day = Checked.ofExact (BareDate.ofFields c year m day) := by
  rw [dateFromFields, BareDate.ofFields, checkedMonth_eq]
  by_cases hm : m ∈ monthRange
  · have hrange := newRange_eq (Date.longestMonthRange c m hm)
    change newRange 1 (c.longestMonth m) = _ at hrange
    rw [ValueRange.check_of_mem _ hm, if_pos hm, Checked.ofExact_ok, Checked.ok_bind,
      maxLengthOfMonth_eq c hm.1 hm.2, Checked.ok_bind, hrange, Checked.ok_bind]
    have hmem : day ∈ Date.longestMonthRange c m hm ↔ 1 ≤ day ∧ day ≤ c.longestMonth m :=
      Iff.rfl
    by_cases hd : 1 ≤ day ∧ day ≤ c.longestMonth m
    · rw [ValueRange.check_of_mem _ (hmem.mpr hd), if_pos hd]
      exact resolvePrevious_eq c year m day
    · rw [ValueRange.check_of_not_mem _ (mt hmem.mp hd), if_neg hd]
      rfl
  · rw [ValueRange.check_of_not_mem _ hm, if_neg hm]
    rfl

/-- **Reading a stored date stops for refusals only.** -/
theorem dateFromFieldsExactly_eq (c : Chronology) (year m day : Int) :
    dateFromFieldsExactly c year m day =
      Checked.ofExact (BareDate.ofFieldsExactly c year m day) := by
  rw [dateFromFieldsExactly, BareDate.ofFieldsExactly, dateFromFields_eq, ← Date.bare_ofFields]
  cases Date.ofFields c year m day with
  | error e => rfl
  | ok d =>
    change (if d.day = day then _ else _) = Checked.ofExact (if d.day = day then _ else _)
    split
    · rfl
    · exact congrArg (· >>= _) (lengthOfMonth_date d)

/-- **Finding the date of a number stops for refusals only.** -/
theorem dateFromEpochDay_eq (c : Chronology) (e : Int) :
    dateFromEpochDay c e = Checked.ofExact (BareDate.ofEpochDay c e) := by
  rw [dateFromEpochDay, BareDate.ofEpochDay, epochDayRange_eq, Checked.ok_bind]
  by_cases he : e ∈ c.epochDayRange
  · rw [ValueRange.check_of_mem _ he, if_pos he, Checked.ofExact_ok, Checked.ok_bind,
      fromEpochDay_eq he]
    rfl
  · rw [ValueRange.check_of_not_mem _ he, if_neg he]
    rfl

theorem convertTo_eq (c : Chronology) :
    convertTo d.bare c = Checked.ofExact (d.bare.convertTo c) := by
  rw [convertTo, epochDay_eq, Checked.ok_bind, dateFromEpochDay_eq]
  rfl

end Calendrics.Words
