import Calendrics.Proofs.Words.Dates

/-!
# Moves and edits in words

Moving a date by an amount of a unit and setting one of its fields, calculated in words. The amount
can be any number that a caller passes: it is added and multiplied by the functions of
`Calendrics.Amount`, which refuse what does not fit. Everything else is plain arithmetic in words,
on numbers that have been checked before.

* `edit_eq` — **the differences between a value in its range and the value before** are in reach;
* `set_eq`, `plus_eq`, `minus_eq` — edits and moves stop for refusals only.
-/

namespace Calendrics.Words

/-! ## Calculations -/

/-- The date a number of days later. -/
def plusDays (d : BareDate) (days : Int) : Checked BareDate :=
  if days = 0 then
    .ok d
  else do
    let e ← Checked.ofExact (Amount.add (← epochDay d) days)
    (dateFromEpochDay d.chronology e).mapRefusal fun _ => .arithmeticOverflow

/-- The date a number of weeks later. -/
def plusWeeks (d : BareDate) (weeks : Int) : Checked BareDate := do
  plusDays d (← Checked.ofExact (Amount.mul weeks 7))

/-- The date with the day kept, as far as possible, in a month of a computed year. -/
def resolveInYear (d : BareDate) (year month : Int) : Checked BareDate :=
  if year ∈ yearRange then
    resolvePrevious d.chronology year month d.day
  else
    Checked.ofExact (.error .arithmeticOverflow)

/-- The date a number of months later. -/
def plusMonths (d : BareDate) (months : Int) : Checked BareDate :=
  if months = 0 then
    .ok d
  else do
    let m ← Checked.ofExact (Amount.add (← prolepticMonth d) months)
    resolveInYear d (m / 12) (← Word.i64.add (m % 12) 1)

/-- The date a number of years later. -/
def plusYears (d : BareDate) (years : Int) : Checked BareDate :=
  if years = 0 then
    .ok d
  else do
    let year ← Checked.ofExact (Amount.add d.year years)
    resolveInYear d year d.month

/-- The date with one field replaced by a value in the range of the field. -/
def edit (d : BareDate) (field : Field) (value : Int) : Checked BareDate :=
  match field with
  | .dayOfWeek | .alignedDayOfWeekInMonth | .alignedDayOfWeekInYear | .dayOfYear => do
    plusDays d (← Word.i64.sub value (← get d field))
  | .alignedWeekOfMonth | .alignedWeekOfYear => do
    plusWeeks d (← Word.i64.sub value (← get d field))
  | .prolepticMonth => do plusMonths d (← Word.i64.sub value (← get d field))
  | .epochDay => dateFromEpochDay d.chronology value
  | .dayOfMonth => resolvePrevious d.chronology d.year d.month value
  | .monthOfYear => resolvePrevious d.chronology d.year value d.day
  | .yearOfEra => do resolvePrevious d.chronology (← yearInEra d.year value) d.month d.day
  | .year => resolvePrevious d.chronology value d.month d.day
  | .era =>
    if value = (Era.ofYear d.year).value then
      .ok d
    else do
      resolvePrevious d.chronology (← Word.i64.sub 1 d.year) d.month d.day

/-- The date with one field set to a value. -/
def set (d : BareDate) (field : Field) (value : Int) : Checked BareDate := do
  let value ← Checked.ofExact ((← validRange d.chronology field).check field value)
  edit d field value

/-- The date an amount of a unit later. -/
def plus (d : BareDate) (amount : Int) : TimeUnit → Checked BareDate
  | .days => plusDays d amount
  | .weeks => plusWeeks d amount
  | .months => plusMonths d amount
  | .years => plusYears d amount
  | .decades => do plusYears d (← Checked.ofExact (Amount.mul amount 10))
  | .centuries => do plusYears d (← Checked.ofExact (Amount.mul amount 100))
  | .millennia => do plusYears d (← Checked.ofExact (Amount.mul amount 1000))
  | .eras => do set d .era (← Checked.ofExact (Amount.add (Era.ofYear d.year).value amount))

/-- The date an amount of a unit earlier. -/
def minus (d : BareDate) (amount : Int) (unit : TimeUnit) : Checked BareDate := do
  plus d (← Checked.ofExact (Amount.neg amount)) unit

/-! ## Moves stop for refusals only -/

variable (d : Date) {value : Int}

theorem plusDays_eq (n : Int) : plusDays d.bare n = Checked.ofExact (d.bare.plusDays n) := by
  rw [plusDays, BareDate.plusDays]
  split
  · rfl
  · rw [epochDay_eq, Checked.ok_bind, Checked.ofExact_bind]
    refine congrArg (_ >>= ·) (funext fun e => ?_)
    rw [dateFromEpochDay_eq, Checked.mapRefusal_ofExact]

theorem plusWeeks_eq (n : Int) : plusWeeks d.bare n = Checked.ofExact (d.bare.plusWeeks n) := by
  rw [plusWeeks, BareDate.plusWeeks, Checked.ofExact_bind]
  exact congrArg (_ >>= ·) (funext fun days => plusDays_eq d days)

theorem resolveInYear_eq (d : BareDate) (year m : Int) :
    resolveInYear d year m = Checked.ofExact (d.resolveIn year m) := by
  rw [resolveInYear, BareDate.resolveIn]
  split
  · exact resolvePrevious_eq d.chronology year m d.day
  · rfl

theorem plusMonths_eq (n : Int) : plusMonths d.bare n = Checked.ofExact (d.bare.plusMonths n) := by
  rw [plusMonths, BareDate.plusMonths]
  split
  · rfl
  · rw [prolepticMonth_eq, Checked.ok_bind, Checked.ofExact_bind]
    refine congrArg (_ >>= ·) (funext fun m => ?_)
    have hmonth : m % 12 + 1 ∈ Word.i64.range := by
      rw [Word.mem_i64]
      omega
    rw [Word.add_of_mem hmonth, Checked.ok_bind, resolveInYear_eq]
    rfl

theorem plusYears_eq (n : Int) : plusYears d.bare n = Checked.ofExact (d.bare.plusYears n) := by
  rw [plusYears, BareDate.plusYears]
  split
  · rfl
  · rw [Checked.ofExact_bind]
    exact congrArg (_ >>= ·) (funext fun year => resolveInYear_eq d.bare year d.month)

/-! ## Edits stop for refusals only -/

/-- The difference between a value in range and the value before fits. -/
theorem sub_get_mem {f : Field} (h : value ∈ d.chronology.validRange f) :
    value - d.get f ∈ Word.i64.range := by
  have hvalue := Date.bounds_of_mem_validRange h
  have hbefore := Date.bounds_of_mem_validRange (d.get_mem_validRange f)
  rw [Word.mem_i64]
  omega

/-- **An edit stops for refusals only**, once its value is in range. -/
theorem edit_eq {f : Field} (h : value ∈ d.chronology.validRange f) :
    edit d.bare f value = Checked.ofExact (d.bare.edit f value) := by
  have hdiff : ∀ move : Int → Checked BareDate,
      (do move (← Word.i64.sub value (← get d.bare f))) = move (value - d.get f) := by
    intro move
    rw [get_eq, Checked.ok_bind, Word.sub_of_mem (sub_get_mem d h)]
    rfl
  obtain ⟨hy₁, hy₂⟩ := mem_yearRange.mp d.year_mem_yearRange
  simp only [minYear, maxYear] at hy₁ hy₂
  cases f with
  | dayOfWeek => exact (hdiff (plusDays d.bare)).trans (plusDays_eq d _)
  | alignedDayOfWeekInMonth => exact (hdiff (plusDays d.bare)).trans (plusDays_eq d _)
  | alignedDayOfWeekInYear => exact (hdiff (plusDays d.bare)).trans (plusDays_eq d _)
  | dayOfMonth => exact resolvePrevious_eq d.chronology d.year d.month value
  | dayOfYear => exact (hdiff (plusDays d.bare)).trans (plusDays_eq d _)
  | epochDay => exact dateFromEpochDay_eq d.chronology value
  | alignedWeekOfMonth => exact (hdiff (plusWeeks d.bare)).trans (plusWeeks_eq d _)
  | alignedWeekOfYear => exact (hdiff (plusWeeks d.bare)).trans (plusWeeks_eq d _)
  | monthOfYear => exact resolvePrevious_eq d.chronology d.year value d.day
  | prolepticMonth => exact (hdiff (plusMonths d.bare)).trans (plusMonths_eq d _)
  | yearOfEra =>
    obtain ⟨h₁, h₂⟩ : 1 ≤ value ∧ value ≤ 1000000000 := h
    rw [edit, yearInEra_eq (by omega) h₂, Checked.ok_bind]
    exact resolvePrevious_eq d.chronology ((Era.ofYear d.year).year value) d.month d.day
  | year => exact resolvePrevious_eq d.chronology value d.month d.day
  | era =>
    have hyear : 1 - d.bare.year ∈ Word.i64.range := by
      change 1 - d.year ∈ Word.i64.range
      rw [Word.mem_i64]
      omega
    rw [edit, BareDate.edit]
    change _ = Checked.ofExact (if value = (Era.ofYear d.bare.year).value then _ else _)
    split
    · rfl
    · rw [Word.sub_of_mem hyear, Checked.ok_bind]
      exact resolvePrevious_eq d.chronology (1 - d.year) d.month d.day

/-- **Setting a field stops for refusals only**, whatever the value. -/
theorem set_eq (f : Field) (value : Int) :
    set d.bare f value = Checked.ofExact (d.bare.set f value) := by
  have hrange : validRange d.bare.chronology f = .ok (d.chronology.validRange f) :=
    validRange_eq d.chronology f
  rw [set, BareDate.set, hrange, Checked.ok_bind]
  change _ = Checked.ofExact (if value ∈ d.chronology.validRange f then _ else _)
  by_cases h : value ∈ d.chronology.validRange f
  · rw [ValueRange.check_of_mem _ h, if_pos h, Checked.ofExact_ok, Checked.ok_bind, edit_eq d h]
  · rw [ValueRange.check_of_not_mem _ h, if_neg h]
    rfl

/-- **A move by a unit stops for refusals only**, whatever the amount. -/
theorem plus_eq (n : Int) (u : TimeUnit) : plus d.bare n u = Checked.ofExact (d.bare.plus n u) := by
  have hyears : ∀ factor : Int,
      (do plusYears d.bare (← Checked.ofExact (Amount.mul n factor))) =
        Checked.ofExact (do d.bare.plusYears (← Amount.mul n factor)) := by
    intro factor
    rw [Checked.ofExact_bind]
    exact congrArg (_ >>= ·) (funext fun years => plusYears_eq d years)
  cases u with
  | days => exact plusDays_eq d n
  | weeks => exact plusWeeks_eq d n
  | months => exact plusMonths_eq d n
  | years => exact plusYears_eq d n
  | decades => exact hyears 10
  | centuries => exact hyears 100
  | millennia => exact hyears 1000
  | eras =>
    rw [plus, BareDate.plus, Checked.ofExact_bind]
    exact congrArg (_ >>= ·) (funext fun era => set_eq d .era era)

/-- **A move back stops for refusals only**, whatever the amount. -/
theorem minus_eq (n : Int) (u : TimeUnit) :
    minus d.bare n u = Checked.ofExact (d.bare.minus n u) := by
  rw [minus, BareDate.minus, Checked.ofExact_bind]
  exact congrArg (_ >>= ·) (funext fun m => plus_eq d m u)

end Calendrics.Words
