import Calendrics.Date.Arithmetic
import Calendrics.Proofs.Outcome
import Calendrics.Record.Read

/-!
# Dates without proofs

A `Date` carries the proof that there is such a day. A `BareDate` is what is left without it: a
year, a month and a day in a chronology, any numbers at all. Every way to make, edit or move a
date is written down here a second time for bare dates. Nothing has to be proved to build one, so
the only checks are those that the operations themselves make, and a check that was missing would
let a day through that does not exist.

The lemmas `bare_…` say that no check is missing: each operation on dates, with the proofs then
taken off its result, is the operation on bare dates. They hold for failures too, error by error.
-/

namespace Calendrics

/-- A year, a month and a day in a chronology, of which nothing is known. -/
@[ext]
structure BareDate extends YearMonthDay where
  /-- the calendar system that the year, month and day are counted in -/
  chronology : Chronology
deriving DecidableEq

/-- The date without its proof. -/
def Date.bare (d : Date) : BareDate := ⟨d.toYearMonthDay, d.chronology⟩

namespace BareDate

/-! ## Reading numbers off a bare date -/

/-- The number of the day. -/
def epochDay (d : BareDate) : Int :=
  d.chronology.epochDay d.toYearMonthDay

/-- The day of the year. -/
def dayOfYear (d : BareDate) : Int :=
  d.chronology.daysBeforeMonth d.year d.month + d.day

/-- The value of a field. -/
def get (d : BareDate) : Field → Int
  | .dayOfWeek => (d.epochDay + 3) % daysPerWeek + 1
  | .alignedDayOfWeekInMonth => Date.placeInWeek d.day
  | .alignedDayOfWeekInYear => Date.placeInWeek d.dayOfYear
  | .dayOfMonth => d.day
  | .dayOfYear => d.dayOfYear
  | .epochDay => d.epochDay
  | .alignedWeekOfMonth => Date.numberOfWeek d.day
  | .alignedWeekOfYear => Date.numberOfWeek d.dayOfYear
  | .monthOfYear => d.month
  | .prolepticMonth => d.year * monthsPerYear + d.month - 1
  | .yearOfEra => Era.yearOfEra d.year
  | .year => d.year
  | .era => (Era.ofYear d.year).value

/-! ## Making bare dates -/

/-- The year, the month and the day, moved back to the end of the month if it is later. -/
def resolve (c : Chronology) (year month day : Int) : Except CalendarError BareDate :=
  if year ∈ yearRange then
    if month ∈ monthRange then
      if 1 ≤ day then .ok ⟨⟨year, month, min day (c.lengthOfMonth year month)⟩, c⟩
      else .error (.invalidFieldValue .dayOfMonth day 1 (c.lengthOfMonth year month))
    else .error (monthRange.refusal .monthOfYear month)
  else .error (yearRange.refusal .year year)

/-- The year, the month and the day, if the month can have that day. -/
def ofFields (c : Chronology) (year month day : Int) : Except CalendarError BareDate :=
  if month ∈ monthRange then
    if 1 ≤ day ∧ day ≤ c.longestMonth month then resolve c year month day
    else .error (.invalidFieldValue .dayOfMonth day 1 (c.longestMonth month))
  else .error (monthRange.refusal .monthOfYear month)

/-- The year, the month and the day, if the day needs no moving back. -/
def ofFieldsExactly (c : Chronology) (year month day : Int) : Except CalendarError BareDate := do
  let d ← ofFields c year month day
  if d.day = day then
    return d
  else
    throw (.invalidFieldValue .dayOfMonth day 1 (d.chronology.lengthOfMonth d.year d.month))

/-- What the day number decodes to, if it is in the range. -/
def ofEpochDay (c : Chronology) (e : Int) : Except CalendarError BareDate :=
  if e ∈ c.epochDayRange then .ok ⟨c.ofEpochDay e, c⟩
  else .error (c.epochDayRange.refusal .epochDay e)

/-- What the day number decodes to in another chronology. -/
def convertTo (d : BareDate) (c : Chronology) : Except CalendarError BareDate :=
  ofEpochDay c d.epochDay

/-- What a stored value holds. -/
def read (x : Datum) : Except ReadError BareDate := do
  let (c, t) ← x.toDateParts
  (ofFieldsExactly c t.year t.month t.day).mapError .calendar

/-! ## Moving and editing bare dates -/

/-- A number of days later. -/
def plusDays (d : BareDate) (days : Int) : Except CalendarError BareDate :=
  if days = 0 then
    .ok d
  else do
    let e ← Amount.add d.epochDay days
    (ofEpochDay d.chronology e).mapError fun _ => .arithmeticOverflow

/-- A number of weeks later. -/
def plusWeeks (d : BareDate) (weeks : Int) : Except CalendarError BareDate := do
  d.plusDays (← Amount.mul weeks daysPerWeek)

/-- The day of the month kept, as far as possible, in another month. -/
def resolveIn (d : BareDate) (year month : Int) : Except CalendarError BareDate :=
  if year ∈ yearRange then resolve d.chronology year month d.day else .error .arithmeticOverflow

/-- A number of months later. -/
def plusMonths (d : BareDate) (months : Int) : Except CalendarError BareDate :=
  if months = 0 then
    .ok d
  else do
    let m ← Amount.add (d.get .prolepticMonth) months
    d.resolveIn (m / monthsPerYear) (m % monthsPerYear + 1)

/-- A number of years later. -/
def plusYears (d : BareDate) (years : Int) : Except CalendarError BareDate :=
  if years = 0 then
    .ok d
  else do
    let year ← Amount.add d.year years
    d.resolveIn year d.month

/-- One field replaced by a value in its range. -/
def edit (d : BareDate) (field : Field) (value : Int) : Except CalendarError BareDate :=
  match field with
  | .dayOfWeek | .alignedDayOfWeekInMonth | .alignedDayOfWeekInYear | .dayOfYear =>
    d.plusDays (value - d.get field)
  | .alignedWeekOfMonth | .alignedWeekOfYear => d.plusWeeks (value - d.get field)
  | .prolepticMonth => d.plusMonths (value - d.get field)
  | .epochDay => ofEpochDay d.chronology value
  | .dayOfMonth => resolve d.chronology d.year d.month value
  | .monthOfYear => resolve d.chronology d.year value d.day
  | .yearOfEra => resolve d.chronology ((Era.ofYear d.year).year value) d.month d.day
  | .year => resolve d.chronology value d.month d.day
  | .era =>
    if value = d.get .era then .ok d else resolve d.chronology (1 - d.year) d.month d.day

/-- One field set to a value. -/
def set (d : BareDate) (field : Field) (value : Int) : Except CalendarError BareDate :=
  if value ∈ d.chronology.validRange field then d.edit field value
  else .error ((d.chronology.validRange field).refusal field value)

/-- An amount of a unit later. -/
def plus (d : BareDate) (amount : Int) : TimeUnit → Except CalendarError BareDate
  | .days => d.plusDays amount
  | .weeks => d.plusWeeks amount
  | .months => d.plusMonths amount
  | .years => d.plusYears amount
  | .decades => do d.plusYears (← Amount.mul amount 10)
  | .centuries => do d.plusYears (← Amount.mul amount 100)
  | .millennia => do d.plusYears (← Amount.mul amount 1000)
  | .eras => do d.set .era (← Amount.add (d.get .era) amount)

/-- An amount of a unit earlier. -/
def minus (d : BareDate) (amount : Int) (unit : TimeUnit) : Except CalendarError BareDate := do
  d.plus (← Amount.neg amount) unit

/-- Refuses to go on with a value of another chronology. -/
def requireChronology (d : BareDate) (c : Chronology) : Except CalendarError Unit :=
  if d.chronology = c then .ok () else .error (.chronologyMismatch d.chronology c)

/-- A period later. -/
def plusPeriod (d : BareDate) (p : Period) : Except CalendarError BareDate := do
  d.requireChronology p.chronology
  let moved ← d.plusMonths p.totalMonths
  moved.plusDays p.days

/-- The gap between two bare dates. -/
def periodUntil (start finish : BareDate) : Except CalendarError Period := do
  start.requireChronology finish.chronology
  let months := finish.get .prolepticMonth - start.get .prolepticMonth
  let days := finish.day - start.day
  if 0 < months ∧ days < 0 then
    let moved ← start.plusMonths (months - 1)
    Period.ofMonthsDays start.chronology (months - 1) (finish.epochDay - moved.epochDay)
  else if months < 0 ∧ 0 < days then
    Period.ofMonthsDays start.chronology (months + 1)
      (days - finish.chronology.lengthOfMonth finish.year finish.month)
  else
    Period.ofMonthsDays start.chronology months days

end BareDate

/-! ## No check is missing -/

namespace Date

/-- Resolving needs no more than it checks. -/
theorem bare_resolve (c : Chronology) (year month day : Int) :
    (resolve c year month day).result.map bare = BareDate.resolve c year month day := by
  rw [resolve, BareDate.resolve]
  by_cases hy : year ∈ yearRange
  · by_cases hm : month ∈ monthRange
    · by_cases hd : 1 ≤ day
      · rw [dif_pos hy, dif_pos hm, dif_pos hd, if_pos hy, if_pos hm, if_pos hd]
        rfl
      · rw [dif_pos hy, dif_pos hm, dif_neg hd, if_pos hy, if_pos hm, if_neg hd]
        rfl
    · rw [dif_pos hy, dif_neg hm, if_pos hy, if_neg hm]
      rfl
  · rw [dif_neg hy, if_neg hy]
    rfl

/-- Making a date from fields needs no more than it checks. -/
theorem bare_ofFields (c : Chronology) (year month day : Int) :
    (ofFields c year month day).map bare = BareDate.ofFields c year month day := by
  rw [ofFields, ofFieldsLogged, BareDate.ofFields]
  by_cases hm : month ∈ monthRange
  · have hmem : day ∈ longestMonthRange c month hm ↔ 1 ≤ day ∧ day ≤ c.longestMonth month :=
      Iff.rfl
    by_cases hd : 1 ≤ day ∧ day ≤ c.longestMonth month
    · rw [dif_pos hm, if_pos (hmem.mpr hd), if_pos hm, if_pos hd]
      exact bare_resolve c year month day
    · rw [dif_pos hm, if_neg (mt hmem.mp hd), if_pos hm, if_neg hd]
      rfl
  · rw [dif_neg hm, if_neg hm]
    rfl

/-- Making exactly a date needs no more than it checks. -/
theorem bare_ofFieldsExactly (c : Chronology) (year month day : Int) :
    (ofFieldsExactly c year month day).map bare = BareDate.ofFieldsExactly c year month day := by
  rw [ofFieldsExactly, BareDate.ofFieldsExactly, Outcome.map_bind, ← bare_ofFields]
  cases ofFields c year month day with
  | error e => rfl
  | ok d =>
    change Except.map bare (if d.day = day then _ else _) = if d.day = day then _ else _
    split <;> rfl

/-- Finding the date of a day needs no more than it checks. -/
theorem bare_ofEpochDay (c : Chronology) (e : Int) :
    (ofEpochDay c e).map bare = BareDate.ofEpochDay c e := by
  rw [ofEpochDay, BareDate.ofEpochDay]
  by_cases he : e ∈ c.epochDayRange
  · rw [dif_pos he, if_pos he]
    rfl
  · rw [dif_neg he, if_neg he]
    rfl

/-- Conversion needs no more than it checks. -/
theorem bare_convertTo (d : Date) (c : Chronology) :
    (d.convertTo c).map bare = d.bare.convertTo c :=
  bare_ofEpochDay c d.epochDay

/-- Reading a date needs no more than it checks. -/
theorem bare_read (x : Datum) : x.toDate.map bare = BareDate.read x := by
  rw [Datum.toDate, BareDate.read, Outcome.map_bind]
  simp only [Outcome.map_mapError, bare_ofFieldsExactly]

/-- Day moves need no more than they check. -/
theorem bare_plusDays (d : Date) (days : Int) :
    (d.plusDays days).map bare = d.bare.plusDays days := by
  rw [plusDays, BareDate.plusDays]
  by_cases hn : days = 0
  · rw [if_pos hn, if_pos hn]
    rfl
  · rw [if_neg hn, if_neg hn, Outcome.map_bind]
    simp only [Outcome.map_mapError, bare_ofEpochDay]
    rfl

/-- Week moves need no more than they check. -/
theorem bare_plusWeeks (d : Date) (weeks : Int) :
    (d.plusWeeks weeks).map bare = d.bare.plusWeeks weeks := by
  rw [plusWeeks, BareDate.plusWeeks, Outcome.map_bind]
  simp only [bare_plusDays]

/-- Moving the day into another month needs no more than it checks. -/
theorem bare_resolveIn (d : Date) (year month : Int) :
    (d.resolveIn year month).result.map bare = d.bare.resolveIn year month := by
  rw [resolveIn, BareDate.resolveIn]
  by_cases hy : year ∈ yearRange
  · rw [if_pos hy, if_pos hy]
    exact bare_resolve d.chronology year month d.day
  · rw [if_neg hy, if_neg hy]
    rfl

/-- Month moves need no more than they check. -/
theorem bare_plusMonths (d : Date) (months : Int) :
    (d.plusMonths months).result.map bare = d.bare.plusMonths months := by
  rw [plusMonths, BareDate.plusMonths]
  by_cases hn : months = 0
  · rw [if_pos hn, if_pos hn]
    rfl
  · rw [if_neg hn, if_neg hn, Logged.result_bind, Logged.result_lift, Outcome.map_bind]
    simp only [bare_resolveIn]
    rfl

/-- Year moves need no more than they check. -/
theorem bare_plusYears (d : Date) (years : Int) :
    (d.plusYears years).result.map bare = d.bare.plusYears years := by
  rw [plusYears, BareDate.plusYears]
  by_cases hn : years = 0
  · rw [if_pos hn, if_pos hn]
    rfl
  · rw [if_neg hn, if_neg hn, Logged.result_bind, Logged.result_lift, Outcome.map_bind]
    simp only [bare_resolveIn]
    rfl

/-- Edits need no more than they check. -/
theorem bare_edit (d : Date) (field : Field) (value : Int) :
    (d.edit field value).result.map bare = d.bare.edit field value := by
  cases field with
  | dayOfWeek => exact bare_plusDays d _
  | alignedDayOfWeekInMonth => exact bare_plusDays d _
  | alignedDayOfWeekInYear => exact bare_plusDays d _
  | dayOfMonth => exact bare_resolve d.chronology d.year d.month value
  | dayOfYear => exact bare_plusDays d _
  | epochDay => exact bare_ofEpochDay d.chronology value
  | alignedWeekOfMonth => exact bare_plusWeeks d _
  | alignedWeekOfYear => exact bare_plusWeeks d _
  | monthOfYear => exact bare_resolve d.chronology d.year value d.day
  | prolepticMonth => exact bare_plusMonths d _
  | yearOfEra => exact bare_resolve d.chronology (d.yearInEra value) d.month d.day
  | year => exact bare_resolve d.chronology value d.month d.day
  | era =>
    change (if value = d.era.value then _ else _ : Logged Date).result.map bare =
      if value = d.era.value then _ else _
    split
    · rfl
    · exact bare_resolve d.chronology (1 - d.year) d.month d.day

/-- Setting a field needs no more than it checks. -/
theorem bare_set (d : Date) (field : Field) (value : Int) :
    (d.set field value).map bare = d.bare.set field value := by
  rw [set, setLogged, BareDate.set]
  by_cases hv : value ∈ d.chronology.validRange field
  · rw [if_pos hv]
    exact (bare_edit d field value).trans (if_pos hv).symm
  · rw [if_neg hv]
    exact (if_neg hv).symm

/-- Moves by a unit need no more than they check. -/
theorem bare_plus (d : Date) (amount : Int) (unit : TimeUnit) :
    (d.plus amount unit).map bare = d.bare.plus amount unit := by
  have hyears : ∀ factor : Int,
      (do d.plusYears (← Amount.mul amount factor) : Logged Date).result.map bare =
        (do d.bare.plusYears (← Amount.mul amount factor)) := by
    intro factor
    rw [Logged.result_bind, Logged.result_lift, Outcome.map_bind]
    simp only [bare_plusYears]
  cases unit with
  | days => exact bare_plusDays d amount
  | weeks => exact bare_plusWeeks d amount
  | months => exact bare_plusMonths d amount
  | years => exact bare_plusYears d amount
  | decades => exact hyears 10
  | centuries => exact hyears 100
  | millennia => exact hyears 1000
  | eras =>
    rw [plus, plusLogged, Logged.result_bind, Logged.result_lift, Outcome.map_bind]
    exact congrArg _ (funext fun era => bare_set d .era era)

/-- Moves back need no more than they check. -/
theorem bare_minus (d : Date) (amount : Int) (unit : TimeUnit) :
    (d.minus amount unit).map bare = d.bare.minus amount unit := by
  rw [minus, minusLogged, Logged.result_bind, Logged.result_lift, Outcome.map_bind]
  exact congrArg _ (funext fun n => bare_plus d n unit)

/-- Moves by a period need no more than they check. -/
theorem bare_plusPeriod (d : Date) (p : Period) :
    (d.plusPeriod p).map bare = d.bare.plusPeriod p := by
  rw [plusPeriod_eq, BareDate.plusPeriod, Outcome.map_bind, ← bare_plusMonths]
  simp only [Outcome.map_bind, bare_plusDays]
  cases (d.plusMonths p.totalMonths).result <;> rfl

/-- The gap between two dates is a matter of their numbers. -/
theorem periodUntil_bare (start finish : Date) :
    start.periodUntil finish = start.bare.periodUntil finish.bare := by
  rw [periodUntil, periodUntilLogged, BareDate.periodUntil, Logged.result_bind, Logged.result_lift]
  refine congrArg (start.requireChronology finish.chronology >>= ·) (funext fun _ => ?_)
  change (if _ then _ else _ : Logged Period).result = if _ then _ else _
  rw [apply_ite Logged.result, apply_ite Logged.result, Logged.result_bind, ← bare_plusMonths]
  -- only the borrowed month goes through a date in between
  congr 1
  change _ =
    (start.plusMonths (finish.prolepticMonth - start.prolepticMonth - 1)).result.map bare >>=
      fun moved => _
  cases (start.plusMonths (finish.prolepticMonth - start.prolepticMonth - 1)).result <;> rfl

end Date

end Calendrics
