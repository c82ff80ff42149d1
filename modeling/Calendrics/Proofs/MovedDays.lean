import Calendrics.Proofs.Periods
import Calendrics.Proofs.Strides

/-!
# When the log tells of a moved day

A day that is moved back to the end of its month is logged, by the one step that moves days back
(`Date.resolve`). This step is deep inside of calls that come to it in many ways: they check and
multiply first, take shortcuts where nothing is to be done, or move by days and never come to it. What
a caller can rely on is short:

* every call has a day of the month that it resolves, or has none (`DateCall.requestedDay`): the day
  that is asked for, or the day of the date that is moved, or none if the date is moved by days;
* `DateCall.records` — **a call that succeeds on another day has recorded that, once, and nothing else
  is recorded**, of failures neither;
* `events_plusPeriodLogged` — moving by a period records what its months record, even if its days then
  fail;
* `BorrowsForward.events_eq` — measuring a gap moves by months where it takes back a month going
  forward, and records what this move records;
* `moved_days_logged` — both together, with what is written.
-/

namespace Calendrics

/-! ## What is written -/

/-- The event tells of a date whose day was moved back from the requested one. -/
structure Event.TellsOf (event : Event) (d : Date) (requested : Int) : Prop where
  /-- what happened -/
  message_eq : event.message = "clamped day to end of month"
  /-- to which date, and from which day to which -/
  fields_eq : event.fields =
    [("chronology", .text d.chronology.name), ("year", .number d.year), ("month", .number d.month),
      ("requested", .number requested), ("resolved", .number d.day)]

/-- There is one such event. -/
theorem Event.tellsOf_iff {event : Event} {d : Date} {requested : Int} :
    event.TellsOf d requested ↔
      event = .clampedDay d.chronology d.year d.month requested d.day := by
  refine ⟨?_, ?_⟩
  · rintro ⟨hmessage, hfields⟩
    cases event with
    | clampedDay c year month day resolved =>
      simp only [fields, List.cons.injEq, Prod.mk.injEq, EventValue.text.injEq,
        EventValue.number.injEq, Chronology.name_inj, true_and, and_true] at hfields
      obtain ⟨rfl, rfl, rfl, rfl, rfl⟩ := hfields
      rfl
    | resolvedIdentifier => simp [message] at hmessage
    | unknownIdentifier => simp [message] at hmessage
    | defaultedChronology => simp [message] at hmessage
  · rintro rfl
    exact ⟨rfl, rfl⟩

/-! ## Calls -/

/-- The day of the month that an edit resolves: the value, if it is the day that is set; the day of
the date, if the date goes to another month; none, if it moves by days. -/
def Field.requestedDay (field : Field) (d : Date) (value : Int) : Option Int :=
  match field with
  | dayOfMonth => some value
  | monthOfYear | prolepticMonth | yearOfEra | year | era => some d.day
  | dayOfWeek | alignedDayOfWeekInMonth | alignedDayOfWeekInYear | dayOfYear | epochDay
  | alignedWeekOfMonth | alignedWeekOfYear => none

/-- The day of the month that a move resolves: the day of the date, unless it moves by days. -/
def TimeUnit.requestedDay (unit : TimeUnit) (d : Date) : Option Int :=
  match unit with
  | days | weeks => none
  | months | years | decades | centuries | millennia | eras => some d.day

/-- A call that makes a date, from fields or from another date. -/
inductive DateCall where
  /-- a date from fields -/
  | ofFields (c : Chronology) (year month day : Int)
  /-- a date with one field set -/
  | set (d : Date) (field : Field) (value : Int)
  /-- a date an amount of a unit later -/
  | plus (d : Date) (amount : Int) (unit : TimeUnit)
  /-- a date an amount of a unit earlier -/
  | minus (d : Date) (amount : Int) (unit : TimeUnit)

namespace DateCall

/-- The call, and the log of it. -/
def logged : DateCall → Logged Date
  | ofFields c year month day => Date.ofFieldsLogged c year month day
  | set d field value => d.setLogged field value
  | plus d amount unit => d.plusLogged amount unit
  | minus d amount unit => d.minusLogged amount unit

/-- What the call comes to. -/
def result : DateCall → Except CalendarError Date
  | ofFields c year month day => Date.ofFields c year month day
  | set d field value => d.set field value
  | plus d amount unit => d.plus amount unit
  | minus d amount unit => d.minus amount unit

/-- The day of the month that the call resolves, if it does. -/
def requestedDay : DateCall → Option Int
  | ofFields _ _ _ day => some day
  | set d field value => field.requestedDay d value
  | plus d _ unit => unit.requestedDay d
  | minus d _ unit => unit.requestedDay d

/-- The call makes a date with another day than the one it resolves. -/
structure MovesBack (call : DateCall) (day : Int) (d : Date) : Prop where
  /-- it succeeds -/
  result_eq : call.result = .ok d
  /-- it resolves a day -/
  requestedDay_eq : call.requestedDay = some day
  /-- and the day has become another -/
  day_ne : d.day ≠ day

/-- The log comes with the result. -/
theorem result_logged (call : DateCall) : call.logged.result = call.result := by
  cases call <;> rfl

end DateCall

namespace Date

/-! ## The logs of calls -/

/-- **Making a date leniently** checks the month and the day, and then resolves the day. -/
theorem records_ofFieldsLogged (c : Chronology) (year month day : Int) :
    Records (ofFieldsLogged c year month day) (some day) := by
  by_cases hm : month ∈ monthRange
  · by_cases hd : day ∈ longestMonthRange c month hm
    · rw [ofFieldsLogged, dif_pos hm, if_pos hd]
      exact records_resolve c year month day
    · rw [ofFieldsLogged, dif_pos hm, if_neg hd]
      exact records_error _ _
  · rw [ofFieldsLogged, dif_neg hm]
    exact records_error _ _

/-- **Edits** that move by days record nothing; the others resolve a day, or keep the date. -/
theorem records_edit (d : Date) (field : Field) (value : Int) :
    Records (d.edit field value) (field.requestedDay d value) := by
  cases field with
  | dayOfWeek => exact records_ofExcept _
  | alignedDayOfWeekInMonth => exact records_ofExcept _
  | alignedDayOfWeekInYear => exact records_ofExcept _
  | dayOfMonth => exact records_resolve _ _ _ _
  | dayOfYear => exact records_ofExcept _
  | epochDay => exact records_ofExcept _
  | alignedWeekOfMonth => exact records_ofExcept _
  | alignedWeekOfYear => exact records_ofExcept _
  | monthOfYear => exact records_resolve _ _ _ _
  | prolepticMonth => exact records_plusMonths _ _
  | yearOfEra => exact records_resolve _ _ _ _
  | year => exact records_resolve _ _ _ _
  | era =>
    by_cases hera : value = d.era.value
    · rw [edit, if_pos hera]
      exact records_pure d
    · rw [edit, if_neg hera]
      exact records_resolve _ _ _ _

theorem records_setLogged (d : Date) (field : Field) (value : Int) :
    Records (d.setLogged field value) (field.requestedDay d value) := by
  by_cases hv : value ∈ d.chronology.validRange field
  · rw [setLogged, if_pos hv]
    exact d.records_edit field value
  · rw [setLogged, if_neg hv]
    exact records_error _ _

/-- **Moves** by days and weeks record nothing; the others move by months or to the other era. -/
theorem records_plusLogged (d : Date) (amount : Int) (unit : TimeUnit) :
    Records (d.plusLogged amount unit) (unit.requestedDay d) := by
  have hyears : ∀ n, Records (d.plusYears n) (some d.day) := by
    intro n
    rw [plusYears_eq_plusMonths]
    exact d.records_plusMonths _
  cases unit with
  | days => exact records_ofExcept _
  | weeks => exact records_ofExcept _
  | months => exact d.records_plusMonths amount
  | years => exact hyears amount
  | decades => exact records_bind _ hyears
  | centuries => exact records_bind _ hyears
  | millennia => exact records_bind _ hyears
  | eras => exact records_bind _ fun era => d.records_setLogged .era era

theorem records_minusLogged (d : Date) (amount : Int) (unit : TimeUnit) :
    Records (d.minusLogged amount unit) (unit.requestedDay d) :=
  records_bind _ fun n => d.records_plusLogged n unit

end Date

namespace DateCall

variable {call : DateCall} {d : Date} {day : Int}

/-- **Every call keeps its log as it should be.** -/
theorem records (call : DateCall) : Date.Records call.logged call.requestedDay := by
  cases call with
  | ofFields c year month day => exact Date.records_ofFieldsLogged c year month day
  | set d field value => exact d.records_setLogged field value
  | plus d amount unit => exact d.records_plusLogged amount unit
  | minus d amount unit => exact d.records_minusLogged amount unit

/-- A call that moves a day back records it, and nothing else. -/
theorem events_of_movesBack (h : call.MovesBack day d) :
    call.logged.events = [.clampedDay d.chronology d.year d.month day d.day] := by
  obtain ⟨hresult, hday, hne⟩ := h
  rw [call.records.of_ok d (call.result_logged.trans hresult), hday, Date.resolvedEvents,
    Date.clampEvents_of_ne hne]

/-- Every other call records nothing, whether it succeeds or fails. -/
theorem events_of_not_movesBack (h : ∀ day d, ¬call.MovesBack day d) :
    call.logged.events = [] := by
  cases hresult : call.logged.result with
  | error e => exact call.records.of_error e hresult
  | ok d =>
    rw [call.records.of_ok d hresult]
    cases hday : call.requestedDay with
    | none => rfl
    | some day =>
      refine Date.clampEvents_eq_nil_iff.mpr ?_
      by_contra hne
      exact h day d ⟨call.result_logged.symm.trans hresult, hday, hne⟩

end DateCall

namespace Date

/-! ## The log of a move by a period -/

/-- **Moving by a period records what moving by its months records**, whatever then comes of its days.
A period of another chronology is refused before, and nothing is recorded. -/
theorem events_plusPeriodLogged (d : Date) (p : Period) :
    (d.plusPeriodLogged p).events =
      if d.chronology = p.chronology then (d.plusMonths p.totalMonths).events else [] := by
  by_cases hc : d.chronology = p.chronology
  · rw [plusPeriodLogged, requireChronology, if_pos hc, if_pos hc, Logged.lift_ok_bind]
    cases hmove : (d.plusMonths p.totalMonths).result with
    | error e => exact Logged.events_bind_of_error hmove
    | ok moved =>
      rw [Logged.events_bind_of_ok hmove]
      exact List.append_nil _
  · rw [plusPeriodLogged, requireChronology, if_neg hc, if_neg hc, Logged.lift_error_bind]
    rfl

/-- So a move that fails can have recorded that it moved a day back. -/
example : (plusPeriodLogged ⟨⟨999999999, 10, 31⟩, .iso, by decide⟩ ⟨.iso, 0, 1, 32⟩).events =
      [.clampedDay .iso 999999999 11 31 30] ∧
    plusPeriod ⟨⟨999999999, 10, 31⟩, .iso, by decide⟩ ⟨.iso, 0, 1, 32⟩ =
      .error .arithmeticOverflow :=
  ⟨rfl, rfl⟩

variable {start finish shifted : Date}

/-! ## The log of a gap -/

/-- The gap takes back a month going forward, and counts its days from the date that the remaining
months lead to. -/
structure BorrowsForward (start finish shifted : Date) : Prop where
  /-- there is a gap -/
  chronology_eq : start.chronology = finish.chronology
  /-- it goes forward by months -/
  month_lt : start.prolepticMonth < finish.prolepticMonth
  /-- but not by days of the month -/
  day_lt : finish.day < start.day
  /-- where all months but one lead -/
  shifted_eq : start.plus (finish.prolepticMonth - start.prolepticMonth - 1) .months = .ok shifted

/-- Where a month is taken back going forward, the remaining months lead to a date. -/
theorem exists_borrowsForward (hc : start.chronology = finish.chronology)
    (hm : start.prolepticMonth < finish.prolepticMonth) (hd : finish.day < start.day) :
    ∃ shifted, start.BorrowsForward finish shifted := by
  have hfirst := start.firstMonth_le_prolepticMonth
  have hlast := finish.prolepticMonth_le_lastMonth
  obtain ⟨shifted, hshifted⟩ := start.exists_plusMonths
    (n := finish.prolepticMonth - start.prolepticMonth - 1) (by omega) (by omega)
  exact ⟨shifted, hc, hm, hd, hshifted⟩

/-- The gap then records what moving by the remaining months records. -/
theorem BorrowsForward.events_eq (h : start.BorrowsForward finish shifted) :
    (start.periodUntilLogged finish).events = clampEvents start.day shifted := by
  obtain ⟨hc, hm, hd, hshifted⟩ := h
  have hmove : (start.plusMonths (finish.prolepticMonth - start.prolepticMonth - 1)).result =
      .ok shifted := hshifted
  rw [periodUntilLogged_eq hc, if_pos ⟨by omega, by omega⟩, Logged.events_bind_of_ok hmove,
    events_plusMonths hmove]
  exact List.append_nil _

/-- **A gap that takes back no month going forward records nothing.** -/
theorem events_periodUntilLogged (h : ∀ shifted, ¬start.BorrowsForward finish shifted) :
    (start.periodUntilLogged finish).events = [] := by
  by_cases hc : start.chronology = finish.chronology
  · have hforward : ¬(0 < finish.prolepticMonth - start.prolepticMonth ∧
        finish.day - start.day < 0) := by
      rintro ⟨hm, hd⟩
      obtain ⟨shifted, hshifted⟩ := exists_borrowsForward hc (by omega) (by omega)
      exact h shifted hshifted
    rw [periodUntilLogged_eq hc, if_neg hforward]
    split <;> rfl
  · rw [periodUntilLogged_eq_mismatch hc]
    rfl

end Date

/-! ## All logs -/

/-- **Moved days are logged, once and truthfully, and nothing else is.** A call that makes a date from
fields, by an edit or by a move records one event if it makes a date with another day of the month
than the one it resolves, and the event tells of that date and that day; in every other case, as when
it fails or moves by days or weeks, it records none. Measuring a gap records one event if a month is
taken back going forward and the date that the remaining months lead to has another day than the
start, and the event tells of that date; in every other case it records none. -/
theorem moved_days_logged :
    (∀ call : DateCall,
      (∀ day d, call.MovesBack day d →
        ∃ event, call.logged.events = [event] ∧ event.TellsOf d day) ∧
      ((∀ day d, ¬call.MovesBack day d) → call.logged.events = [])) ∧
    ∀ start finish : Date,
      (∀ shifted, start.BorrowsForward finish shifted → shifted.day ≠ start.day →
        ∃ event, (start.periodUntilLogged finish).events = [event] ∧
          event.TellsOf shifted start.day) ∧
      ((∀ shifted, start.BorrowsForward finish shifted → shifted.day = start.day) →
        (start.periodUntilLogged finish).events = []) := by
  refine ⟨fun call => ⟨?_, DateCall.events_of_not_movesBack⟩, fun start finish => ⟨?_, ?_⟩⟩
  · intro day d h
    exact ⟨_, DateCall.events_of_movesBack h, Event.tellsOf_iff.mpr rfl⟩
  · intro shifted h hday
    refine ⟨_, ?_, Event.tellsOf_iff.mpr rfl⟩
    rw [h.events_eq, Date.clampEvents_of_ne hday]
  · intro hkept
    by_cases hborrows : ∃ shifted, start.BorrowsForward finish shifted
    · obtain ⟨shifted, h⟩ := hborrows
      rw [h.events_eq]
      exact Date.clampEvents_eq_nil_iff.mpr (hkept shifted h)
    · exact Date.events_periodUntilLogged (not_exists.mp hborrows)

/-- From 31 January 2023 a month later is 28 February, which is logged; 28 days later is 28 February as
well, which is not. The gap from 31 January to 30 March is measured by way of 28 February, which is
logged, and the gap to 30 April by way of 31 March, which is not. -/
theorem moved_days_logged_january :
    (DateCall.MovesBack (.plus ⟨⟨2023, 1, 31⟩, .iso, by decide⟩ 1 .months) 31
        ⟨⟨2023, 2, 28⟩, .iso, by decide⟩ ∧
      ∃ event, (DateCall.plus ⟨⟨2023, 1, 31⟩, .iso, by decide⟩ 1 .months).logged.events = [event] ∧
        event.TellsOf ⟨⟨2023, 2, 28⟩, .iso, by decide⟩ 31) ∧
    ((∀ day d, ¬DateCall.MovesBack (.plus ⟨⟨2023, 1, 31⟩, .iso, by decide⟩ 28 .days) day d) ∧
      (DateCall.plus ⟨⟨2023, 1, 31⟩, .iso, by decide⟩ 28 .days).logged.events = []) ∧
    (Date.BorrowsForward ⟨⟨2023, 1, 31⟩, .iso, by decide⟩ ⟨⟨2023, 3, 30⟩, .iso, by decide⟩
        ⟨⟨2023, 2, 28⟩, .iso, by decide⟩ ∧
      ∃ event, (Date.periodUntilLogged ⟨⟨2023, 1, 31⟩, .iso, by decide⟩
          ⟨⟨2023, 3, 30⟩, .iso, by decide⟩).events = [event] ∧
        event.TellsOf ⟨⟨2023, 2, 28⟩, .iso, by decide⟩ 31) ∧
    (Date.BorrowsForward ⟨⟨2023, 1, 31⟩, .iso, by decide⟩ ⟨⟨2023, 4, 30⟩, .iso, by decide⟩
        ⟨⟨2023, 3, 31⟩, .iso, by decide⟩ ∧
      (Date.periodUntilLogged ⟨⟨2023, 1, 31⟩, .iso, by decide⟩
          ⟨⟨2023, 4, 30⟩, .iso, by decide⟩).events = []) := by
  obtain ⟨hcalls, hgaps⟩ := moved_days_logged
  let january : Date := ⟨⟨2023, 1, 31⟩, .iso, by decide⟩
  let march : Date := ⟨⟨2023, 3, 31⟩, .iso, by decide⟩
  have hmonth : DateCall.MovesBack (.plus january 1 .months) 31
      ⟨⟨2023, 2, 28⟩, .iso, by decide⟩ := ⟨rfl, rfl, by decide⟩
  have hdays : ∀ day d, ¬DateCall.MovesBack (.plus january 28 .days) day d := by
    rintro day d ⟨-, hday, -⟩
    cases hday
  have hfebruary : january.BorrowsForward ⟨⟨2023, 3, 30⟩, .iso, by decide⟩
      ⟨⟨2023, 2, 28⟩, .iso, by decide⟩ := ⟨rfl, by decide, by decide, rfl⟩
  have hmarch : january.BorrowsForward ⟨⟨2023, 4, 30⟩, .iso, by decide⟩ march :=
    ⟨rfl, by decide, by decide, rfl⟩
  have hkept : ∀ shifted, january.BorrowsForward ⟨⟨2023, 4, 30⟩, .iso, by decide⟩ shifted →
      shifted.day = january.day := by
    intro shifted h
    obtain rfl := Except.ok.inj (hmarch.shifted_eq.symm.trans h.shifted_eq)
    rfl
  exact ⟨⟨hmonth, (hcalls _).1 31 _ hmonth⟩, ⟨hdays, (hcalls _).2 hdays⟩,
    ⟨hfebruary, (hgaps _ _).1 _ hfebruary (by decide)⟩, hmarch, (hgaps _ _).2 hkept⟩

end Calendrics
