import Calendrics.Proofs.Words.Gaps

/-!
# No operation wraps

All operations that calculate with numbers, on any dates and with any numbers as arguments, and
their answers: with exact integers (`Operation.answer`), as the library calculates them, and in
machine words (`Operation.answerInWords`), where every step that could leave its word or its table
stops the calculation. The two are the same: in words, an operation stops only where it refuses its
arguments, and then with the same error (`Operation.answers_fit_words`). Comparisons, names and
texts are not among the operations: they calculate nothing, and the numbers in them are fields.

Dates are supported days by construction. Periods are not: one could have parts of any size. Those
that come about are gaps between dates and gaps turned round, and only of those the statement
speaks (`Period.Reachable`).
-/

namespace Calendrics

/-- Some run of the calculator comes to the period. -/
def Period.Reachable (p : Period) : Prop :=
  ∃ requests, p ∈ (Calculator.ofDates.run requests).periods

/-- Periods that come about are small. -/
theorem Period.Reachable.inReach {p : Period} (h : p.Reachable) : p.InReach := by
  obtain ⟨requests, hp⟩ := h
  exact Calculator.inReach_of_mem_run hp

/-- An operation that calculates with numbers, and its arguments. -/
inductive Operation where
  /-- the leap rule -/
  | isLeapYear (c : Chronology) (year : Int)
  /-- the length of a month -/
  | lengthOfMonth (c : Chronology) (year month : Int)
  /-- the length of a year -/
  | lengthOfYear (c : Chronology) (year : Int)
  /-- the values of a field in a chronology -/
  | validRange (c : Chronology) (field : Field)
  /-- a date from fields -/
  | ofFields (c : Chronology) (year month day : Int)
  /-- a date as it was stored -/
  | ofFieldsExactly (c : Chronology) (year month day : Int)
  /-- a date from a day number -/
  | ofEpochDay (c : Chronology) (e : Int)
  /-- the same day in another chronology -/
  | convertTo (d : Date) (c : Chronology)
  /-- a field of a date -/
  | get (d : Date) (field : Field)
  /-- the values of a field around a date -/
  | range (d : Date) (field : Field)
  /-- the length of the month of a date -/
  | lengthOfOwnMonth (d : Date)
  /-- the length of the year of a date -/
  | lengthOfOwnYear (d : Date)
  /-- the number that a date is hashed by -/
  | hashWord (d : Date)
  /-- a date with one field set -/
  | set (d : Date) (field : Field) (value : Int)
  /-- a date an amount of a unit later -/
  | plus (d : Date) (amount : Int) (unit : TimeUnit)
  /-- a date an amount of a unit earlier -/
  | minus (d : Date) (amount : Int) (unit : TimeUnit)
  /-- a date a period later -/
  | plusPeriod (d : Date) (p : Period)
  /-- the units between two dates -/
  | unitsUntil (start finish : Date) (unit : TimeUnit)
  /-- the gap between two dates -/
  | periodUntil (start finish : Date)
  /-- the years and months of a period as months -/
  | totalMonths (p : Period)
  /-- a period turned round -/
  | negated (p : Period)

/-- What an operation answers. -/
inductive Answer where
  /-- yes or no -/
  | flag (b : Bool)
  /-- a number -/
  | number (n : Int)
  /-- a range of values -/
  | range (r : ValueRange)
  /-- a date, without its proof -/
  | date (d : BareDate)
  /-- a period -/
  | period (p : Period)

namespace Operation

/-- The periods among the arguments are periods that come about. -/
def PeriodsReachable : Operation → Prop
  | plusPeriod _ p | totalMonths p | negated p => p.Reachable
  | _ => True

/-- The answer with exact integers. -/
def answer : Operation → Except CalendarError Answer
  | isLeapYear c year => .ok (.flag (c.isLeapYear year))
  | lengthOfMonth c year month => (c.checkedLengthOfMonth year month).map .number
  | lengthOfYear c year => .ok (.number (c.lengthOfYear year))
  | validRange c field => .ok (.range (c.validRange field))
  | ofFields c year month day => (Date.ofFields c year month day).map (.date ∘ Date.bare)
  | ofFieldsExactly c year month day =>
    (Date.ofFieldsExactly c year month day).map (.date ∘ Date.bare)
  | ofEpochDay c e => (Date.ofEpochDay c e).map (.date ∘ Date.bare)
  | convertTo d c => (d.convertTo c).map (.date ∘ Date.bare)
  | get d field => .ok (.number (d.get field))
  | range d field => .ok (.range (d.range field))
  | lengthOfOwnMonth d => .ok (.number d.lengthOfMonth)
  | lengthOfOwnYear d => .ok (.number d.lengthOfYear)
  | hashWord d => .ok (.number d.hashWord)
  | set d field value => (d.set field value).map (.date ∘ Date.bare)
  | plus d amount unit => (d.plus amount unit).map (.date ∘ Date.bare)
  | minus d amount unit => (d.minus amount unit).map (.date ∘ Date.bare)
  | plusPeriod d p => (d.plusPeriod p).map (.date ∘ Date.bare)
  | unitsUntil start finish unit => (start.unitsUntil finish unit).map .number
  | periodUntil start finish => (start.periodUntil finish).map .period
  | totalMonths p => .ok (.number p.totalMonths)
  | negated p => .ok (.period p.negated)

/-- The answer in words. -/
def answerInWords : Operation → Checked Answer
  | isLeapYear c year => .ok (.flag (Words.isLeapYear c year))
  | lengthOfMonth c year month => (Words.checkedLengthOfMonth c year month).map .number
  | lengthOfYear c year => (Words.lengthOfYear c year).map .number
  | validRange c field => (Words.validRange c field).map .range
  | ofFields c year month day => (Words.dateFromFields c year month day).map .date
  | ofFieldsExactly c year month day => (Words.dateFromFieldsExactly c year month day).map .date
  | ofEpochDay c e => (Words.dateFromEpochDay c e).map .date
  | convertTo d c => (Words.convertTo d.bare c).map .date
  | get d field => (Words.get d.bare field).map .number
  | range d field => (Words.range d.bare field).map .range
  | lengthOfOwnMonth d => (Words.lengthOfMonth d.chronology d.year d.month).map .number
  | lengthOfOwnYear d => (Words.lengthOfYear d.chronology d.year).map .number
  | hashWord d => (Words.hashWord d.bare).map .number
  | set d field value => (Words.set d.bare field value).map .date
  | plus d amount unit => (Words.plus d.bare amount unit).map .date
  | minus d amount unit => (Words.minus d.bare amount unit).map .date
  | plusPeriod d p => (Words.plusPeriod d.bare p).map .date
  | unitsUntil start finish unit => (Words.unitsUntil start.bare finish.bare unit).map .number
  | periodUntil start finish => (Words.periodUntil start.bare finish.bare).map .period
  | totalMonths p => (Words.totalMonths p).map .number
  | negated p => (Words.negated p).map .period

/-- A date in words is the answer if its exact counterpart is the date without its proof. -/
theorem map_date_eq {x : Checked BareDate} {y : Except CalendarError BareDate}
    {z : Except CalendarError Date} (hwords : x = Checked.ofExact y) (hbare : z.map Date.bare = y) :
    x.map Answer.date = Checked.ofExact (z.map (.date ∘ Date.bare)) := by
  subst hwords hbare
  cases z <;> rfl

/-- **The answer in words is the exact answer.** -/
theorem answerInWords_eq (op : Operation) (h : op.PeriodsReachable) :
    op.answerInWords = Checked.ofExact op.answer := by
  cases op with
  | isLeapYear c year =>
    exact congrArg (fun leap => Except.ok (Answer.flag leap)) (Words.isLeapYear_eq c year)
  | lengthOfMonth c year month =>
    rw [answerInWords, answer, Words.checkedLengthOfMonth_eq, Checked.ofExact_map]
  | lengthOfYear c year => exact congrArg (Except.map _) (Words.lengthOfYear_eq c year)
  | validRange c field => exact congrArg (Except.map _) (Words.validRange_eq c field)
  | ofFields c year month day =>
    exact map_date_eq (Words.dateFromFields_eq c year month day) (Date.bare_ofFields c year month day)
  | ofFieldsExactly c year month day =>
    exact map_date_eq (Words.dateFromFieldsExactly_eq c year month day)
      (Date.bare_ofFieldsExactly c year month day)
  | ofEpochDay c e => exact map_date_eq (Words.dateFromEpochDay_eq c e) (Date.bare_ofEpochDay c e)
  | convertTo d c => exact map_date_eq (Words.convertTo_eq d c) (Date.bare_convertTo d c)
  | get d field => exact congrArg (Except.map _) (Words.get_eq d field)
  | range d field => exact congrArg (Except.map _) (Words.range_eq d field)
  | lengthOfOwnMonth d => exact congrArg (Except.map _) (Words.lengthOfMonth_date d)
  | lengthOfOwnYear d => exact congrArg (Except.map _) (Words.lengthOfYear_eq d.chronology d.year)
  | hashWord d => exact congrArg (Except.map _) (Words.hashWord_eq d)
  | set d field value => exact map_date_eq (Words.set_eq d field value) (Date.bare_set d field value)
  | plus d amount unit =>
    exact map_date_eq (Words.plus_eq d amount unit) (Date.bare_plus d amount unit)
  | minus d amount unit =>
    exact map_date_eq (Words.minus_eq d amount unit) (Date.bare_minus d amount unit)
  | plusPeriod d p =>
    exact map_date_eq (Words.plusPeriod_eq d h.inReach) (Date.bare_plusPeriod d p)
  | unitsUntil start finish unit =>
    rw [answerInWords, answer, Words.unitsUntil_eq, Checked.ofExact_map]
  | periodUntil start finish =>
    rw [answerInWords, answer, Words.periodUntil_eq, Checked.ofExact_map]
  | totalMonths p => exact congrArg (Except.map _) (Words.totalMonths_eq h.inReach)
  | negated p => exact congrArg (Except.map _) (Words.negated_eq h.inReach)

/-- **No operation wraps, and none leaves a table**: whatever dates and numbers it is given, and
whatever periods that come about, an operation in words stops only to refuse its arguments; and it
answers what it answers with exact integers. -/
theorem answers_fit_words (op : Operation) (h : op.PeriodsReachable) :
    (∀ s, op.answerInWords = .error s → ∃ e, s = .refused e) ∧
      op.answerInWords = Checked.ofExact op.answer := by
  have hanswer := op.answerInWords_eq h
  refine ⟨?_, hanswer⟩
  intro s hs
  rw [hanswer] at hs
  exact Checked.exists_refused_of_ofExact hs

/-- The gap from the last supported day back to the first, turned round. -/
theorem answers_fit_words_widest :
    (negated ⟨.iso, -1999999998, -11, -30⟩).PeriodsReachable ∧
      (negated ⟨.iso, -1999999998, -11, -30⟩).answerInWords =
        .ok (.period ⟨.iso, 1999999998, 11, 30⟩) := by
  have hreachable : (negated ⟨.iso, -1999999998, -11, -30⟩).PeriodsReachable :=
    ⟨[.ofFields .iso 999999999 12 31, .ofFields .iso (-999999999) 1 1, .periodUntil 0 1],
      by decide⟩
  exact ⟨hreachable, (answers_fit_words _ hreachable).2⟩

end Operation

end Calendrics
