import Calendrics.Date.Arithmetic
import Calendrics.Record.Read
import Calendrics.Record.Write

/-!
# Sessions

A session is a small calculator for dates. It has a current date, a marked date to measure
against, and possibly a period. Each step works on these and answers with a value or with nothing;
a step that fails changes nothing.
-/

namespace Calendrics

/-- What a session remembers. -/
structure Session where
  /-- the date that steps work on -/
  current : Date
  /-- the date that steps measure against -/
  mark : Date
  /-- the last period, if any -/
  period : Option Period

namespace Session

/-- One step of a session. -/
inductive Step where
  /-- move the current date forward -/
  | plus (amount : Int) (unit : TimeUnit)
  /-- move the current date back -/
  | minus (amount : Int) (unit : TimeUnit)
  /-- set a field of the current date -/
  | set (field : Field) (value : Int)
  /-- convert the current date to another chronology -/
  | convert (chronology : Chronology)
  /-- store the current date and read it back -/
  | reload
  /-- mark the current date -/
  | mark
  /-- exchange the current date and the mark -/
  | swap
  /-- a field of the current date -/
  | get (field : Field)
  /-- the range of a field of the current date -/
  | range (field : Field)
  /-- compare the current date with the mark -/
  | compare
  /-- whole units from the current date to the mark -/
  | unitsUntil (unit : TimeUnit)
  /-- the period from the current date to the mark -/
  | period
  /-- turn the period round -/
  | negate
  /-- move the current date by the period -/
  | apply
  /-- a part of the period -/
  | periodGet (unit : TimeUnit)

/-- What a step answers. -/
inductive Answer where
  /-- nothing: the step only changed the session -/
  | nothing
  /-- a number -/
  | number (n : Int)
  /-- a range -/
  | range (r : ValueRange)
  /-- two dates and how they compare -/
  | comparison (a b : Date)

/-- Why a step failed. -/
inductive StepError where
  /-- the calculation failed -/
  | calendar (e : CalendarError)
  /-- the stored date could not be read back -/
  | read (e : ReadError)
  /-- there is no period yet -/
  | noPeriod

/-- A session that begins with a date, which is also its mark. -/
def start (d : Date) : Session := ⟨d, d, none⟩

/-- The session with another current date. -/
def moved (s : Session) (d : Except CalendarError Date) :
    Except StepError (Session × Answer) := do
  return ({ s with current := ← d.mapError .calendar }, .nothing)

/-- The period, which has to be there. -/
def requirePeriod (s : Session) : Except StepError Period :=
  match s.period with
  | some p => .ok p
  | none => .error .noPeriod

/-- One step: the session after it and its answer. -/
def step (s : Session) : Step → Except StepError (Session × Answer)
  | .plus amount unit => s.moved (s.current.plus amount unit)
  | .minus amount unit => s.moved (s.current.minus amount unit)
  | .set field value => s.moved (s.current.set field value)
  | .convert chronology => s.moved (s.current.convertTo chronology)
  | .reload => do
    return ({ s with current := ← s.current.toDatum.toDate.mapError .read }, .nothing)
  | .mark => .ok ({ s with mark := s.current }, .nothing)
  | .swap => .ok ({ s with current := s.mark, mark := s.current }, .nothing)
  | .get field => .ok (s, .number (s.current.get field))
  | .range field => .ok (s, .range (s.current.range field))
  | .compare => .ok (s, .comparison s.current s.mark)
  | .unitsUntil unit => do
    return (s, .number (← (s.current.unitsUntil s.mark unit).mapError .calendar))
  | .period => do
    return ({ s with period := some (← (s.current.periodUntil s.mark).mapError .calendar) },
      .nothing)
  | .negate => do
    return ({ s with period := some (← s.requirePeriod).negated }, .nothing)
  | .apply => do
    s.moved (s.current.plusPeriod (← s.requirePeriod))
  | .periodGet unit => do
    return (s, .number (← ((← s.requirePeriod).get unit).mapError .calendar))

end Session

end Calendrics
