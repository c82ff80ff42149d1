import Calendrics.Error

/-!
# Log events

Three things are worth a note in a log: an identifier was read (or could not be), a missing
calendar attribute was taken to mean the default chronology, and the day of a date was moved back
to the end of its month. An `Event` says which of them happened, and how it is written.

A computation that may log is a `Logged` value: its events in the order in which they were
recorded, beside its result. The events of a failed computation are kept, up to the failure.

- `>>=` puts the events of the first computation before those of the second, and runs the second
  only after a success;
- computations without events, in `Except CalendarError`, are lifted.

The equations at the end say what each of these does to the result and to the events.
-/

namespace Calendrics

/-- How important an event is. -/
inductive Level where
  /-- of interest when following a single operation -/
  | debug
  /-- of interest when following every step -/
  | trace
deriving DecidableEq

namespace Level

/-- The name of a level. -/
def name : Level → String
  | debug => "DEBUG"
  | trace => "TRACE"

end Level

/-- What an event says about one of its fields. -/
inductive EventValue where
  /-- a text -/
  | text (s : String)
  /-- a number -/
  | number (n : Int)
deriving DecidableEq

/-- Something that happened. -/
inductive Event where
  /-- a text was read as the identifier of a chronology -/
  | resolvedIdentifier (identifier : String) (chronology : Chronology)
  /-- a text is no chronology's identifier -/
  | unknownIdentifier (identifier : String)
  /-- no attribute was given, so the default chronology is used -/
  | defaultedChronology (chronology : Chronology)
  /-- the requested day does not exist, so the last day of the month is used -/
  | clampedDay (chronology : Chronology) (year month requested resolved : Int)
deriving DecidableEq

namespace Event

/-- The level an event is recorded at. -/
def level : Event → Level
  | clampedDay .. => .trace
  | _ => .debug

/-- The text of an event. -/
def message : Event → String
  | resolvedIdentifier .. => "resolved chronology identifier"
  | unknownIdentifier .. => "unknown chronology identifier"
  | defaultedChronology .. => "no calendar attribute, using default chronology"
  | clampedDay .. => "clamped day to end of month"

/-- The named values of an event, in the order in which they are written. -/
def fields : Event → List (String × EventValue)
  | resolvedIdentifier identifier chronology =>
    [("identifier", .text identifier), ("chronology", .text chronology.name)]
  | unknownIdentifier identifier => [("identifier", .text identifier)]
  | defaultedChronology chronology => [("chronology", .text chronology.name)]
  | clampedDay chronology year month requested resolved =>
    [("chronology", .text chronology.name), ("year", .number year), ("month", .number month),
      ("requested", .number requested), ("resolved", .number resolved)]

end Event

/-- A result together with the events recorded on the way to it. -/
structure Logged (α : Type) where
  /-- what was recorded, in order -/
  events : List Event
  /-- what came out -/
  result : Except CalendarError α

namespace Logged

variable {α β : Type}

/-- A computation that records nothing. -/
def ofExcept (x : Except CalendarError α) : Logged α :=
  ⟨[], x⟩

/-- One computation after another: a failure of the first is the outcome, else the events add
up. -/
def andThen (x : Logged α) (f : α → Logged β) : Logged β :=
  match x.result with
  | .ok a => ⟨x.events ++ (f a).events, (f a).result⟩
  | .error e => ⟨x.events, .error e⟩

instance : Monad Logged where
  pure a := ofExcept (.ok a)
  bind := andThen

instance : MonadLift (Except CalendarError) Logged := ⟨ofExcept⟩

@[simp] theorem result_ofExcept (x : Except CalendarError α) : (ofExcept x).result = x := rfl

@[simp] theorem events_ofExcept (x : Except CalendarError α) : (ofExcept x).events = [] := rfl

@[simp] theorem result_pure (a : α) : (pure a : Logged α).result = .ok a := rfl

@[simp] theorem events_pure (a : α) : (pure a : Logged α).events = [] := rfl

/-- Results compose as if nothing were recorded. -/
theorem result_bind (x : Logged α) (f : α → Logged β) :
    (x >>= f).result = x.result >>= fun a => (f a).result := by
  show (andThen x f).result = _
  unfold andThen
  cases x.result <;> rfl

/-- After a success the events add up. -/
theorem events_bind_of_ok {x : Logged α} {f : α → Logged β} {a : α} (h : x.result = .ok a) :
    (x >>= f).events = x.events ++ (f a).events := by
  show (andThen x f).events = _
  simp [andThen, h]

/-- After a failure nothing more is recorded. -/
theorem events_bind_of_error {x : Logged α} {f : α → Logged β} {e : CalendarError}
    (h : x.result = .error e) : (x >>= f).events = x.events := by
  show (andThen x f).events = _
  simp [andThen, h]

end Logged

end Calendrics
