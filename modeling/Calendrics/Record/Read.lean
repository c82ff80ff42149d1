import Calendrics.Date.Make
import Calendrics.Name
import Calendrics.Record.Datum

/-!
# Reading stored values

Reading is stricter than parsing what people type. Names of fields, units and eras have to be
spelled exactly; only a chronology goes through the lenient `Chronology.parse`. The numbers of a
date have to name a day that exists in that very year.

A date is read from a record, whatever its further entries, or from a list of its four parts. The
entries of a record are read one after the other, and the first that cannot be read, or that gives a
part a second time, is the error; only then a missing part is noticed, and only then the numbers are
looked at together.

A name that stands alone may also be the single key of a record whose value is null.
-/

namespace Calendrics

/-- Why a stored value could not be read. -/
inductive ReadError where
  /-- the value was understood, but is not possible -/
  | calendar (e : CalendarError)
  /-- a record lacks an entry -/
  | missingField (key : String)
  /-- a record has two entries with one key -/
  | duplicateField (key : String)
  /-- a value of another kind than the one wanted -/
  | wrongType (found : Datum) (wanted : String)
  /-- a whole number that does not fit in what is wanted -/
  | outOfRange (n : Int) (wanted : String)
  /-- a name that is not among the known ones -/
  | unknownVariant (name : String) (known : List String)
  /-- a list with the wrong number of items -/
  | wrongLength (length : Nat) (wanted : String)
  /-- a record with no or several keys in place of a name -/
  | notSingleKey

namespace ReadError

/-- The names that were possible. -/
def choices (known : List String) : String :=
  match known.map Datum.marked with
  | [] => "there are no variants"
  | [a] => "expected " ++ a
  | [a, b] => "expected " ++ a ++ " or " ++ b
  | many => "expected one of " ++ ", ".intercalate many

/-- The text of an error. -/
def message : ReadError → String
  | calendar e => e.message
  | missingField key => "missing field " ++ Datum.marked key
  | duplicateField key => "duplicate field " ++ Datum.marked key
  | wrongType found wanted => "invalid type: " ++ found.description ++ ", expected " ++ wanted
  | outOfRange n wanted =>
    "invalid value: " ++ (Datum.integer n).description ++ ", expected " ++ wanted
  | unknownVariant name known => "unknown variant " ++ Datum.marked name ++ ", " ++ choices known
  | wrongLength length wanted =>
    "invalid length " ++ toString length ++ ", expected " ++ wanted
  | notSingleKey => "invalid value: map, expected map with a single key"

end ReadError

namespace Datum

/-- A whole number that is an amount. -/
def toAmount : Datum → Except ReadError Int
  | integer n => if n ∈ Amount.range then .ok n else .error (.outOfRange n "i64")
  | found => .error (.wrongType found "i64")

/-- A chronology. -/
def toChronology : Datum → Except ReadError Chronology
  | text s => (Chronology.parse s).mapError .calendar
  | found => .error (.wrongType found "a string")

/-- The value with an exact name. -/
def findNamed {α : Type} (known : List α) (name : α → String) (s : String) :
    Except ReadError α :=
  match known.find? fun a => name a = s with
  | some a => .ok a
  | none => .error (.unknownVariant s (known.map name))

/-- A value that is stored by its name. -/
def toNamed {α : Type} (known : List α) (name : α → String) : Datum → Except ReadError α
  | text s => findNamed known name s
  | record [(key, value)] => do
    let a ← findNamed known name key
    match value with
    | null => return a
    | found => throw (.wrongType found "unit")
  | record _ => .error .notSingleKey
  | found => .error (.wrongType found "string or map")

/-- A field. -/
def toField : Datum → Except ReadError Field :=
  toNamed Field.all Field.name

/-- A unit. -/
def toTimeUnit : Datum → Except ReadError TimeUnit :=
  toNamed TimeUnit.all TimeUnit.name

/-- An era. -/
def toEra : Datum → Except ReadError Era :=
  toNamed Era.all Era.name

end Datum

/-! ## The parts of a date -/

/-- What a date is read from. -/
inductive DatePart where
  /-- the chronology -/
  | chronology
  /-- the year -/
  | year
  /-- the month -/
  | month
  /-- the day of the month -/
  | day
deriving DecidableEq

namespace DatePart

/-- Every part. -/
def all : List DatePart := [chronology, year, month, day]

/-- The key of a part in a record. -/
def name : DatePart → String
  | chronology => "chronology"
  | year => "year"
  | month => "month"
  | day => "day"

/-- The part with a given key. -/
def named? (key : String) : Option DatePart :=
  all.find? fun part => part.name = key

/-- What a part is once it is read. -/
abbrev Value : DatePart → Type
  | chronology => Chronology
  | year | month | day => Int

/-- Reading a part. -/
def read : (part : DatePart) → Datum → Except ReadError part.Value
  | chronology => Datum.toChronology
  | year | month | day => Datum.toAmount

/-- The chronology is read as a text that names it. -/
theorem read_chronology (s : String) :
    chronology.read (.text s) = (Chronology.parse s).mapError .calendar :=
  rfl

/-- A part is found by its key, and by no other. -/
theorem named?_eq_some_iff {part : DatePart} {key : String} :
    named? key = some part ↔ part.name = key := by
  refine ⟨?_, ?_⟩
  · intro h
    rw [named?] at h
    simpa using List.find?_some h
  · rintro rfl
    cases part <;> rfl

end DatePart

/-- The parts that have been read so far. -/
def DateParts : Type :=
  (part : DatePart) → Option part.Value

namespace DateParts

/-- Before anything is read. -/
def empty : DateParts :=
  fun _ => none

/-- One more part. -/
def put (parts : DateParts) (part : DatePart) (value : part.Value) : DateParts :=
  fun other => if h : part = other then some (h ▸ value) else parts other

/-- Reading one entry of a record: a part that has not been read yet, or something else, which is
left alone. A part that has been read is refused before its value is looked at. -/
def readEntry (parts : DateParts) (entry : String × Datum) : Except ReadError DateParts :=
  match DatePart.named? entry.1 with
  | none => .ok parts
  | some part =>
    match parts part with
    | some _ => .error (.duplicateField part.name)
    | none => (part.read entry.2).map (parts.put part)

/-- A part that has to be there. -/
def require (parts : DateParts) (part : DatePart) : Except ReadError part.Value :=
  match parts part with
  | some value => .ok value
  | none => .error (.missingField part.name)

theorem put_self (parts : DateParts) (part : DatePart) (value : part.Value) :
    parts.put part value part = some value :=
  dif_pos rfl

theorem put_of_ne (parts : DateParts) {part other : DatePart} (value : part.Value)
    (h : part ≠ other) : parts.put part value other = parts other :=
  dif_neg h

end DateParts

namespace Datum

/-- What a date is read from: a chronology, a year, a month and a day. -/
def toDateParts : Datum → Except ReadError (Chronology × YearMonthDay)
  | record entries => do
    let parts ← entries.foldlM DateParts.readEntry .empty
    let chronology ← parts.require .chronology
    let year ← parts.require .year
    let month ← parts.require .month
    let day ← parts.require .day
    return (chronology, ⟨year, month, day⟩)
  | list items => do
    let short := ReadError.wrongLength items.length "struct DateFields with 4 elements"
    let c :: rest := items | throw short
    let chronology ← c.toChronology
    let y :: rest := rest | throw short
    let year ← y.toAmount
    let m :: rest := rest | throw short
    let month ← m.toAmount
    let d :: rest := rest | throw short
    let day ← d.toAmount
    if rest.isEmpty then
      return (chronology, ⟨year, month, day⟩)
    else
      throw (.wrongLength items.length "fewer elements in array")
  | found => .error (.wrongType found "struct DateFields")

/-- A date. -/
def toDate (x : Datum) : Except ReadError Date := do
  let (c, t) ← x.toDateParts
  (Date.ofFieldsExactly c t.year t.month t.day).mapError .calendar

end Datum

end Calendrics
