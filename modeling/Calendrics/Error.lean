import Calendrics.Chronology
import Calendrics.Field
import Calendrics.Text.Quoted

/-!
# What can go wrong

Every fallible operation of the library fails for one of six causes. A cause carries what a
caller needs to act on it; the wording is in one place, `CalendarError.message`.
-/

namespace Calendrics

/-- Why an operation on dates failed. -/
inductive CalendarError where
  /-- a field value outside the range that the field has there -/
  | invalidFieldValue (field : Field) (value min max : Int)
  /-- a text that names no field -/
  | unsupportedField (name : String)
  /-- a text that names no unit, or a unit that the operation does not offer -/
  | unsupportedUnit (name : String)
  /-- an amount or a result beyond what is supported -/
  | arithmeticOverflow
  /-- a text that names no chronology -/
  | unknownChronology (identifier : String)
  /-- two values of different chronologies were combined -/
  | chronologyMismatch (expected found : Chronology)
deriving DecidableEq

/-- The inclusive bounds of a range, as they are shown. -/
def boundsText (min max : Int) : String :=
  toString min ++ "..=" ++ toString max

namespace CalendarError

/-- The text of an error. Only an unknown chronology is quoted. -/
def message : CalendarError → String
  | invalidFieldValue field value min max =>
    "invalid value for " ++ field.name ++ ": " ++ toString value ++
      " (must be " ++ boundsText min max ++ ")"
  | unsupportedField name => "unsupported field: " ++ name
  | unsupportedUnit name => "unsupported unit: " ++ name
  | arithmeticOverflow => "arithmetic overflow"
  | unknownChronology identifier => "unknown chronology: " ++ Text.quote identifier
  | chronologyMismatch expected found =>
    "chronology mismatch: expected " ++ expected.name ++ ", found " ++ found.name

end CalendarError

end Calendrics
