import Calendrics.Log
import Calendrics.Text.Blank
import Calendrics.TimeUnit

/-!
# Reading names

Chronologies, fields and units are named by texts that people type and data sets carry, so names
are read leniently: white space around them is dropped, ASCII capitals count as small letters, and
for fields and units an underscore counts as a hyphen. A name that is not known is reported
without the white space, and otherwise as it was given.

Reading a chronology is logged, whether it succeeds or not, with the text exactly as given.
-/

namespace Calendrics

namespace Chronology

/-- The chronology with a given spelling, in lower case. -/
def ofSpelling? (spelling : String) : Option Chronology :=
  all.find? fun c => spelling ∈ c.spellings

/-- The chronology that a text names, and the log of it. -/
def parseLogged (s : String) : Logged Chronology :=
  match ofSpelling? (Text.foldCase (Text.trim s)) with
  | some c => ⟨[.resolvedIdentifier s c], .ok c⟩
  | none => ⟨[.unknownIdentifier s], .error (.unknownChronology (Text.trim s))⟩

/-- The chronology that a text names. -/
def parse (s : String) : Except CalendarError Chronology :=
  (parseLogged s).result

/-- The chronology that a data set's calendar attribute names, and the log of it. A missing
attribute means the default chronology. -/
def ofAttributeLogged : Option String → Logged Chronology
  | some s => parseLogged s
  | none => ⟨[.defaultedChronology default], .ok default⟩

/-- The chronology that a data set's calendar attribute names. -/
def ofAttribute (given : Option String) : Except CalendarError Chronology :=
  (ofAttributeLogged given).result

end Chronology

/-- The spelling that the names of fields and units are compared in. -/
def nameKey (s : String) : String :=
  Text.hyphenate (Text.foldCase (Text.trim s))

/-- The field that a text names. -/
def Field.parse (s : String) : Except CalendarError Field :=
  match Field.all.find? fun f => f.name = nameKey s with
  | some f => .ok f
  | none => .error (.unsupportedField (Text.trim s))

/-- The unit that a text names. -/
def TimeUnit.parse (s : String) : Except CalendarError TimeUnit :=
  match TimeUnit.all.find? fun u => u.name = nameKey s with
  | some u => .ok u
  | none => .error (.unsupportedUnit (Text.trim s))

end Calendrics
