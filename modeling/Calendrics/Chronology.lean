/-!
# Chronologies

A **chronology** is a calendar system: a rule that gives every day a year, a month and a day of
the month. This library knows five, a closed set:

- `iso` — the proleptic Gregorian calendar, the reference for day numbers;
- `julian` — the proleptic Julian calendar, a leap year every fourth year;
- `noLeap` — every year is a common year of 365 days;
- `allLeap` — every year is a leap year of 366 days;
- `uniform30` — twelve months of thirty days each.

All five have twelve months and count years through zero. What a year of each looks like is in
`Calendrics.Chronology.Year`; how days are numbered is in `Calendrics.Chronology.EpochDay`.
-/

namespace Calendrics

/-- A calendar system. -/
inductive Chronology where
  /-- the proleptic Gregorian calendar -/
  | iso
  /-- the proleptic Julian calendar -/
  | julian
  /-- the 365-day calendar, which has no leap years -/
  | noLeap
  /-- the 366-day calendar, which has only leap years -/
  | allLeap
  /-- the 360-day calendar of twelve thirty-day months -/
  | uniform30
deriving DecidableEq

namespace Chronology

/-- A chronology that nobody named is the proleptic Gregorian one. -/
instance : Inhabited Chronology := ⟨iso⟩

/-- Every chronology, in the order in which they are listed and indexed. -/
def all : List Chronology := [iso, julian, noLeap, allLeap, uniform30]

/-- The position of a chronology in `all`. -/
def index : Chronology → Nat
  | iso => 0
  | julian => 1
  | noLeap => 2
  | allLeap => 3
  | uniform30 => 4

/-- The canonical identifier, as data sets write it in their `calendar` attribute. -/
def name : Chronology → String
  | iso => "iso8601"
  | julian => "julian"
  | noLeap => "noleap"
  | allLeap => "allleap"
  | uniform30 => "360_day"

/-- The identifiers that denote a chronology when read, in lower case. The canonical one is
always among them. -/
def spellings : Chronology → List String
  | iso => ["iso8601", "proleptic_gregorian"]
  | julian => ["julian"]
  | noLeap => ["noleap", "no_leap", "365_day"]
  | allLeap => ["allleap", "all_leap", "366_day"]
  | uniform30 => ["360_day", "uniform30day"]

/-- The list is complete. -/
theorem mem_all (c : Chronology) : c ∈ all := by
  cases c <;> decide

/-- The index locates the chronology in the list. -/
theorem getElem?_all_index (c : Chronology) : all[c.index]? = some c := by
  cases c <;> rfl

/-- The index tells chronologies apart. -/
theorem index_inj {c c' : Chronology} : c.index = c'.index ↔ c = c' := by
  refine ⟨fun h => ?_, congrArg index⟩
  have hplace := c.getElem?_all_index
  rw [h, getElem?_all_index] at hplace
  exact (Option.some.inj hplace).symm

/-- So does the name. -/
theorem name_inj {c c' : Chronology} : c.name = c'.name ↔ c = c' := by
  cases c <;> cases c' <;> decide

/-- The canonical identifier is read. -/
theorem name_mem_spellings (c : Chronology) : c.name ∈ c.spellings := by
  cases c <;> decide

/-- Every identifier denotes one chronology. -/
theorem spellings_unique (name : String) (c c' : Chronology) (h : name ∈ c.spellings)
    (h' : name ∈ c'.spellings) : c = c' := by
  have hdistinct : ∀ c ∈ all, ∀ c' ∈ all, ∀ name ∈ c.spellings, name ∈ c'.spellings → c = c' := by
    decide
  exact hdistinct c c.mem_all c' c'.mem_all name h h'

end Chronology

end Calendrics
