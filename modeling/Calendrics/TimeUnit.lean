/-!
# Units of calendar time

A **unit** is what dates are moved by and what the gap between two dates is counted in. Days and
weeks are runs of days; months, years and their multiples are runs of months; an era is the step
between the years before year one and those from it on.
-/

namespace Calendrics

/-- A unit of calendar time. -/
inductive TimeUnit where
  /-- one day -/
  | days
  /-- seven days -/
  | weeks
  /-- one month -/
  | months
  /-- twelve months -/
  | years
  /-- ten years -/
  | decades
  /-- a hundred years -/
  | centuries
  /-- a thousand years -/
  | millennia
  /-- the step from one era to the other -/
  | eras
deriving DecidableEq

namespace TimeUnit

/-- Every unit, shortest first. -/
def all : List TimeUnit := [days, weeks, months, years, decades, centuries, millennia, eras]

/-- The name of a unit: a lower-case plural. -/
def name : TimeUnit → String
  | days => "days"
  | weeks => "weeks"
  | months => "months"
  | years => "years"
  | decades => "decades"
  | centuries => "centuries"
  | millennia => "millennia"
  | eras => "eras"

/-- The list is complete. -/
theorem mem_all (u : TimeUnit) : u ∈ all := by
  cases u <;> decide

/-- The name tells units apart. -/
theorem name_inj {u u' : TimeUnit} : u.name = u'.name ↔ u = u' := by
  have hdistinct : ∀ u ∈ all, ∀ u' ∈ all, u.name = u'.name → u = u' := by decide
  exact ⟨hdistinct u u.mem_all u' u'.mem_all, congrArg name⟩

end TimeUnit

end Calendrics
