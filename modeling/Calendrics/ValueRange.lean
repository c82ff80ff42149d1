import Calendrics.Error

/-!
# Ranges of field values

A `ValueRange` is the inclusive range of values that a field can take. It is never empty. A value
is checked against the range in one of two ways: as a proposition, `v ∈ r`, where a proof of it is
needed, or by `ValueRange.check`, which refuses the value with an error that names the field and
the range.
-/

namespace Calendrics

/-- A non-empty inclusive range of integers. -/
structure ValueRange where
  /-- the smallest value -/
  min : Int
  /-- the largest value -/
  max : Int
  /-- the range is not empty -/
  min_le_max : min ≤ max := by decide
deriving DecidableEq

namespace ValueRange

instance : Membership Int ValueRange where
  mem r v := r.min ≤ v ∧ v ≤ r.max

theorem mem_iff {r : ValueRange} {v : Int} : v ∈ r ↔ r.min ≤ v ∧ v ≤ r.max :=
  Iff.rfl

instance (v : Int) (r : ValueRange) : Decidable (v ∈ r) :=
  inferInstanceAs (Decidable (r.min ≤ v ∧ v ≤ r.max))

/-- The text of a range: its two ends. -/
def text (r : ValueRange) : String :=
  boundsText r.min r.max

/-- The error of a value outside the range. -/
def refusal (r : ValueRange) (field : Field) (value : Int) : CalendarError :=
  .invalidFieldValue field value r.min r.max

/-- The value itself if it lies in the range. -/
def check (r : ValueRange) (field : Field) (value : Int) : Except CalendarError Int :=
  if value ∈ r then .ok value else .error (r.refusal field value)

/-- A check leaves the members of the range as they are. -/
theorem check_of_mem {r : ValueRange} {v : Int} (field : Field) (h : v ∈ r) :
    r.check field v = .ok v :=
  if_pos h

/-- It refuses every other value. -/
theorem check_of_not_mem {r : ValueRange} {v : Int} (field : Field) (h : v ∉ r) :
    r.check field v = .error (r.refusal field v) :=
  if_neg h

end ValueRange

end Calendrics
