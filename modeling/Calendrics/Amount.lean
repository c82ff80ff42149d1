import Calendrics.ValueRange

/-!
# Amounts

Numbers that callers pass in — amounts to move by, field values, years, day numbers — are signed
64-bit integers. The library computes with exact integers; where a sum, a product or a negation of
such numbers could leave the 64 bits, it is formed by one of the functions below, which refuse a
result that does not fit.
-/

namespace Calendrics.Amount

/-- The signed 64-bit integers. -/
def range : ValueRange where
  min := -9223372036854775808
  max := 9223372036854775807

/-- The signed 32-bit integers. -/
def narrowRange : ValueRange where
  min := -2147483648
  max := 2147483647

/-- A number that has to be an amount. -/
def ofInt (n : Int) : Except CalendarError Int :=
  if n ∈ range then .ok n else .error .arithmeticOverflow

/-- The sum of two amounts. -/
def add (a b : Int) : Except CalendarError Int :=
  ofInt (a + b)

/-- The product of two amounts. -/
def mul (a b : Int) : Except CalendarError Int :=
  ofInt (a * b)

/-- The negation of an amount. Only the least amount has none. -/
def neg (a : Int) : Except CalendarError Int :=
  ofInt (-a)

/-- An amount that has to fit in 32 bits. -/
def narrow (a : Int) : Except CalendarError Int :=
  if a ∈ narrowRange then .ok a else .error .arithmeticOverflow

theorem mem_range {n : Int} :
    n ∈ range ↔ -9223372036854775808 ≤ n ∧ n ≤ 9223372036854775807 :=
  Iff.rfl

theorem mem_narrowRange {n : Int} : n ∈ narrowRange ↔ -2147483648 ≤ n ∧ n ≤ 2147483647 :=
  Iff.rfl

/-- A number is an amount exactly when it fits in 64 bits, and is itself then. -/
theorem ofInt_eq_ok_iff {n m : Int} : ofInt n = .ok m ↔ n ∈ range ∧ m = n := by
  unfold ofInt
  split <;> simp_all [eq_comm]

/-- A number that fits in 64 bits is an amount. -/
theorem ofInt_of_mem {n : Int} (h : n ∈ range) : ofInt n = .ok n :=
  if_pos h

/-- A number that does not is none. -/
theorem ofInt_of_not_mem {n : Int} (h : n ∉ range) : ofInt n = .error .arithmeticOverflow :=
  if_neg h

/-- A number narrows to 32 bits exactly when it fits, and is itself then. -/
theorem narrow_eq_ok_iff {n m : Int} : narrow n = .ok m ↔ n ∈ narrowRange ∧ m = n := by
  unfold narrow
  split <;> simp_all [eq_comm]

end Calendrics.Amount
