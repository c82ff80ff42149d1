/-!
# Lists of month lengths

The shape of a year is the list of the lengths of its months, the first month first. Months are
named by their number, from 1. This module has the three things that are asked of such a list: how
long a month is, how many days come before it, and how many days there are in all.
-/

namespace Calendrics.Months

/-- The days of all months. -/
def total : List Int → Int
  | [] => 0
  | length :: rest => length + total rest

/-- The length of a month, by its number. -/
def lengthOf (months : List Int) (month : Int) : Int :=
  months.getD (month - 1).toNat 0

/-- The days of the months before a month, by its number. -/
def before (months : List Int) (month : Int) : Int :=
  total (months.take (month - 1).toNat)

@[simp] theorem total_nil : total [] = 0 := rfl

@[simp] theorem total_cons (length : Int) (rest : List Int) :
    total (length :: rest) = length + total rest := rfl

@[simp] theorem lengthOf_first (length : Int) (rest : List Int) :
    lengthOf (length :: rest) 1 = length := rfl

@[simp] theorem before_first (months : List Int) : before months 1 = 0 := by
  cases months <;> rfl

/-- The later months of a list are the months of its tail. -/
theorem lengthOf_cons_succ (length : Int) (rest : List Int) {month : Int} (h : 1 ≤ month) :
    lengthOf (length :: rest) (month + 1) = lengthOf rest month := by
  unfold lengthOf
  rw [show (month + 1 - 1).toNat = (month - 1).toNat + 1 by omega, List.getD_cons_succ]

/-- Before a later month come the first month and the months before it in the tail. -/
theorem before_cons_succ (length : Int) (rest : List Int) {month : Int} (h : 1 ≤ month) :
    before (length :: rest) (month + 1) = length + before rest month := by
  unfold before
  rw [show (month + 1 - 1).toNat = (month - 1).toNat + 1 by omega, List.take_succ_cons,
    total_cons]

end Calendrics.Months
