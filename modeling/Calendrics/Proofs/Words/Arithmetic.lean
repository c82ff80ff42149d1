import Calendrics.Amount
import Calendrics.Proofs.Outcome

/-!
# Machine words

The library computes with exact integers. A machine does so with words of a fixed width, and where
a result does not fit its word, or a place is not in a table, it has no result that is of use. The
calculations in `Calendrics.Proofs.Words` are those of the library, in words, and written so that
they stop there: every sum, difference, product, negation, shift and narrowing is made by a `Word`,
every entry of a table is fetched by `lookup`. Quotients and remainders are not: they are taken by
positive constants only, and are no larger than the number that is divided.

* `Word` — the types of machine integers, and the ranges of numbers they hold;
* `Stop` — why a calculation stops: because it refuses its input, as it does with exact integers,
  or because of a step that should never be made;
* `Checked` — the calculations that may stop; `Checked.ofExact` are those that only refuse.

A step is described by one lemma: if the exact result fits, it is the result.
-/

namespace Calendrics

/-- A type of machine integers. -/
inductive Word where
  /-- signed, 64 bits -/
  | i64
  /-- signed, 32 bits -/
  | i32
  /-- unsigned, 16 bits -/
  | u16
  /-- unsigned, 8 bits -/
  | u8
deriving DecidableEq

/-- Why a calculation in words stops. -/
inductive Stop where
  /-- the input is refused, with an error -/
  | refused (e : CalendarError)
  /-- a number does not fit its word -/
  | wrapped (w : Word) (n : Int)
  /-- there is no such place in the table -/
  | outside (place : Int)
  /-- the range has no elements -/
  | emptyRange (min max : Int)
deriving DecidableEq

/-- A calculation in words. -/
abbrev Checked := Except Stop

namespace Checked

variable {α β : Type}

/-- A calculation that may refuse its input, but makes no other stop. -/
def ofExact (x : Except CalendarError α) : Checked α :=
  x.mapError .refused

/-- The calculation with its refusals changed. -/
def mapRefusal (f : CalendarError → CalendarError) (x : Checked α) : Checked α :=
  x.mapError fun
    | .refused e => .refused (f e)
    | stop => stop

theorem ok_bind (a : α) (f : α → Checked β) : (.ok a : Checked α) >>= f = f a := rfl

theorem ofExact_ok (a : α) : ofExact (.ok a) = .ok a := rfl

/-- A sequence that only refuses is a sequence in words. -/
theorem ofExact_bind (x : Except CalendarError α) (f : α → Except CalendarError β) :
    ofExact (x >>= f) = ofExact x >>= fun a => ofExact (f a) := by
  cases x <;> rfl

/-- So is its result, mapped. -/
theorem ofExact_map (x : Except CalendarError α) (f : α → β) :
    ofExact (x.map f) = (ofExact x).map f := by
  cases x <;> rfl

/-- Where there are only refusals, changing them is changing the errors. -/
theorem mapRefusal_ofExact (f : CalendarError → CalendarError) (x : Except CalendarError α) :
    mapRefusal f (ofExact x) = ofExact (x.mapError f) := by
  cases x <;> rfl

/-- A calculation that makes no stop but refusals stops for nothing else. -/
theorem exists_refused_of_ofExact {x : Except CalendarError α} {s : Stop}
    (h : ofExact x = .error s) : ∃ e, s = .refused e := by
  obtain ⟨e, -, he⟩ := Outcome.mapError_eq_error_iff.mp h
  exact ⟨e, he⟩

end Checked

/-! ## Arithmetic -/

namespace Word

/-- The numbers that fit the word. -/
def range : Word → ValueRange
  | i64 => Amount.range
  | i32 => Amount.narrowRange
  | u16 => { min := 0, max := 65535 }
  | u8 => { min := 0, max := 255 }

theorem mem_i64 {n : Int} :
    n ∈ i64.range ↔ -9223372036854775808 ≤ n ∧ n ≤ 9223372036854775807 := Iff.rfl

theorem mem_i32 {n : Int} : n ∈ i32.range ↔ -2147483648 ≤ n ∧ n ≤ 2147483647 := Iff.rfl

theorem mem_u16 {n : Int} : n ∈ u16.range ↔ 0 ≤ n ∧ n ≤ 65535 := Iff.rfl

theorem mem_u8 {n : Int} : n ∈ u8.range ↔ 0 ≤ n ∧ n ≤ 255 := Iff.rfl

/-- A number as a word, which has to hold it. -/
def hold (w : Word) (n : Int) : Checked Int :=
  if n ∈ w.range then .ok n else .error (.wrapped w n)

/-- The sum of two words. -/
def add (w : Word) (a b : Int) : Checked Int := w.hold (a + b)

/-- The difference of two words. -/
def sub (w : Word) (a b : Int) : Checked Int := w.hold (a - b)

/-- The product of two words. -/
def mul (w : Word) (a b : Int) : Checked Int := w.hold (a * b)

/-- The negation of a word. -/
def neg (w : Word) (a : Int) : Checked Int := w.hold (-a)

/-- A word moved up by a number of bits, none of which may be lost. -/
def shiftLeft (w : Word) (a : Int) (bits : Nat) : Checked Int := w.hold (a <<< bits)

variable {w : Word} {a b : Int}

theorem hold_of_mem (h : a ∈ w.range) : w.hold a = .ok a := if_pos h

theorem add_of_mem (h : a + b ∈ w.range) : w.add a b = .ok (a + b) := hold_of_mem h

theorem sub_of_mem (h : a - b ∈ w.range) : w.sub a b = .ok (a - b) := hold_of_mem h

theorem mul_of_mem (h : a * b ∈ w.range) : w.mul a b = .ok (a * b) := hold_of_mem h

theorem neg_of_mem (h : -a ∈ w.range) : w.neg a = .ok (-a) := hold_of_mem h

end Word

/-! ## Tables and ranges -/

namespace Words

/-- The entry of a table at a place, counted from 0. -/
def lookup (table : List Int) (place : Int) : Checked Int :=
  if 0 ≤ place then
    match table[place.toNat]? with
    | some n => .ok n
    | none => .error (.outside place)
  else
    .error (.outside place)

/-- The range between two numbers, the first of which has to be the smaller. -/
def newRange (min max : Int) : Checked ValueRange :=
  if h : min ≤ max then .ok ⟨min, max, h⟩ else .error (.emptyRange min max)

theorem newRange_eq (r : ValueRange) : newRange r.min r.max = .ok r :=
  dif_pos r.min_le_max

end Words

end Calendrics
