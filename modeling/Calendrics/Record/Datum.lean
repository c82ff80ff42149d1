import Calendrics.Amount
import Calendrics.Text.FloatingPoint

/-!
# Stored values

Dates, periods, ranges and names are stored in a form that other programs can read: a `Datum`,
which is null, a truth value, a number, a text, a list, or a record of named values. This module
has the type, the text that is written for a value, and the words that an error uses for it.

Whole numbers are integers if they fit in 64 bits, with or without a sign; every other number is a
floating-point number, and so is a zero with a minus, since an integer could not keep its sign.
-/

namespace Calendrics

/-- A stored value. -/
inductive Datum where
  /-- no value -/
  | null
  /-- a truth value -/
  | bool (b : Bool)
  /-- a whole number -/
  | integer (n : Int)
  /-- any other number -/
  | floating (x : FloatingPoint)
  /-- a text -/
  | text (s : String)
  /-- a sequence of values -/
  | list (items : List Datum)
  /-- values with names, in the order in which they are read. The type does not keep two of them from
  having one name; that is for the reader to refuse. -/
  | record (entries : List (String × Datum))

namespace Datum

/-- Without further knowledge a value is no value. -/
instance : Inhabited Datum := ⟨null⟩

/-- The largest unsigned 64-bit integer. -/
def largestInteger : Int := 18446744073709551615

/-- The value of a number with a fraction or a power of ten, `d * 10 ^ p`. None if it is too
large. -/
def ofDecimal? (negative : Bool) (d : Nat) (p : Int) : Option Datum :=
  (FloatingPoint.ofDecimal? negative d p).map floating

/-- The value of a whole number, which may have a minus. None if it is too large. -/
def ofWhole? (negative : Bool) (n : Nat) : Option Datum :=
  if negative then
    if 0 < n ∧ -(n : Int) ∈ Amount.range then some (integer (-n)) else ofDecimal? negative n 0
  else if (n : Int) ≤ largestInteger then some (integer n)
  else ofDecimal? negative n 0

/-- A text between marks that set it off from the words of a message. -/
def marked (s : String) : String :=
  "`" ++ s ++ "`"

/-- The words for a value in an error message. -/
def description : Datum → String
  | null => "null"
  | bool b => "boolean " ++ marked (if b then "true" else "false")
  | integer n => "integer " ++ marked (toString n)
  | floating x => "floating point " ++ marked (Text.floatingPoint x)
  | text s => "string " ++ Text.quote s
  | list _ => "sequence"
  | record _ => "map"

/-- A text as it is stored: between double quotes, with the quote, the backslash and the control
characters escaped. -/
def storedText (s : String) : String :=
  let escape (c : Char) : List Char :=
    if c = '"' ∨ c = '\\' then ['\\', c]
    else if c = '\n' then ['\\', 'n']
    else if c = '\r' then ['\\', 'r']
    else if c = '\t' then ['\\', 't']
    else if c = '\x08' then ['\\', 'b']
    else if c = '\x0c' then ['\\', 'f']
    else if c.toNat < 0x20 then
      ['\\', 'u', '0', '0'] ++ (if c.toNat < 0x10 then ['0'] else []) ++ Nat.toDigits 16 c.toNat
    else [c]
  String.ofList ('"' :: s.toList.flatMap escape ++ ['"'])

mutual

/-- The stored form of a value, without blanks. -/
def stored : Datum → String
  | null => "null"
  | bool b => if b then "true" else "false"
  | integer n => toString n
  | floating x => Text.floatingPoint x
  | text s => storedText s
  | list items => "[" ++ ",".intercalate (storedItems items) ++ "]"
  | record entries => "\x7b" ++ ",".intercalate (storedEntries entries) ++ "\x7d"

/-- The stored forms of the items of a list. -/
def storedItems : List Datum → List String
  | [] => []
  | item :: rest => stored item :: storedItems rest

/-- The stored forms of the entries of a record. -/
def storedEntries : List (String × Datum) → List String
  | [] => []
  | (key, value) :: rest => (storedText key ++ ":" ++ stored value) :: storedEntries rest

end

end Datum

end Calendrics
