import Calendrics.FloatingPoint

/-!
# The text of a floating-point number

A floating-point number is shown as the shortest decimal that reads back as that number. Of two
such decimals the nearer is taken, and of two equally near ones the even one.

- `Magnitude.readsBack` says which decimals round to a given number;
- `Magnitude.shortest` tries the decimal grids from the coarsest one on, and of each the two
  neighbours of the number;
- `decimal` lays the digits out. From 0.00001 on and below ten to the 16th power they are written
  positionally, with at least one digit on either side of the point; otherwise the point follows
  the first digit, and a signed power of ten follows the last.
-/

namespace Calendrics

namespace Magnitude

/-- Whether a rational rounds to a positive magnitude. The next magnitude below a power of two is
only half as far away as the next above. -/
def readsBack (x : Magnitude) (r : Nat × Nat) : Bool :=
  let f := x.significand
  let narrow := f = fullSignificand ∧ smallestExponent < x.exponent
  let low := scale 2 (x.exponent - 2) (if narrow then 4 * f - 1 else 4 * f - 2, 1)
  let high := scale 2 (x.exponent - 2) (4 * f + 2, 1)
  if f % 2 = 0 then !lessThan r low && !lessThan high r
  else lessThan low r && lessThan r high

/-- The neighbour `d * 10 ^ p` of a positive magnitude on the grid of multiples of `10 ^ p` that
reads back, the nearer if both do. -/
def onGrid? (x : Magnitude) (p : Int) : Option (Nat × Int) :=
  let s := scale 10 (-p) x.toRatio
  let below := s.1 / s.2
  let nearer := roundDiv s.1 s.2
  let farther := if nearer = below then below + 1 else below
  [nearer, farther].findSome? fun d =>
    if x.readsBack (scale 10 p (d, 1)) then some (d, p) else none

/-- The shortest decimal `d * 10 ^ p` that reads back as a positive magnitude: the first hit on a
grid, from the one that is coarser than the magnitude itself downwards. -/
def shortest (x : Magnitude) : Nat × Int :=
  let coarsest : Int := (Nat.toDigits 10 (x.toRatio.1 / x.toRatio.2)).length
  let grids := (List.range 1100).map fun (i : Nat) => coarsest - (i : Int)
  (grids.findSome? x.onGrid?).getD (0, 0)

end Magnitude

namespace Text

/-- The decimal `d * 10 ^ p` in positional notation, with at least one digit on either side of the
point. -/
def positional (d : Nat) (p : Int) : List Char :=
  if 0 ≤ p then
    Nat.toDigits 10 (d * Nat.pow 10 p.toNat) ++ ['.', '0']
  else
    let places := (-p).toNat
    let digits := Nat.toDigits 10 d
    let padded := List.replicate (places + 1 - digits.length) '0' ++ digits
    padded.take (padded.length - places) ++ '.' :: padded.drop (padded.length - places)

/-- A decimal whose first digit stands for a multiple of `10 ^ e`, with that power behind it. A
single digit has no point. -/
def scientific (digits : List Char) (e : Int) : List Char :=
  let fraction := digits.drop 1
  let point := if fraction.isEmpty then [] else ['.']
  let sign := if e < 0 then '-' else '+'
  digits.take 1 ++ point ++ fraction ++ 'e' :: sign :: Nat.toDigits 10 e.natAbs

/-- The least power of ten that is written positionally. -/
def firstPositional : Int := -5

/-- The least power of ten from which on the power is written. -/
def firstScientific : Int := 16

/-- The text of the decimal `d * 10 ^ p`. -/
def decimal (d : Nat) (p : Int) : List Char :=
  let digits := Nat.toDigits 10 d
  let e := p + digits.length - 1
  if firstPositional ≤ e ∧ e < firstScientific then positional d p else scientific digits e

/-- The text of a floating-point number. -/
def floatingPoint (x : FloatingPoint) : String :=
  let sign := if x.negative then ['-'] else []
  let (d, p) := if x.significand = 0 then (0, 0) else x.shortest
  String.ofList (sign ++ decimal d p)

end Text

end Calendrics
