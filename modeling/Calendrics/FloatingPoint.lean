/-!
# Floating-point numbers

A number with a fraction, or one too large for an integer, is a **floating-point number**: a sign
and a `Magnitude`, which is `significand * 2 ^ exponent` with at most 53 significant bits. A zero
has a sign too.

Magnitudes are rounded exactly, as rationals. A rational is a pair of a numerator and a
denominator, so that every comparison is between natural numbers:

- `Magnitude.nearest` rounds a rational, a tie going to the even significand;
- `Magnitude.mul` and `Magnitude.div` round the exact product and the exact quotient once;
- `FloatingPoint.ofDecimal?` reads a decimal. The digits are rounded first, and then multiplied or
  divided by a power of ten. With up to fifteen digits and a power of up to 22 only the last of
  these steps rounds, and the decimal is read as the nearest number; beyond that the last bit may
  differ.
-/

namespace Calendrics

/-- A floating-point number without its sign: `significand * 2 ^ exponent`. -/
structure Magnitude where
  /-- the significant bits -/
  significand : Nat
  /-- the power of two -/
  exponent : Int
deriving DecidableEq, Repr

namespace Magnitude

/-- The quotient of two natural numbers, rounded to the nearest; a tie goes to the even one. -/
def roundDiv (num den : Nat) : Nat :=
  let q := num / den
  let twice := 2 * (num % den)
  if twice < den ∨ (twice = den ∧ q % 2 = 0) then q else q + 1

/-- A rational times a power of a base. -/
def scale (base : Nat) (exponent : Int) (r : Nat × Nat) : Nat × Nat :=
  if 0 ≤ exponent then (r.1 * Nat.pow base exponent.toNat, r.2)
  else (r.1, r.2 * Nat.pow base (-exponent).toNat)

/-- Whether one rational is less than another. -/
def lessThan (a b : Nat × Nat) : Bool :=
  a.1 * b.2 < b.1 * a.2

/-- The exponent of the smallest positive magnitude. -/
def smallestExponent : Int := -1074

/-- The exponent of the largest magnitude. -/
def largestExponent : Int := 971

/-- The first number that is too large for the significant bits: two to the 53rd power. -/
def significandLimit : Nat := 9007199254740992

/-- The first number that takes all significant bits: two to the 52nd power. -/
def fullSignificand : Nat := 4503599627370496

/-- The rational that a magnitude is. -/
def toRatio (x : Magnitude) : Nat × Nat :=
  scale 2 x.exponent (x.significand, 1)

/-- The magnitude nearest to a rational. Its significand is below `significandLimit`, and takes
all significant bits unless the exponent is the smallest. The exponent is not bounded above. -/
def nearest (r : Nat × Nat) : Magnitude :=
  let guess : Int := (r.1.log2 : Int) - r.2.log2 - 53
  let fits := lessThan (scale 2 (-guess) r) (significandLimit, 1)
  let q := max (if fits then guess else guess + 1) smallestExponent
  let s := scale 2 (-q) r
  let f := roundDiv s.1 s.2
  if f = significandLimit then ⟨fullSignificand, q + 1⟩ else ⟨f, q⟩

/-- The product, rounded. -/
def mul (x y : Magnitude) : Magnitude :=
  nearest (x.toRatio.1 * y.toRatio.1, x.toRatio.2 * y.toRatio.2)

/-- The quotient, rounded. -/
def div (x y : Magnitude) : Magnitude :=
  nearest (x.toRatio.1 * y.toRatio.2, x.toRatio.2 * y.toRatio.1)

/-- Whether a magnitude lies in the range of floating-point numbers. -/
def isFinite (x : Magnitude) : Bool :=
  x.exponent ≤ largestExponent

/-- The number of zeros of the largest power of ten. -/
def largestPower : Nat := 308

/-- A power of ten, rounded; up to 22 zeros it is exact. -/
def powerOfTen (zeros : Nat) : Magnitude :=
  nearest (Nat.pow 10 zeros, 1)

/-- A magnitude times `10 ^ p`, none if that is too large. One multiplication or division by a
power of ten does it, unless the divisor would be too large itself: then it is divided in steps. -/
def shift? (x : Magnitude) (p : Int) : Option Magnitude :=
  if x.significand = 0 then some x
  else if p < -largestPower then (x.div (powerOfTen largestPower)).shift? (p + largestPower)
  else if p < 0 then some (x.div (powerOfTen (-p).toNat))
  else if p ≤ largestPower then
    let y := x.mul (powerOfTen p.toNat)
    if y.isFinite then some y else none
  else none
termination_by (-p).toNat
decreasing_by
  simp only [largestPower] at *
  omega

end Magnitude

/-- A floating-point number. -/
structure FloatingPoint extends Magnitude where
  /-- whether the sign is a minus, which a zero can have too -/
  negative : Bool
deriving DecidableEq, Repr

namespace FloatingPoint

/-- The first number that does not fit in 64 bits. -/
def digitLimit : Nat := 18446744073709551616

/-- The leading digits of a number, as many as fit in 64 bits, and how many follow them. -/
def leadingDigits (d : Nat) : Nat × Nat :=
  if d < digitLimit then (d, 0)
  else
    let (leading, rest) := leadingDigits (d / 10)
    (leading, rest + 1)
termination_by d
decreasing_by
  simp only [digitLimit] at *
  omega

/-- The number that the decimal `d * 10 ^ p` is read as, none if it is too large. Digits beyond
those that fit in 64 bits are not looked at. -/
def ofDecimal? (negative : Bool) (d : Nat) (p : Int) : Option FloatingPoint :=
  let (leading, rest) := leadingDigits d
  ((Magnitude.nearest (leading, 1)).shift? (p + rest)).map fun x => ⟨x, negative⟩

end FloatingPoint

end Calendrics
