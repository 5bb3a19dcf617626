import HtmlTemplate.Decimal.Rounding

/-!
# Binary numbers of 64 bits

The floating-point numbers of the IEEE 754 format binary64, held as their bits.
All arithmetic on them is done on exact fractions and rounded once, to the nearest
number of the format and of two equally near ones to the even one.
-/

namespace HtmlTemplate.Decimal

/-- A number of the format binary64, given by its bits: the sign, eleven bits of
exponent and fifty-two bits of fraction. -/
structure Binary64 where
  /-- The bits of the number. -/
  bits : UInt64
deriving DecidableEq, Repr, Inhabited

namespace Binary64

/-- The sign bit. -/
def isNegative (x : Binary64) : Bool :=
  Nat.pow 2 63 ≤ x.bits.toNat

/-- The eleven bits of the exponent, read as a number. -/
def exponentField (x : Binary64) : Nat :=
  x.bits.toNat / Nat.pow 2 52 % 2048

/-- The fifty-two bits of the fraction, read as a number. -/
def fraction (x : Binary64) : Nat :=
  x.bits.toNat % Nat.pow 2 52

/-- Whether the bits stand for a number and not for an infinity or for no number. -/
def isFinite (x : Binary64) : Bool :=
  x.exponentField < 2047

/-- Whether the bits stand for no number. -/
def isNaN (x : Binary64) : Bool :=
  x.exponentField = 2047 && x.fraction ≠ 0

/-- The whole number that, times `2 ^ exponent`, is the magnitude of a finite
number. -/
def significand (x : Binary64) : Nat :=
  if x.exponentField = 0 then x.fraction else x.fraction + Nat.pow 2 52

/-- The power of two that goes with the significand. -/
def exponent (x : Binary64) : Int :=
  (max x.exponentField 1 : Nat) - 1075

/-- The numerator of the magnitude of a finite number. -/
def numerator (x : Binary64) : Nat :=
  x.significand * Nat.pow 2 x.exponent.toNat

/-- The denominator of the magnitude of a finite number, a power of two. -/
def denominator (x : Binary64) : Nat :=
  Nat.pow 2 (-x.exponent).toNat

/-- Whether the number is one of the two zeros. -/
def isZero (x : Binary64) : Bool :=
  x.exponentField = 0 && x.fraction = 0

/-- Whether a finite number is a whole number. -/
def isWhole (x : Binary64) : Bool :=
  x.numerator % x.denominator = 0

/-- Numerical equality: the two zeros are equal, and what is no number equals
nothing, not even itself. -/
def same (x y : Binary64) : Bool :=
  !x.isNaN && !y.isNaN && (x = y || (x.isZero && y.isZero))

/-- The number with these parts; the parts are taken as they are. -/
def ofParts (negative : Bool) (exponentField fraction : Nat) : Binary64 :=
  ⟨UInt64.ofNat
    ((if negative then Nat.pow 2 63 else 0) + exponentField * Nat.pow 2 52 + fraction)⟩

/-- The infinity of a sign. -/
def infinity (negative : Bool) : Binary64 :=
  ofParts negative 2047 0

/-- Bits that stand for no number. -/
def nan : Binary64 :=
  ofParts false 2047 (Nat.pow 2 51)

/-- The magnitude of a number: the same bits without the sign. -/
def abs (x : Binary64) : Binary64 :=
  ofParts false x.exponentField x.fraction

/-- The number nearest to a fraction. Too large a fraction becomes infinite. -/
def ofFraction (negative : Bool) (numerator denominator : Nat) : Binary64 :=
  if numerator = 0 then ofParts negative 0 0
  else
    -- The power of two for which the significand has fifty-three bits, or the
    -- smallest one of the format.
    let guess : Int := (Nat.log2 numerator : Int) - Nat.log2 denominator - 52
    let fits (power : Int) : Bool :=
      numerator * Nat.pow 2 (-power).toNat < Nat.pow 2 53 * (denominator * Nat.pow 2 power.toNat)
    let power : Int := max (-1074) (if fits (guess - 1) then guess - 1 else guess)
    let significand :=
      roundHalfEven (numerator * Nat.pow 2 (-power).toNat) (denominator * Nat.pow 2 power.toNat)
    -- The leading bit of a full significand, and a carry out of it, come out right
    -- in the sum of the two fields.
    let bits := (power + 1074).toNat * Nat.pow 2 52 + significand
    if 2047 * Nat.pow 2 52 ≤ bits then infinity negative else ofParts negative 0 bits

/-- The number nearest to an integer. -/
def ofInt (n : Int) : Binary64 :=
  ofFraction (n < 0) n.natAbs 1

/-- The number nearest to a whole multiple of a finite number. -/
def scale (x : Binary64) (factor : Nat) : Binary64 :=
  ofFraction x.isNegative (x.numerator * factor) x.denominator

/-- The number nearest to `digits * 10 ^ power`. Powers far outside the format are
settled without being worked out: `digits` has `count` decimal digits. -/
def ofDecimal (negative : Bool) (digits count : Nat) (power : Int) : Binary64 :=
  if digits = 0 then ofParts negative 0 0
  else if power + count > 400 then infinity negative
  else if power + count < -400 then ofParts negative 0 0
  else ofFraction negative (digits * Nat.pow 10 power.toNat) (Nat.pow 10 (-power).toNat)

end Binary64

end HtmlTemplate.Decimal
