import HtmlTemplate.Decimal.Binary64
import HtmlTemplate.Decimal.Numeral

/-!
# Decimal forms of binary numbers

Three ways to write the magnitude of a finite number in decimal: with a given
number of places, with a given number of significant digits, and with the fewest
digits that read back as the same number. All work on exact fractions.
-/

namespace HtmlTemplate.Decimal

/-- Decimal digits, the first one not zero unless the number is, with the power of
ten the first digit counts. -/
structure Significant where
  /-- The digits, most significant first. -/
  digits : Text
  /-- The power of ten of the first digit. -/
  power : Int
deriving DecidableEq, Repr

/-- The text of a whole number of units of `10 ^ -places`. -/
def pointed (places units : Nat) : Text :=
  let whole := natural (units / Nat.pow 10 places)
  if places = 0 then whole
  else whole ++ '.' :: paddedNatural places (units % Nat.pow 10 places)

/-- The smallest `shift` from a start on for which the fraction times
`10 ^ shift` reaches one, looked for among a given number of candidates. -/
def firstReaching (numerator denominator : Nat) : Nat → Nat → Nat
  | 0, shift => shift
  | tries + 1, shift =>
    if denominator ≤ numerator * Nat.pow 10 shift then shift
    else firstReaching numerator denominator tries (shift + 1)

/-- The power of ten of the first digit of a positive fraction that is not below
`10 ^ -400`. -/
def leadingPower (numerator denominator : Nat) : Int :=
  if denominator ≤ numerator then
    ((natural (numerator / denominator)).length : Int) - 1
  else -(firstReaching numerator denominator 400 1 : Int)

/-- The fraction in units of `10 ^ power`, as a fraction of two whole numbers. -/
def inUnits (numerator denominator : Nat) (power : Int) : Nat × Nat :=
  (numerator * Nat.pow 10 (-power).toNat, denominator * Nat.pow 10 power.toNat)

/-- A whole number of units of `10 ^ unit`, as its digits and the power of the
first one. -/
def Significant.ofUnits (units : Nat) (unit : Int) : Significant :=
  let digits := natural units
  ⟨digits, unit + digits.length - 1⟩

namespace Binary64

/-- The magnitude with a fixed number of decimal places. -/
def fixed (places : Nat) (x : Binary64) : Text :=
  pointed places (roundHalfEven (x.numerator * Nat.pow 10 places) x.denominator)

/-- The magnitude to a given number of digits behind the first. -/
def rounded (more : Nat) (x : Binary64) : Significant :=
  if x.isZero then ⟨List.replicate (more + 1) '0', 0⟩
  else
    let unit := leadingPower x.numerator x.denominator - more
    let (numerator, denominator) := inUnits x.numerator x.denominator unit
    let result := Significant.ofUnits (roundHalfEven numerator denominator) unit
    -- Rounding up to the next power of ten gains a digit, which is a zero.
    ⟨result.digits.take (more + 1), result.power⟩

/-- Twice the distance, in units of a quarter of the last place, to either
neighbour of a positive number: the lower one is nearer where the exponent
changes. -/
def quarterGaps (x : Binary64) : Nat × Nat :=
  if x.fraction = 0 ∧ 1 < x.exponentField then (1, 2) else (2, 2)

/-- The number of units of a power of ten that is nearest to a positive number,
if that many units read back as the number. Of two equally near ones it is the
larger. -/
def nearestUnits? (x : Binary64) (unit : Int) : Option Nat :=
  let (lowerGap, upperGap) := x.quarterGaps
  -- Everything is counted in quarters of the last binary place, in units of `unit`.
  let (quarter, whole) := inUnits (x.numerator) (x.denominator * 4 * x.significand) unit
  let exact := 4 * x.significand * quarter
  let low := exact - lowerGap * quarter
  let high := exact + upperGap * quarter
  let closed := x.significand % 2 = 0
  let inside (units : Nat) : Bool :=
    (low < units * whole || (closed && low = units * whole)) &&
      (units * whole < high || (closed && units * whole = high))
  let below := exact / whole
  match inside below, inside (below + 1) with
  | true, false => some below
  | false, true => some (below + 1)
  | false, false => none
  | true, true =>
    if 2 * (exact % whole) < whole then some below else some (below + 1)

/-- The first number of digits behind the leading one, out of at most `tries` more
than the given, for which some number of units reads back. -/
def shortestFrom (x : Binary64) (lead : Int) : Nat → Nat → Significant
  | 0, more => x.rounded more
  | tries + 1, more =>
    match x.nearestUnits? (lead - more) with
    | some units => Significant.ofUnits units (lead - more)
    | none => shortestFrom x lead tries (more + 1)

/-- The fewest digits that read back as the magnitude, and of those the nearest to
it. Seventeen always do. -/
def shortest (x : Binary64) : Significant :=
  if x.isZero then ⟨['0'], 0⟩
  else
    let found := shortestFrom x (leadingPower x.numerator x.denominator) 16 0
    ⟨Text.dropEndWhile (· = '0') found.digits, found.power⟩

end Binary64

/-- Digits written without an exponent, with zeros where no digit stands. -/
def Significant.positional (number : Significant) : Text :=
  let count := number.digits.length
  if number.power < 0 then
    ['0', '.'] ++ List.replicate (-number.power - 1).toNat '0' ++ number.digits
  else
    let whole := number.power.toNat + 1
    if count ≤ whole then number.digits ++ List.replicate (whole - count) '0'
    else number.digits.take whole ++ '.' :: number.digits.drop whole

/-- Digits written with an exponent: the mark `e`, a sign always, and at least two
digits. -/
def Significant.scientific (number : Significant) : Text :=
  let mantissa :=
    match number.digits with
    | [] => []
    | [digit] => [digit]
    | digit :: more => digit :: '.' :: more
  let sign := if number.power < 0 then '-' else '+'
  mantissa ++ 'e' :: sign :: paddedNatural 2 number.power.natAbs

end HtmlTemplate.Decimal
