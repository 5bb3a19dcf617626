import HtmlTemplate.Decimal.Binary64
import HtmlTemplate.Text.Basic

/-!
# Reading numbers

The texts that are read as integers of 64 bits and as binary numbers.
-/

namespace HtmlTemplate.Decimal

/-- The least integer of 64 bits. -/
def minInt64 : Int := -0x8000000000000000

/-- The greatest integer of 64 bits. -/
def maxInt64 : Int := 0x7FFFFFFFFFFFFFFF

/-- An optional sign at the beginning of a text: whether it is a minus sign, and
the rest. -/
def takeSign : Text → Bool × Text
  | '-' :: rest => (true, rest)
  | '+' :: rest => (false, rest)
  | text => (false, text)

/-- An integer: an optional sign and decimal digits, within 64 bits. -/
def toInt64? (text : Text) : Option Int :=
  let (negative, digits) := takeSign text
  match Text.toNat? 10 digits with
  | none => none
  | some magnitude =>
    let value : Int := if negative then -magnitude else magnitude
    if minInt64 ≤ value ∧ value ≤ maxInt64 then some value else none

/-- The decimal digits at the beginning of a text, and the rest. -/
def takeDigits (text : Text) : Text × Text :=
  (text.takeWhile Text.isAsciiDigit, text.dropWhile Text.isAsciiDigit)

/-- The value of a run of decimal digits; an empty run counts as zero. -/
def digitsValue (digits : Text) : Nat :=
  (Text.toNat? 10 digits).getD 0

/-- A power of ten: nothing, or the mark `e` in either case, an optional sign and at
least one digit. -/
def toPower? : Text → Option Int
  | [] => some 0
  | mark :: rest =>
    if mark = 'e' ∨ mark = 'E' then
      let (negative, digits) := takeSign rest
      (Text.toNat? 10 digits).map fun magnitude =>
        if negative then -(magnitude : Int) else magnitude
    else none

/-- A decimal number without a sign: digits with at most one point among or beside
them, at least one digit, and an optional power of ten. -/
def toDecimal? (negative : Bool) (text : Text) : Option Binary64 :=
  let (whole, behindWhole) := takeDigits text
  let (places, behindPlaces) := match behindWhole with
    | '.' :: rest => takeDigits rest
    | _ => ([], behindWhole)
  if whole.isEmpty && places.isEmpty then none
  else (toPower? behindPlaces).map fun power =>
    let digits := (whole ++ places).dropWhile (· = '0')
    Binary64.ofDecimal negative (digitsValue digits) digits.length
      (power - places.length)

/-- A binary number: an optional sign and a decimal number, or one of the words
`inf`, `infinity` and `nan` in any case. -/
def toBinary64? (text : Text) : Option Binary64 :=
  let (negative, magnitude) := takeSign text
  let word := magnitude.map Text.asciiLower
  if word = ['i', 'n', 'f'] ∨ word = ['i', 'n', 'f', 'i', 'n', 'i', 't', 'y'] then
    some (Binary64.infinity negative)
  else if word = ['n', 'a', 'n'] then some Binary64.nan
  else toDecimal? negative magnitude

end HtmlTemplate.Decimal
