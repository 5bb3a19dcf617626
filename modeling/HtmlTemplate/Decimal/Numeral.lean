import HtmlTemplate.Text.Basic

/-!
# Numerals

The digits of natural numbers in a given base, most significant first.
-/

namespace HtmlTemplate.Decimal

/-- The digits of `n` in front of digits already written. A base below two has no
positional notation, so the number itself is its only digit. -/
def digitsOnto (base n : Nat) (written : List Nat) : List Nat :=
  if n < base ∨ base < 2 then n :: written
  else digitsOnto base (n / base) (n % base :: written)
termination_by n
decreasing_by exact Nat.div_lt_self (by omega) (by omega)

/-- The digits of a number in a base, most significant first; zero has the single
digit zero. -/
def digits (base n : Nat) : List Nat :=
  digitsOnto base n []

/-- The character of a digit below sixteen, with small letters from ten on. -/
def digitChar (digit : Nat) : Char :=
  if digit < 10 then Char.ofNat ('0'.toNat + digit)
  else Char.ofNat ('a'.toNat + (digit - 10))

/-- The text of a number in a base of at most sixteen. -/
def numeral (base n : Nat) : Text :=
  (digits base n).map digitChar

/-- The decimal text of a number. -/
def natural (n : Nat) : Text :=
  numeral 10 n

/-- The decimal text of an integer; a negative one has a minus sign. -/
def integer (n : Int) : Text :=
  if n < 0 then '-' :: natural n.natAbs else natural n.natAbs

/-- The decimal text of a number, filled up with zeros in front to a given number
of digits. -/
def paddedNatural (width n : Nat) : Text :=
  let text := natural n
  List.replicate (width - text.length) '0' ++ text

end HtmlTemplate.Decimal
