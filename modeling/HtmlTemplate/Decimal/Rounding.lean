/-!
# Rounding a quotient

The nearest whole number to a quotient of natural numbers. A quotient half way
between two whole numbers goes to the even one.
-/

namespace HtmlTemplate.Decimal

/-- The whole number nearest to `numerator / denominator`, of two equally near
ones the even one. -/
def roundHalfEven (numerator denominator : Nat) : Nat :=
  let quotient := numerator / denominator
  let twice := 2 * (numerator % denominator)
  if twice < denominator then quotient
  else if twice = denominator then quotient + quotient % 2
  else quotient + 1

/-- The rounded quotient lies at most half a unit away from the exact one. -/
theorem roundHalfEven_near (numerator denominator : Nat) (positive : 0 < denominator) :
    2 * (roundHalfEven numerator denominator * denominator) ≤ 2 * numerator + denominator ∧
      2 * numerator ≤ 2 * (roundHalfEven numerator denominator * denominator) + denominator := by
  have split := Nat.div_add_mod numerator denominator
  have small := Nat.mod_lt numerator positive
  have commuted := Nat.mul_comm denominator (numerator / denominator)
  have parity := Nat.mod_two_eq_zero_or_one (numerator / denominator)
  simp only [roundHalfEven]
  split
  · omega
  · split
    · rcases parity with even | odd
      · simp only [even, Nat.add_zero]; omega
      · simp only [odd, Nat.add_mul, Nat.one_mul]; omega
    · simp only [Nat.add_mul, Nat.one_mul]; omega

end HtmlTemplate.Decimal
