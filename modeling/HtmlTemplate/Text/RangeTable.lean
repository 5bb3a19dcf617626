import HtmlTemplate.Text.Basic

/-!
# Tables of character ranges

A Unicode property is written down as the increasing list of the ranges of code
points that have it.
-/

namespace HtmlTemplate.Text

/-- Increasing, disjoint ranges of code points, each given by its first and its
last member. -/
abbrev RangeTable := List (Nat × Nat)

namespace RangeTable

/-- Whether a code point lies in one of the ranges. The search stops at the first
range that begins behind it. -/
def containsCode : RangeTable → Nat → Bool
  | [], _ => false
  | (first, last) :: ranges, code =>
    if code < first then false
    else if code ≤ last then true
    else containsCode ranges code

/-- Whether a character lies in one of the ranges. -/
def contains (table : RangeTable) (c : Char) : Bool :=
  table.containsCode c.toNat

end RangeTable

end HtmlTemplate.Text
