import HtmlTemplate.Proofs.Numerals
import HtmlTemplate.Proofs.Padding
import HtmlTemplate.Proofs.Specifiers

/-!
# Formatted integers keep their value

An integer in one of the presentations is a sign, the announcement of the base if it is asked for,
and digits. Separators between the digits and zeros in front of them do not change what they stand
for (`ungrouped_integerBody`), and separators cut off groups of one size, counted from the end
(`inGroups_group`). `formatValue_shows` puts this together for every integer.
-/

namespace HtmlTemplate.Format

open Decimal

/-! ## Groups of digits -/

/-- Whether a separator cuts digits into groups of a size, the first of which can be shorter. -/
def InGroups (separator : Char) (size : Nat) (body : Text) : Prop :=
  ∃ first others, Text.splitOn separator body = first :: others ∧ first ≠ [] ∧
    first.length ≤ size ∧ ∀ piece ∈ others, piece.length = size

/-- Digits less the separators between their groups. -/
def ungrouped (separator : Option Char) (body : Text) : Text :=
  match separator with
  | some separator => body.filter (· ≠ separator)
  | none => body

/-- Separators can be taken off again. -/
theorem filter_group {separator : Char} {digits : Text} (absent : separator ∉ digits)
    (size : Nat) : (group separator size digits).filter (· ≠ separator) = digits := by
  have kept {digit : Char} {rest : Text} (absent : separator ∉ digit :: rest) :
      decide (digit ≠ separator) = true :=
    decide_eq_true (Ne.symm (List.ne_of_not_mem_cons absent))
  fun_induction group separator size digits with
  | case1 => rfl
  | case2 digit => rw [List.filter_cons, if_pos (kept absent), List.filter_nil]
  | case3 digit rest more full inductionHypothesis =>
    rw [List.filter_cons, if_pos (kept absent), List.filter_cons, if_neg (by simp),
      inductionHypothesis (List.not_mem_of_not_mem_cons absent)]
  | case4 digit rest more partly inductionHypothesis =>
    rw [List.filter_cons, if_pos (kept absent),
      inductionHypothesis (List.not_mem_of_not_mem_cons absent)]

/-- The groups of digits, and how many digits they have together. -/
theorem splitOn_group {separator : Char} {size : Nat} {digits : Text} (nonzero : 0 < size)
    (absent : separator ∉ digits) (nonempty : digits ≠ []) :
    ∃ first others, Text.splitOn separator (group separator size digits) = first :: others ∧
      0 < first.length ∧ first.length ≤ size ∧ (∀ piece ∈ others, piece.length = size) ∧
      first.length + size * others.length = digits.length := by
  fun_induction group separator size digits with
  | case1 => exact absurd rfl nonempty
  | case2 digit =>
    have other : digit ≠ separator := Ne.symm (List.ne_of_not_mem_cons absent)
    exact ⟨[digit], [], by simp [Text.splitOn, other], by simp, nonzero, by simp, by simp⟩
  | case3 digit rest more full inductionHypothesis =>
    have other : digit ≠ separator := Ne.symm (List.ne_of_not_mem_cons absent)
    obtain ⟨first, others, cut, positive, bounded, even, total⟩ :=
      inductionHypothesis (List.not_mem_of_not_mem_cons absent) more
    -- The digits behind the separator are a multiple of the size, so their first group is full.
    have whole : first.length = size := by
      rw [← total, Nat.add_mul_mod_self_left] at full
      exact Nat.le_antisymm bounded (Nat.le_of_dvd positive (Nat.dvd_of_mod_eq_zero full))
    refine ⟨[digit], first :: others, ?_, by simp, nonzero, ?_, ?_⟩
    · simp [Text.splitOn, other, cut]
    · simpa [whole] using even
    · rw [List.length_singleton, List.length_cons, List.length_cons, Nat.mul_succ]
      omega
  | case4 digit rest more partly inductionHypothesis =>
    have other : digit ≠ separator := Ne.symm (List.ne_of_not_mem_cons absent)
    obtain ⟨first, others, cut, positive, bounded, even, total⟩ :=
      inductionHypothesis (List.not_mem_of_not_mem_cons absent) more
    have short : first.length ≠ size := by
      intro whole
      rw [← total, Nat.add_mul_mod_self_left, whole, Nat.mod_self] at partly
      exact partly rfl
    refine ⟨digit :: first, others, ?_, by simp, ?_, even, ?_⟩
    · simp [Text.splitOn, other, cut]
    · rw [List.length_cons]
      omega
    · rw [List.length_cons, List.length_cons]
      omega

theorem inGroups_group {separator : Char} {size : Nat} {digits : Text} (nonzero : 0 < size)
    (absent : separator ∉ digits) (nonempty : digits ≠ []) :
    InGroups separator size (group separator size digits) := by
  obtain ⟨first, others, cut, positive, bounded, even, _⟩ := splitOn_group nonzero absent nonempty
  exact ⟨first, others, cut, List.ne_nil_of_length_pos positive, bounded, even⟩

/-! ## Digits of a presentation -/

/-- The character of a digit in a presentation: a capital if the letter that asks for it is one. -/
def presentedDigit (kind : Option Char) (d : Nat) : Char :=
  if kind = some 'X' then Text.asciiUpper (digitChar d) else digitChar d

theorem base_of_presentation {kind : Option Char} {base : Nat} {announced : Text}
    (presented : (kind, base, announced) ∈ presentations) : 2 ≤ base ∧ base ≤ 16 := by
  have all : ∀ presentation ∈ presentations, 2 ≤ presentation.2.1 ∧ presentation.2.1 ≤ 16 := by
    decide
  exact all _ presented

/-- The digits of a magnitude are digits of the base. -/
theorem mem_integerDigits {kind : Option Char} {base : Nat} (positional : 2 ≤ base) (m : Nat) :
    ∀ c ∈ integerDigits (kind.getD 'd') base m, ∃ d < base, c = presentedDigit kind d := by
  have capital : kind.getD 'd' = 'X' ↔ kind = some 'X' := by cases kind <;> simp
  intro c member
  simp only [integerDigits, capital, numeral] at member
  split at member
  · rename_i asked
    obtain ⟨e, shown, rfl⟩ := List.mem_map.mp member
    obtain ⟨d, written, rfl⟩ := List.mem_map.mp shown
    exact ⟨d, lt_base_of_mem_digits positional m d written, by simp [presentedDigit, asked]⟩
  · rename_i asked
    obtain ⟨d, written, rfl⟩ := List.mem_map.mp member
    exact ⟨d, lt_base_of_mem_digits positional m d written, by simp [presentedDigit, asked]⟩

/-- The digits of a magnitude stand for it. -/
theorem numeral_integerDigits (kind : Char) {base : Nat} (positional : 2 ≤ base)
    (small : base ≤ 16) (m : Nat) : Numeral base (integerDigits kind base m) m := by
  have plain := numeral_numeral positional small m
  simp only [integerDigits]
  split
  · exact plain.upper small
  · exact plain

/-! ## Formatted integers -/

/-- What stands in front of a number that is not negative. -/
def unsignedMark : Sign → Text
  | .minus => []
  | .plus => ['+']
  | .space => [' ']

/-- A sign and a body show an integer in a base. -/
structure Shows (spec : Spec) (base : Nat) (n : Int) (sign body : Text) : Prop where
  minus : sign = ['-'] ↔ n < 0
  unsigned : ¬ n < 0 → sign = unsignedMark spec.sign
  /-- Less its separators, the body consists of digits. -/
  digits : ∀ c ∈ ungrouped spec.grouping body, ∃ d < base, c = presentedDigit spec.kind d
  /-- These digits are read as the magnitude. -/
  magnitude : Text.toNat? base (ungrouped spec.grouping body) = some n.natAbs
  /-- Where nothing is filled up, separators stand between full groups. -/
  groups : spec.width = none →
    ∀ separator ∈ spec.grouping, InGroups separator (groupSize base) body

/-- A comma and an underscore are no digits. -/
theorem not_mem_integerDigits {separator : Char} (known : separator = ',' ∨ separator = '_')
    {kind : Option Char} {base : Nat} (positional : 2 ≤ base) (small : base ≤ 16) (m : Nat) :
    separator ∉ integerDigits (kind.getD 'd') base m := by
  have foreign : ∀ d < 16,
      digitChar d ∉ [',', '_'] ∧ Text.asciiUpper (digitChar d) ∉ [',', '_'] := by decide
  intro member
  obtain ⟨d, below, same⟩ := mem_integerDigits positional m separator member
  have other := foreign d (Nat.lt_of_lt_of_le below small)
  have apart : separator ∉ [',', '_'] := by
    rw [same, presentedDigit]
    split
    · exact other.2
    · exact other.1
  rcases known with rfl | rfl <;> simp at apart

/-- Separators and zeros in front do not change what the digits of an integer stand for. -/
theorem ungrouped_integerBody (n : Int) {spec : Spec}
    (known : ∀ c ∈ spec.grouping, c = ',' ∨ c = '_') {base : Nat} (positional : 2 ≤ base)
    (small : base ≤ 16) (zeros : Nat) :
    ungrouped spec.grouping (List.replicate zeros '0' ++ integerBody n spec base) =
      List.replicate zeros '0' ++ integerDigits (spec.kind.getD 'd') base n.natAbs := by
  cases asked : spec.grouping with
  | none => simp [ungrouped, integerBody, grouped, asked]
  | some separator =>
    have comma := known separator asked
    have absent : separator ∉ integerDigits (spec.kind.getD 'd') base n.natAbs :=
      not_mem_integerDigits comma positional small n.natAbs
    have zero : decide ('0' ≠ separator) = true := by rcases comma with rfl | rfl <;> decide
    have kept : (List.replicate zeros '0').filter (· ≠ separator) = List.replicate zeros '0' :=
      List.filter_replicate_of_pos zero
    simp only [ungrouped, integerBody, grouped, asked, List.filter_append, kept,
      filter_group absent]

theorem inGroups_integerBody (n : Int) {spec : Spec} {separator : Char}
    (known : separator = ',' ∨ separator = '_') (asked : spec.grouping = some separator)
    {base : Nat} (positional : 2 ≤ base) (small : base ≤ 16) :
    InGroups separator (groupSize base) (integerBody n spec base) := by
  have nonzero : 0 < groupSize base := by
    unfold groupSize
    split <;> omega
  have nonempty := (numeral_integerDigits (spec.kind.getD 'd') positional small n.natAbs).ne_nil
  simp only [integerBody, grouped, asked]
  exact inGroups_group nonzero (not_mem_integerDigits known positional small n.natAbs) nonempty

theorem signText_eq_minus_iff (n : Int) (sign : Sign) : signText (n < 0) sign = ['-'] ↔ n < 0 := by
  by_cases negative : n < 0
  · simp [signText, negative]
  · cases sign <;> simp [signText, negative]

theorem formatValue_int_of_parse {text : Text} {spec : Spec} (n : Int)
    (parsed : Spec.parse text = .ok spec) :
    formatValue (.int n) none (some text) = formatInt n spec := by
  cases text with
  | cons c rest => exact formatValue_of_parse (List.cons_ne_nil c rest) parsed
  | nil =>
    have empty : Spec.parse [] = .ok {} := by decide
    rw [empty] at parsed
    obtain rfl := Except.ok.inj parsed
    have presented : (none, 10, []) ∈ presentations := by decide
    have display : formatValue (.int n) none (some []) = .ok (integer n) := rfl
    have digits : integerBody n {} 10 = natural n.natAbs := rfl
    rw [display, formatInt_of_presentation rfl presented, Spec.pad_of_width_eq_none rfl, digits]
    by_cases negative : n < 0
    · simp only [integer, integerLead, signText, negative, decide_true, if_true]
      rfl
    · simp only [integer, integerLead, signText, negative, decide_false, if_false]
      rfl

/-- An integer in one of the presentations, with no width or filled up with zeros behind its sign,
is a sign, the announcement of the base if that is asked for, and digits that stand for it. -/
theorem formatValue_shows (n : Int) {text : Text} {spec : Spec} {base : Nat} {announced : Text}
    (parsed : Spec.parse text = .ok spec) (exact : spec.precision = none)
    (presented : (spec.kind, base, announced) ∈ presentations)
    (zeros : spec.width = none ∨ spec.zero = true ∧ spec.align = none) :
    ∃ sign body, Shows spec base n sign body ∧
      formatValue (.int n) none (some text) =
        .ok (sign ++ (if spec.alternate then announced else []) ++ body) := by
  obtain ⟨positional, small⟩ := base_of_presentation presented
  have known := Spec.grouping_of_parse parsed
  obtain ⟨count, narrow, padded⟩ := Spec.pad_zeros zeros (integerLead n spec announced)
    (integerBody n spec base) .right
  have bare := ungrouped_integerBody n known positional small count
  have numeral := (numeral_integerDigits (spec.kind.getD 'd') positional small n.natAbs).behindZeros
    count
  refine ⟨signText (n < 0) spec.sign, List.replicate count '0' ++ integerBody n spec base, ?_, ?_⟩
  · refine ⟨signText_eq_minus_iff n spec.sign, fun positive => ?_, ?_, ?_, ?_⟩
    · simp only [signText, positive, decide_false, Bool.false_eq_true, if_false]
      cases spec.sign <;> rfl
    · rw [bare]
      intro c member
      rcases List.mem_append.mp member with zero | digit
      · refine ⟨0, by omega, ?_⟩
        rw [List.eq_of_mem_replicate zero, presentedDigit]
        split <;> decide
      · exact mem_integerDigits positional n.natAbs c digit
    · rw [bare]
      exact (toNat?_eq_some_iff small).mpr numeral
    · intro absent separator asked
      rw [narrow absent, List.replicate_zero, List.nil_append]
      exact inGroups_integerBody n (known separator asked) asked positional small
  · rw [formatValue_int_of_parse n parsed, formatInt_of_presentation exact presented, padded,
      integerLead, List.append_assoc]

/-- The least integer of 64 bits: three zeros fill up to the width, in front of full groups. -/
theorem formatValue_shows_least :
    let least : Int := -9223372036854775808
    let text := "#025_X".toList
    let spec : Spec := { alternate := true, zero := true, width := some 25, grouping := some '_',
                         kind := some 'X' }
    let out := "-0X0008000_0000_0000_0000".toList
    Spec.parse text = .ok spec ∧ spec.precision = none ∧
      (spec.kind, 16, ['0', 'X']) ∈ presentations ∧
      (spec.width = none ∨ spec.zero = true ∧ spec.align = none) ∧
      formatValue (.int least) none (some text) = .ok out ∧
      ∃ sign body, Shows spec 16 least sign body ∧ out = sign ++ ['0', 'X'] ++ body := by
  intro least text spec out
  have parsed : Spec.parse text = .ok spec := by decide
  have presented : (spec.kind, 16, ['0', 'X']) ∈ presentations := by decide
  have zeros : spec.width = none ∨ spec.zero = true ∧ spec.align = none := .inr ⟨rfl, rfl⟩
  have given : formatValue (.int least) none (some text) = .ok out := by decide +kernel
  obtain ⟨sign, body, shows, result⟩ := formatValue_shows least parsed rfl presented zeros
  rw [given] at result
  exact ⟨parsed, rfl, presented, zeros, given, sign, body, shows, Except.ok.inj result⟩

end HtmlTemplate.Format
