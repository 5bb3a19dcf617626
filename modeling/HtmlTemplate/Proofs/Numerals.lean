import HtmlTemplate.Decimal.Numeral
import Mathlib.Data.List.Induction
import Mathlib.Tactic.Common

/-!
# Numerals are read back

`toNat?_numeral` reads the digits that a number is written with as that number, in every
base that has digits for it. What is read as a number, leading zeros and capitals included, is
said by a grammar (`Numeral`, `toNat?_eq_some_iff`).
-/

namespace HtmlTemplate.Decimal

/-- Digits that are written in front of others are below the base. -/
theorem lt_base_of_mem_digitsOnto {base : Nat} (positional : 2 ≤ base) (n : Nat)
    (written : List Nat) (below : ∀ d ∈ written, d < base) :
    ∀ d ∈ digitsOnto base n written, d < base := by
  fun_induction digitsOnto base n written with
  | case1 n written last =>
    intro d member
    rcases List.mem_cons.mp member with rfl | member
    · omega
    · exact below d member
  | case2 n written more inductionHypothesis =>
    apply inductionHypothesis
    intro d member
    rcases List.mem_cons.mp member with rfl | member
    · exact Nat.mod_lt n (by omega)
    · exact below d member

theorem lt_base_of_mem_digits {base : Nat} (positional : 2 ≤ base) (n : Nat) :
    ∀ d ∈ digits base n, d < base :=
  lt_base_of_mem_digitsOnto positional n [] (by simp)

theorem digitsOnto_ne_nil (base n : Nat) (written : List Nat) :
    digitsOnto base n written ≠ [] := by
  fun_induction digitsOnto base n written with
  | case1 n written last => exact List.cons_ne_nil n written
  | case2 n written more inductionHypothesis => exact inductionHypothesis

theorem numeral_ne_nil (base n : Nat) : numeral base n ≠ [] := by
  simp [numeral, digits, digitsOnto_ne_nil]

/-- The digits in front of others stand for the number that they were written for. -/
theorem foldl_digitsOnto (base n : Nat) (written : List Nat) :
    (digitsOnto base n written).foldl (fun value d => value * base + d) 0 =
      written.foldl (fun value d => value * base + d) n := by
  fun_induction digitsOnto base n written with
  | case1 n written last => simp
  | case2 n written more inductionHypothesis =>
    rw [inductionHypothesis, List.foldl_cons, Nat.mul_comm, Nat.div_add_mod]

/-- The character of a digit has the digit for its value. -/
theorem digitValue?_digitChar {base d : Nat} (small : base ≤ 16) (below : d < base) :
    Text.digitValue? base (digitChar d) = some d := by
  have all : ∀ base ≤ 16, ∀ d < base, Text.digitValue? base (digitChar d) = some d := by
    decide
  exact all base small d below

/-- Digits are read from left to right. -/
theorem foldlM_digitValue? {base : Nat} (small : base ≤ 16) (written : List Nat)
    (below : ∀ d ∈ written, d < base) (start : Nat) :
    (written.map digitChar).foldlM
        (fun value c => (Text.digitValue? base c).map (value * base + ·)) start =
      some (written.foldl (fun value d => value * base + d) start) := by
  induction written generalizing start with
  | nil => rfl
  | cons d written inductionHypothesis =>
    have first := digitValue?_digitChar small (below d (by simp))
    rw [List.map_cons, List.foldlM_cons, first, List.foldl_cons]
    exact inductionHypothesis (fun e member => below e (List.mem_cons_of_mem d member)) _

/-- The numeral of a number is read as that number. -/
theorem toNat?_numeral {base : Nat} (positional : 2 ≤ base) (small : base ≤ 16) (n : Nat) :
    Text.toNat? base (numeral base n) = some n := by
  have read := foldlM_digitValue? small (digits base n) (lt_base_of_mem_digits positional n) 0
  rw [digits, foldl_digitsOnto] at read
  simp only [Text.toNat?, List.isEmpty_iff, numeral_ne_nil, if_false]
  exact read

/-- The first digit of a number is not zero, except for zero itself. -/
theorem ne_zero_of_mem_head?_digitsOnto {base n : Nat} (nonzero : n ≠ 0) (written : List Nat) :
    ∀ d ∈ (digitsOnto base n written).head?, d ≠ 0 := by
  fun_induction digitsOnto base n written with
  | case1 n written last => simpa using nonzero
  | case2 n written more inductionHypothesis =>
    have reaches : base ≤ n := by omega
    have positional : 0 < base := by omega
    exact inductionHypothesis (Nat.pos_iff_ne_zero.mp (Nat.div_pos reaches positional))

/-- A number below a power of the base has no more digits than that power. -/
theorem length_digitsOnto_le {base count n : Nat} (nonzero : 0 < count)
    (below : n < Nat.pow base count) (written : List Nat) :
    (digitsOnto base n written).length ≤ count + written.length := by
  induction count generalizing n written with
  | zero => omega
  | succ count inductionHypothesis =>
    rw [digitsOnto]
    split
    · rw [List.length_cons]
      omega
    · rename_i more
      have power : Nat.pow base (count + 1) = Nat.pow base count * base := rfl
      have some : 0 < count := by
        rcases Nat.eq_zero_or_pos count with rfl | positive
        · simp at below
          omega
        · exact positive
      have quotient : n / base < Nat.pow base count :=
        Nat.div_lt_of_lt_mul (by rwa [Nat.mul_comm, ← power])
      have front := inductionHypothesis some quotient (n % base :: written)
      rw [List.length_cons] at front
      omega

theorem length_numeral_le {base count n : Nat} (nonzero : 0 < count)
    (below : n < Nat.pow base count) : (numeral base n).length ≤ count := by
  simpa [numeral, digits] using length_digitsOnto_le nonzero below []

/-- A decimal numeral consists of digits. -/
theorem isAsciiDigit_of_mem_natural (n : Nat) :
    ∀ c ∈ natural n, Text.isAsciiDigit c = true := by
  have digit : ∀ d < 10, Text.isAsciiDigit (digitChar d) = true := by decide
  intro c member
  obtain ⟨d, written, rfl⟩ := List.mem_map.mp member
  exact digit d (lt_base_of_mem_digits (by decide) n d written)

/-- A decimal numeral does not begin with a zero, except for the numeral of zero. -/
theorem ne_zero_of_mem_head?_natural {n : Nat} (nonzero : n ≠ 0) :
    ∀ c ∈ (natural n).head?, c ≠ '0' := by
  have digit : ∀ d < 10, d ≠ 0 → digitChar d ≠ '0' := by decide
  intro c first
  rw [natural, numeral, List.head?_map] at first
  obtain ⟨d, leading, rfl⟩ := Option.map_eq_some_iff.mp first
  exact digit d (lt_base_of_mem_digits (by decide) n d (List.mem_of_mem_head? leading))
    (ne_zero_of_mem_head?_digitsOnto nonzero [] d leading)

/-- The decimal text of an integer consists of digits and perhaps a minus sign. -/
theorem mem_integer (n : Int) : ∀ c ∈ integer n, Text.isAsciiDigit c = true ∨ c = '-' := by
  intro c member
  unfold integer at member
  split at member
  · rcases List.mem_cons.mp member with rfl | member
    · exact .inr rfl
    · exact .inl (isAsciiDigit_of_mem_natural _ c member)
  · exact .inl (isAsciiDigit_of_mem_natural _ c member)

/-! ## The grammar of numerals -/

/-- A character is the digit with a value below the base, as a small letter or a capital if it
is a letter. -/
def IsDigit (base : Nat) (c : Char) (value : Nat) : Prop :=
  value < base ∧ (c = digitChar value ∨ c = Text.asciiUpper (digitChar value))

/-- One or more digits of a base, and the number that they stand for. -/
inductive Numeral (base : Nat) : Text → Nat → Prop where
  /-- A single digit. -/
  | digit {c : Char} {value : Nat} (valued : IsDigit base c value) : Numeral base [c] value
  /-- A further digit behind a numeral. -/
  | behind {text : Text} {n : Nat} {c : Char} {value : Nat} (front : Numeral base text n)
      (valued : IsDigit base c value) : Numeral base (text ++ [c]) (n * base + value)

theorem Numeral.ne_nil {base n : Nat} {text : Text} (numeral : Numeral base text n) :
    text ≠ [] := by
  cases numeral <;> simp

/-- A numeral stands for a number below the power of the base with as many digits. -/
theorem Numeral.lt_pow {base n : Nat} {text : Text} (numeral : Numeral base text n) :
    n < Nat.pow base text.length := by
  induction numeral with
  | digit valued => simpa using valued.1
  | @behind text n c value front valued inductionHypothesis =>
    have below : (n + 1) * base ≤ Nat.pow base text.length * base :=
      Nat.mul_le_mul_right base (by omega)
    have last := valued.1
    have step : Nat.pow base (text.length + 1) = Nat.pow base text.length * base := rfl
    rw [List.length_append, List.length_singleton, step]
    rw [Nat.add_mul, Nat.one_mul] at below
    omega

/-- A character in a range of digits is the digit as many places behind the first of the range as
it stands behind the first of the digits. -/
theorem exists_of_range {first count : Nat} {c : Char} {shown : Nat → Char}
    (range : ∀ d < count, Char.ofNat (first + d) = shown d) (low : first ≤ c.toNat)
    (high : c.toNat < first + count) : c = shown (c.toNat - first) := by
  have same := range (c.toNat - first) (by omega)
  rwa [Nat.add_sub_cancel' low, Char.ofNat_toNat] at same

/-- A character has a value in a base exactly if it is the digit with that value. -/
theorem digitValue?_eq_some_iff {base value : Nat} {c : Char} (small : base ≤ 16) :
    Text.digitValue? base c = some value ↔ IsDigit base c value := by
  constructor
  · intro read
    have digits : ∀ d < 10, Char.ofNat (48 + d) = digitChar d := by decide
    have letters : ∀ d < 6, Char.ofNat (97 + d) = digitChar (d + 10) := by decide
    have capitals : ∀ d < 6, Char.ofNat (65 + d) = Text.asciiUpper (digitChar (d + 10)) := by
      decide
    simp only [Text.digitValue?] at read
    split at read
    · rename_i bounds
      obtain ⟨below, same⟩ := Option.ite_none_right_eq_some.mp read
      obtain rfl := Option.some.inj same
      exact ⟨below, .inl (exists_of_range digits bounds.1 (Nat.lt_succ_of_le bounds.2))⟩
    · split at read
      · rename_i bounds
        obtain ⟨below, same⟩ := Option.ite_none_right_eq_some.mp read
        obtain rfl := Option.some.inj same
        exact ⟨below, .inl (exists_of_range letters bounds.1 (Nat.lt_succ_of_le bounds.2))⟩
      · split at read
        · rename_i bounds
          obtain ⟨below, same⟩ := Option.ite_none_right_eq_some.mp read
          obtain rfl := Option.some.inj same
          exact ⟨below, .inr (exists_of_range capitals bounds.1 (Nat.lt_succ_of_le bounds.2))⟩
        · simp at read
  · rintro ⟨below, rfl | rfl⟩
    · exact digitValue?_digitChar small below
    · have all : ∀ base ≤ 16, ∀ d < base,
          Text.digitValue? base (Text.asciiUpper (digitChar d)) = some d := by decide
      exact all base small value below

/-- The last character of a text is read with the value of what stands in front of it. -/
theorem toNat?_append_singleton (base : Nat) {front : Text} (nonempty : front ≠ []) (c : Char) :
    Text.toNat? base (front ++ [c]) =
      (Text.toNat? base front).bind fun value =>
        (Text.digitValue? base c).map (value * base + ·) := by
  simp only [Text.toNat?, List.isEmpty_iff, nonempty, List.append_eq_nil_iff, false_and, if_false,
    List.foldlM_append, List.foldlM_cons, List.foldlM_nil]
  simp

theorem toNat?_singleton (base : Nat) (c : Char) :
    Text.toNat? base [c] = Text.digitValue? base c := by
  simp [Text.toNat?]

/-- A text is read as a number exactly if it is a numeral of that number. -/
theorem toNat?_eq_some_iff {base n : Nat} {text : Text} (small : base ≤ 16) :
    Text.toNat? base text = some n ↔ Numeral base text n := by
  constructor
  · intro read
    induction text using List.reverseRecOn generalizing n with
    | nil => cases read
    | append_singleton front c inductionHypothesis =>
      by_cases empty : front = []
      · subst empty
        rw [List.nil_append, toNat?_singleton, digitValue?_eq_some_iff small] at read
        exact .digit read
      · rw [toNat?_append_singleton base empty] at read
        obtain ⟨value, before, read⟩ := Option.bind_eq_some_iff.mp read
        obtain ⟨d, valued, rfl⟩ := Option.map_eq_some_iff.mp read
        exact .behind (inductionHypothesis before) ((digitValue?_eq_some_iff small).mp valued)
  · intro numeral
    induction numeral with
    | digit valued => rw [toNat?_singleton, (digitValue?_eq_some_iff small).mpr valued]
    | behind front valued before =>
      have nonempty := front.ne_nil
      rw [toNat?_append_singleton base nonempty, before,
        (digitValue?_eq_some_iff small).mpr valued]
      rfl

/-- The numeral that a number is written with. -/
theorem numeral_numeral {base : Nat} (positional : 2 ≤ base) (small : base ≤ 16) (n : Nat) :
    Numeral base (numeral base n) n :=
  (toNat?_eq_some_iff small).mp (toNat?_numeral positional small n)

theorem Numeral.behindZero {base n : Nat} {text : Text} (numeral : Numeral base text n) :
    Numeral base ('0' :: text) n := by
  induction numeral with
  | @digit c value valued =>
    have zero : IsDigit base '0' 0 := ⟨Nat.zero_lt_of_lt valued.1, .inl rfl⟩
    simpa using Numeral.behind (.digit zero) valued
  | behind _ valued front => exact .behind front valued

/-- Zeros in front of a numeral do not change its number. -/
theorem Numeral.behindZeros {base n : Nat} {text : Text} (numeral : Numeral base text n)
    (count : Nat) : Numeral base (List.replicate count '0' ++ text) n := by
  induction count with
  | zero => exact numeral
  | succ count inductionHypothesis => exact inductionHypothesis.behindZero

/-- Capitals in a numeral do not change its number. -/
theorem Numeral.upper {base n : Nat} {text : Text} (numeral : Numeral base text n)
    (small : base ≤ 16) : Numeral base (text.map Text.asciiUpper) n := by
  have idempotent : ∀ d < 16, Text.asciiUpper (Text.asciiUpper (digitChar d)) =
      Text.asciiUpper (digitChar d) := by decide
  have digit {c : Char} {value : Nat} (valued : IsDigit base c value) :
      IsDigit base (Text.asciiUpper c) value := by
    obtain ⟨below, rfl | rfl⟩ := valued
    · exact ⟨below, .inr rfl⟩
    · exact ⟨below, .inr (idempotent value (Nat.lt_of_lt_of_le below small))⟩
  induction numeral with
  | digit valued => exact .digit (digit valued)
  | behind _ valued front =>
    rw [List.map_append]
    exact .behind front (digit valued)

/-- What is no digit stands in no numeral. -/
theorem Numeral.not_mem {base n : Nat} {text : Text} (numeral : Numeral base text n)
    (small : base ≤ 16) {mark : Char} (foreign : Text.digitValue? base mark = none) :
    mark ∉ text := by
  have other {c : Char} {value : Nat} (valued : IsDigit base c value) : mark ≠ c := by
    rintro rfl
    rw [(digitValue?_eq_some_iff small).mpr valued] at foreign
    cases foreign
  induction numeral with
  | digit valued => simpa using other valued
  | behind _ valued before => simpa using ⟨before, other valued⟩

/-- A reader that lets a plus sign stand in front reads numerals with or without one, up to its
limit. -/
theorem toNatUpTo?_eq_some_iff {limit base n : Nat} {text : Text} (small : base ≤ 16) :
    Text.toNatUpTo? limit base text = some n ↔
      (Numeral base text n ∨ ∃ digits, text = '+' :: digits ∧ Numeral base digits n) ∧
        n ≤ limit := by
  have plain : Text.digitValue? base '+' = none := by
    have all : ∀ base ≤ 16, Text.digitValue? base '+' = none := by decide
    exact all base small
  simp only [Text.toNatUpTo?, Option.filter_eq_some_iff, toNat?_eq_some_iff small,
    decide_eq_true_eq]
  refine and_congr_left fun _ => ?_
  split
  · rename_i digits
    constructor
    · exact fun numeral => .inr ⟨digits, rfl, numeral⟩
    · rintro (numeral | ⟨_, same, numeral⟩)
      · exact absurd List.mem_cons_self (numeral.not_mem small plain)
      · exact (List.cons.inj same).2 ▸ numeral
  · rename_i unsigned
    constructor
    · exact .inl
    · rintro (numeral | ⟨digits, rfl, _⟩)
      · exact numeral
      · exact absurd rfl (unsigned digits)

end HtmlTemplate.Decimal
