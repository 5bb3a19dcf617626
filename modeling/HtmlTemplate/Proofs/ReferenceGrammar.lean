import HtmlTemplate.Proofs.Numerals
import HtmlTemplate.Proofs.References

/-!
# The grammar of character references

Which names stand between the ampersand and the semicolon of a reference, what each of them
stands for, and what a text becomes if its references are replaced from left to right. Decoding
does that, but it reads numbers with a plus sign in front as well
(`replaced_decodeReferences_iff`).
-/

namespace HtmlTemplate.Markup

open Decimal (Numeral toNat?_eq_some_iff toNatUpTo?_eq_some_iff)

/-! ## Names -/

/-- The characters that have a name. -/
def namedCharacters : List (Text × Char) :=
  [("amp".toList, '&'), ("lt".toList, '<'), ("gt".toList, '>'), ("quot".toList, '\"'),
    ("apos".toList, '\''), ("nbsp".toList, '\u00A0')]

/-- The character that a code stands for. -/
inductive HasCode : Nat → Char → Prop where
  /-- A character other than the null character has its own code. -/
  | scalar {c : Char} (nonzero : c.toNat ≠ 0) : HasCode c.toNat c
  /-- Zero and the codes of no character stand for the replacement character. -/
  | replaced {code : Nat} (foreign : code = 0 ∨ ∀ c : Char, c.toNat ≠ code) :
      HasCode code '\uFFFD'

/-- Names of references that are numbers, with a given sign in front of the digits. -/
inductive DenotesNumber (sign : Text) : Text → Char → Prop where
  /-- A number sign and decimal digits. -/
  | decimal {digits : Text} {code : Nat} {c : Char} (numeral : Numeral 10 digits code)
      (coded : HasCode code c) : DenotesNumber sign ('#' :: (sign ++ digits)) c
  /-- A number sign, a letter `x` and hexadecimal digits. -/
  | hexadecimal {letter : Char} {digits : Text} {code : Nat} {c : Char}
      (marked : letter = 'x' ∨ letter = 'X') (numeral : Numeral 16 digits code)
      (coded : HasCode code c) : DenotesNumber sign ('#' :: letter :: (sign ++ digits)) c

/-- The grammar of references: the name between the ampersand and the semicolon, and the character
that it stands for. -/
inductive Denotes : Text → Char → Prop where
  | named {name : Text} {c : Char} (listed : (name, c) ∈ namedCharacters) : Denotes name c
  | number {name : Text} {c : Char} (numeric : DenotesNumber [] name c) : Denotes name c

/-- Numbers with a plus sign, which the grammar does not have. -/
abbrev DenotesSigned : Text → Char → Prop :=
  DenotesNumber ['+']

/-! ## Names are read by the grammar -/

/-- A valid code is the code of its character. -/
theorem toNat_ofNat {code : Nat} (valid : code.isValidChar) : (Char.ofNat code).toNat = code := by
  rw [Char.ofNat, dif_pos valid]
  rfl

/-- Every code stands for exactly one character. -/
theorem hasCode_iff {code : Nat} {c : Char} : HasCode code c ↔ c = referenceChar code := by
  constructor
  · rintro (nonzero | foreign)
    · rw [referenceChar, if_pos ⟨c.valid, nonzero⟩, Char.ofNat_toNat]
    · rw [referenceChar, if_neg]
      rintro ⟨valid, nonzero⟩
      exact foreign.elim nonzero fun none => none _ (toNat_ofNat valid)
  · rintro rfl
    unfold referenceChar
    split
    · rename_i both
      have code := toNat_ofNat both.1
      have scalar : HasCode (Char.ofNat _).toNat _ := .scalar (code.symm ▸ both.2)
      rwa [code] at scalar
    · rename_i neither
      refine .replaced (or_iff_not_imp_left.mpr fun nonzero c same => ?_)
      exact neither ⟨same ▸ c.valid, nonzero⟩

/-- The named references are those that the grammar lists. -/
theorem namedReference?_eq_some_iff {name : Text} {c : Char} :
    namedReference? name = some c ↔ (name, c) ∈ namedCharacters := by
  constructor
  · intro found
    unfold namedReference? at found
    split_ifs at found <;> (subst name; obtain rfl := Option.some.inj found; decide)
  · intro listed
    simp only [namedCharacters, List.mem_cons, List.not_mem_nil, or_false, Prod.mk.injEq] at listed
    rcases listed with
      ⟨rfl, rfl⟩ | ⟨rfl, rfl⟩ | ⟨rfl, rfl⟩ | ⟨rfl, rfl⟩ | ⟨rfl, rfl⟩ | ⟨rfl, rfl⟩ <;> rfl

/-- The digits behind a sign that can be there are few enough for every limit. -/
theorem toNatUpTo?_eq_some_iff_of_pow_le (count : Nat) {limit base code : Nat} {text : Text}
    (positive : 0 < base) (small : base ≤ 16) (short : text.length ≤ count)
    (fits : Nat.pow base count ≤ limit + 1) :
    Text.toNatUpTo? limit base text = some code ↔
      ∃ sign digits, (sign = [] ∨ sign = ['+']) ∧ text = sign ++ digits ∧
        Numeral base digits code := by
  have bounded {digits : Text} (numeral : Numeral base digits code)
      (shorter : digits.length ≤ count) : code ≤ limit := by
    have below := numeral.lt_pow
    have more : Nat.pow base digits.length ≤ Nat.pow base count :=
      Nat.pow_le_pow_right positive shorter
    omega
  rw [toNatUpTo?_eq_some_iff small]
  constructor
  · rintro ⟨numeral | ⟨digits, rfl, numeral⟩, _⟩
    · exact ⟨[], text, .inl rfl, rfl, numeral⟩
    · exact ⟨['+'], digits, .inr rfl, rfl, numeral⟩
  · rintro ⟨sign, digits, rfl | rfl, rfl, numeral⟩
    · exact ⟨.inl numeral, bounded numeral short⟩
    · rw [List.length_append] at short
      exact ⟨.inr ⟨digits, rfl, numeral⟩, bounded numeral (by omega)⟩

/-- A number is hexadecimal behind a letter `x`, and else decimal. -/
theorem numericReference?_eq_some_iff {number : Text} {code : Nat} :
    numericReference? number = some code ↔
      (∃ letter digits, (letter = 'x' ∨ letter = 'X') ∧ number = letter :: digits ∧
        Text.toNatUpTo? referenceLimit 16 digits = some code) ∨
        Text.toNatUpTo? referenceLimit 10 number = some code := by
  have marked {letter : Char} {digits : Text} (mark : letter = 'x' ∨ letter = 'X') :
      Text.toNatUpTo? referenceLimit 10 (letter :: digits) ≠ some code := by
    intro read
    rcases ((toNatUpTo?_eq_some_iff (by decide)).mp read).1 with numeral | ⟨_, same, _⟩
    · have foreign : Text.digitValue? 10 letter = none := by rcases mark with rfl | rfl <;> decide
      exact numeral.not_mem (by decide) foreign List.mem_cons_self
    · obtain ⟨rfl, _⟩ := List.cons.inj same
      rcases mark with mark | mark <;> cases mark
  unfold numericReference?
  split
  · rename_i digits
    constructor
    · exact fun read => .inl ⟨'x', digits, .inl rfl, rfl, read⟩
    · rintro (⟨_, _, _, same, read⟩ | read)
      · exact (List.cons.inj same).2 ▸ read
      · exact absurd read (marked (.inl rfl))
  · rename_i digits
    constructor
    · exact fun read => .inl ⟨'X', digits, .inr rfl, rfl, read⟩
    · rintro (⟨_, _, _, same, read⟩ | read)
      · exact (List.cons.inj same).2 ▸ read
      · exact absurd read (marked (.inr rfl))
  · rename_i small capital
    constructor
    · exact .inr
    · rintro (⟨letter, digits, rfl | rfl, same, _⟩ | read)
      · exact absurd same (small digits)
      · exact absurd same (capital digits)
      · exact read

/-- A short reference with a number sign is a number of the grammar, or one with a plus sign. -/
theorem reference?_number_eq_some_iff {number : Text} {c : Char}
    (short : number.length + 1 ≤ referenceLength) :
    reference? ('#' :: number) = some c ↔
      ∃ sign, (sign = [] ∨ sign = ['+']) ∧ DenotesNumber sign ('#' :: number) c := by
  rw [referenceLength] at short
  have decimal {code : Nat} : Text.toNatUpTo? referenceLimit 10 number = some code ↔ _ :=
    toNatUpTo?_eq_some_iff_of_pow_le 9 (by decide) (by decide) (by omega) (by decide)
  have hexadecimal {letter : Char} {digits : Text} {code : Nat}
      (parts : number = letter :: digits) :
      Text.toNatUpTo? referenceLimit 16 digits = some code ↔ _ :=
    toNatUpTo?_eq_some_iff_of_pow_le 8 (by decide) (by decide)
      (by rw [parts, List.length_cons] at short; omega) (by decide)
  simp only [reference?, Option.map_eq_some_iff, numericReference?_eq_some_iff]
  constructor
  · rintro ⟨code, ⟨letter, digits, mark, parts, read⟩ | read, rfl⟩
    · obtain ⟨sign, digits, signed, rfl, numeral⟩ := (hexadecimal parts).mp read
      subst parts
      exact ⟨sign, signed, .hexadecimal mark numeral (hasCode_iff.mpr rfl)⟩
    · obtain ⟨sign, digits, signed, rfl, numeral⟩ := decimal.mp read
      exact ⟨sign, signed, .decimal numeral (hasCode_iff.mpr rfl)⟩
  · rintro ⟨sign, signed, numeric⟩
    generalize whole : '#' :: number = name at numeric
    cases numeric with
    | @decimal digits code _ numeral coded =>
      obtain ⟨_, rfl⟩ := List.cons.inj whole
      exact ⟨code, .inr (decimal.mpr ⟨sign, digits, signed, rfl, numeral⟩),
        (hasCode_iff.mp coded).symm⟩
    | @hexadecimal letter digits code _ mark numeral coded =>
      obtain ⟨_, parts⟩ := List.cons.inj whole
      have read := (hexadecimal parts).mpr ⟨sign, digits, signed, rfl, numeral⟩
      exact ⟨code, .inl ⟨letter, _, mark, parts, read⟩, (hasCode_iff.mp coded).symm⟩

theorem DenotesNumber.exists_cons {sign name : Text} {c : Char}
    (numeric : DenotesNumber sign name c) : ∃ number, name = '#' :: number := by
  cases numeric <;> exact ⟨_, rfl⟩

/-- A name that is no number is listed. -/
theorem denotes_iff_of_ne {name : Text} {c : Char} (other : ∀ number, name ≠ '#' :: number) :
    Denotes name c ↔ (name, c) ∈ namedCharacters := by
  constructor
  · rintro (listed | numeric)
    · exact listed
    · obtain ⟨number, same⟩ := numeric.exists_cons
      exact absurd same (other number)
  · exact .named

theorem denotes_number_iff {number : Text} {c : Char} :
    Denotes ('#' :: number) c ↔ DenotesNumber [] ('#' :: number) c := by
  constructor
  · rintro (listed | numeric)
    · simp [namedCharacters] at listed
    · exact numeric
  · exact .number

/-- A short reference is one of the grammar, or a number with a plus sign. -/
theorem reference?_eq_some_iff {name : Text} {c : Char} (short : name.length ≤ referenceLength) :
    reference? name = some c ↔ Denotes name c ∨ DenotesSigned name c := by
  by_cases numeric : ∃ number, name = '#' :: number
  · obtain ⟨number, rfl⟩ := numeric
    rw [reference?_number_eq_some_iff short, denotes_number_iff]
    simp
  · have other : ∀ number, name ≠ '#' :: number := fun number same => numeric ⟨number, same⟩
    have unsigned : ¬ DenotesSigned name c := fun signed => numeric signed.exists_cons
    have named : reference? name = namedReference? name := by
      unfold reference?
      split
      · exact absurd rfl (other _)
      · rfl
    rw [named, namedReference?_eq_some_iff, denotes_iff_of_ne other, or_iff_left unsigned]

/-! ## Replacing references -/

/-- A text begins with a reference of a grammar: an ampersand, a name of at most ten bytes that the
grammar has, and a semicolon. -/
def BeginsReference (grammar : Text → Char → Prop) (text : Text) : Prop :=
  ∃ name c behind, text = '&' :: (name ++ ';' :: behind) ∧ Text.byteLength name ≤ 10 ∧
    grammar name c

/-- A text with its references replaced, from left to right. -/
inductive Replaced (grammar : Text → Char → Prop) : Text → Text → Prop where
  | nil : Replaced grammar [] []
  /-- A reference is replaced by the character that its name stands for. -/
  | reference {name rest out : Text} {c : Char} (short : Text.byteLength name ≤ 10)
      (denotes : grammar name c) (others : Replaced grammar rest out) :
      Replaced grammar ('&' :: (name ++ ';' :: rest)) (c :: out)
  /-- A character that begins no reference stays. -/
  | character {c : Char} {rest out : Text} (alone : ¬ BeginsReference grammar (c :: rest))
      (others : Replaced grammar rest out) : Replaced grammar (c :: rest) (c :: out)

/-- Somewhere in a text stands a number with a plus sign as a reference. -/
def HoldsSigned (text : Text) : Prop :=
  ∃ before behind, text = before ++ behind ∧ BeginsReference DenotesSigned behind

/-! ### What the decoder takes for a reference -/

/-- What the decoder takes for the name of a reference: a name of the grammar, or a number with a
plus sign. -/
abbrev Accepted (name : Text) (c : Char) : Prop :=
  Denotes name c ∨ DenotesSigned name c

theorem length_le_byteLength (text : Text) : text.length ≤ Text.byteLength text := by
  induction text with
  | nil => rfl
  | cons c rest inductionHypothesis =>
    have := c.utf8Size_pos
    simp only [List.length_cons, Text.byteLength_cons]
    omega

/-- What stands in a reference takes one byte for each character. -/
theorem byteLength_of_reference? {name : Text} {c : Char} (valid : reference? name = some c) :
    Text.byteLength name = name.length := by
  have single {c : Char} (named : isReferenceNameChar c = true) : c.utf8Size = 1 := by
    simp only [isReferenceNameChar, Text.isAsciiLetter, Text.isAsciiDigit, Bool.or_eq_true,
      Bool.and_eq_true, decide_eq_true_eq] at named
    rw [Char.utf8Size_eq_one_iff]
    rcases named with (((⟨_, last⟩ | ⟨_, last⟩) | ⟨_, last⟩) | rfl) | rfl
    · exact UInt32.le_trans last (by decide)
    · exact UInt32.le_trans last (by decide)
    · exact UInt32.le_trans last (by decide)
    · decide
    · decide
  have named := isReferenceNameChar_of_reference? valid
  clear valid
  induction name with
  | nil => rfl
  | cons d name inductionHypothesis =>
    have rest := inductionHypothesis fun e member => named e (List.mem_cons_of_mem d member)
    rw [Text.byteLength_cons, single (named d (by simp)), rest, List.length_cons, Nat.add_comm]

/-- The decoder accepts exactly the names of at most ten bytes that it has a character for. -/
theorem accepted_iff {name : Text} {c : Char} :
    Text.byteLength name ≤ 10 ∧ Accepted name c ↔
      name.length ≤ referenceLength ∧ reference? name = some c := by
  constructor
  · rintro ⟨short, accepted⟩
    have shorter : name.length ≤ referenceLength := (length_le_byteLength name).trans short
    exact ⟨shorter, (reference?_eq_some_iff shorter).mpr accepted⟩
  · rintro ⟨short, valid⟩
    exact ⟨byteLength_of_reference? valid ▸ short, (reference?_eq_some_iff short).mp valid⟩

/-- A reference that is accepted is the one that the decoder takes. -/
theorem takeReference?_of_accepted {name rest : Text} {c : Char}
    (short : Text.byteLength name ≤ 10) (accepted : Accepted name c) :
    takeReference? (name ++ ';' :: rest) = some (c, rest) := by
  obtain ⟨short, valid⟩ := accepted_iff.mp ⟨short, accepted⟩
  exact takeReference?_eq_some_iff.mpr ⟨name, rfl, short, valid⟩

/-- Behind an ampersand that begins no reference the decoder takes none. -/
theorem takeReference?_eq_none_iff {rest : Text} :
    takeReference? rest = none ↔ ¬ BeginsReference Accepted ('&' :: rest) := by
  rw [Option.eq_none_iff_forall_not_mem]
  constructor
  · rintro none ⟨name, c, behind, same, short, accepted⟩
    obtain ⟨_, rfl⟩ := List.cons.inj same
    exact none (c, behind) (takeReference?_of_accepted short accepted)
  · rintro alone ⟨c, behind⟩ taken
    obtain ⟨name, rfl, short, valid⟩ := takeReference?_eq_some_iff.mp taken
    obtain ⟨short, accepted⟩ := accepted_iff.mpr ⟨short, valid⟩
    exact alone ⟨name, c, behind, rfl, short, accepted⟩

theorem BeginsReference.mono {grammar grammar' : Text → Char → Prop} {text : Text}
    (within : ∀ name c, grammar name c → grammar' name c)
    (begins : BeginsReference grammar text) : BeginsReference grammar' text := by
  obtain ⟨name, c, behind, same, short, denotes⟩ := begins
  exact ⟨name, c, behind, same, short, within name c denotes⟩

/-- Only at an ampersand a reference begins. -/
theorem not_beginsReference_of_ne {grammar : Text → Char → Prop} {c : Char} (other : c ≠ '&')
    (rest : Text) : ¬ BeginsReference grammar (c :: rest) := by
  rintro ⟨_, _, _, same, _⟩
  exact other (List.cons.inj same).1

/-! ### Every text has one replacement -/

/-- Every text has a replacement. -/
theorem exists_replaced (grammar : Text → Char → Prop) (text : Text) :
    ∃ out, Replaced grammar text out := by
  induction length : text.length using Nat.strong_induction_on generalizing text with
  | _ count inductionHypothesis =>
    subst length
    cases text with
    | nil => exact ⟨[], .nil⟩
    | cons c rest =>
      by_cases begins : BeginsReference grammar (c :: rest)
      · obtain ⟨name, d, behind, same, short, denotes⟩ := begins
        rw [same] at inductionHypothesis ⊢
        obtain ⟨out, others⟩ := inductionHypothesis behind.length
          (by simp only [List.length_cons, List.length_append]; omega) behind rfl
        exact ⟨d :: out, .reference short denotes others⟩
      · obtain ⟨out, others⟩ := inductionHypothesis rest.length (by simp) rest rfl
        exact ⟨c :: out, .character begins others⟩

/-- For names that the decoder accepts a text has only one replacement. -/
theorem Replaced.unique {grammar : Text → Char → Prop} {text out out' : Text}
    (within : ∀ name c, grammar name c → Accepted name c) (replaced : Replaced grammar text out)
    (replaced' : Replaced grammar text out') : out = out' := by
  induction replaced generalizing out' with
  | nil =>
    cases replaced'
    rfl
  | @reference name rest out c short denotes _ inductionHypothesis =>
    have taken : takeReference? (name ++ ';' :: rest) = some (c, rest) :=
      takeReference?_of_accepted short (within name c denotes)
    generalize same : '&' :: (name ++ ';' :: rest) = text at replaced'
    cases replaced' with
    | nil => cases same
    | @reference name' rest' out' c' short' denotes' others =>
      have taken' : takeReference? (name' ++ ';' :: rest') = some (c', rest') :=
        takeReference?_of_accepted short' (within name' c' denotes')
      rw [← (List.cons.inj same).2, taken] at taken'
      obtain ⟨rfl, rfl⟩ := Prod.mk.inj (Option.some.inj taken')
      rw [inductionHypothesis others]
    | character alone others =>
      rw [← same] at alone
      exact absurd ⟨name, c, rest, rfl, short, denotes⟩ alone
  | @character c rest out alone _ inductionHypothesis =>
    generalize same : c :: rest = text at replaced'
    cases replaced' with
    | nil => cases same
    | @reference name' rest' out' c' short' denotes' others =>
      exact absurd ⟨name', c', rest', same, short', denotes'⟩ alone
    | character alone' others =>
      obtain ⟨rfl, rfl⟩ := List.cons.inj same
      rw [inductionHypothesis others]

/-- Decoding replaces the references that the decoder accepts. -/
theorem replaced_accepted_decodeReferences (text : Text) :
    Replaced Accepted text (decodeReferences text) := by
  fun_induction decodeReferences text with
  | case1 => exact .nil
  | case2 rest c behind taken _ inductionHypothesis =>
    obtain ⟨name, rfl, short, valid⟩ := takeReference?_eq_some_iff.mp taken
    obtain ⟨short, accepted⟩ := accepted_iff.mpr ⟨short, valid⟩
    exact .reference short accepted inductionHypothesis
  | case3 rest alone inductionHypothesis =>
    exact .character (takeReference?_eq_none_iff.mp alone) inductionHypothesis
  | case4 c rest other inductionHypothesis =>
    exact .character (not_beginsReference_of_ne other rest) inductionHypothesis

/-! ### Signed numbers -/

theorem holdsSigned_cons {c : Char} {rest : Text} :
    HoldsSigned (c :: rest) ↔ BeginsReference DenotesSigned (c :: rest) ∨ HoldsSigned rest := by
  constructor
  · rintro ⟨before, behind, parts, begins⟩
    cases before with
    | nil => exact .inl (parts ▸ begins)
    | cons d before => exact .inr ⟨before, behind, (List.cons.inj parts).2, begins⟩
  · rintro (begins | ⟨before, behind, rfl, begins⟩)
    · exact ⟨[], c :: rest, rfl, begins⟩
    · exact ⟨c :: before, behind, rfl, begins⟩

theorem HoldsSigned.append_left {text : Text} (holds : HoldsSigned text) (front : Text) :
    HoldsSigned (front ++ text) := by
  obtain ⟨before, behind, rfl, begins⟩ := holds
  exact ⟨front ++ before, behind, by simp, begins⟩

/-- In a text without ampersands no reference begins. -/
theorem HoldsSigned.of_append {front text : Text} (plain : '&' ∉ front)
    (holds : HoldsSigned (front ++ text)) : HoldsSigned text := by
  induction front with
  | nil => exact holds
  | cons c front inductionHypothesis =>
    simp only [List.mem_cons, not_or] at plain
    rcases holdsSigned_cons.mp holds with begins | holds
    · exact absurd begins (not_beginsReference_of_ne (Ne.symm plain.1) _)
    · exact inductionHypothesis plain.2 holds

/-- No name of the grammar is a number with a plus sign. -/
theorem not_denotesSigned_of_denotes {name : Text} {c d : Char} (denotes : Denotes name c) :
    ¬ DenotesSigned name d := by
  have plain : '+' ∉ name := by
    rcases denotes with listed | @⟨digits, _, _, numeral⟩ | @⟨letter, digits, _, _, mark, numeral⟩
    · have unsigned : ∀ entry ∈ namedCharacters, '+' ∉ entry.1 := by decide
      exact unsigned _ listed
    · have absent : '+' ∉ digits := numeral.not_mem (by decide) (by decide)
      simpa using absent
    · have absent : '+' ∉ digits := numeral.not_mem (by decide) (by decide)
      rcases mark with rfl | rfl <;> simpa using absent
  intro signed
  cases signed <;> exact plain (by simp)

/-- Where a name of the grammar stands, no signed number does. -/
theorem not_beginsReference_of_denotes {name : Text} {c : Char}
    (short : Text.byteLength name ≤ 10) (denotes : Denotes name c) (rest : Text) :
    ¬ BeginsReference DenotesSigned ('&' :: (name ++ ';' :: rest)) := by
  rintro ⟨name', d, behind, same, short', signed⟩
  obtain ⟨_, valid⟩ := accepted_iff.mp ⟨short, .inl denotes⟩
  obtain ⟨_, valid'⟩ := accepted_iff.mp ⟨short', .inr signed⟩
  have split : Text.splitOnce ';' (name ++ ';' :: rest) = some (name, rest) :=
    Text.splitOnce_eq_some_iff.mpr ⟨rfl, not_mem_of_reference? ';' valid (by decide)⟩
  have split' : Text.splitOnce ';' (name ++ ';' :: rest) = some (name', behind) :=
    Text.splitOnce_eq_some_iff.mpr
      ⟨(List.cons.inj same).2, not_mem_of_reference? ';' valid' (by decide)⟩
  rw [split] at split'
  obtain ⟨rfl, _⟩ := Prod.mk.inj (Option.some.inj split')
  exact not_denotesSigned_of_denotes denotes signed

/-- Text without ampersands is passed over. -/
theorem decodeReferences_append_of_not_mem {front : Text} (plain : '&' ∉ front) (rest : Text) :
    decodeReferences (front ++ rest) = front ++ decodeReferences rest := by
  induction front with
  | nil => rfl
  | cons c front inductionHypothesis =>
    simp only [List.mem_cons, not_or] at plain
    rw [List.cons_append, decodeReferences_cons (Ne.symm plain.1), inductionHypothesis plain.2,
      List.cons_append]

/-- A character that begins nothing the decoder accepts stands for itself. -/
theorem decodeReferences_alone {c : Char} {rest : Text}
    (alone : ¬ BeginsReference Accepted (c :: rest)) :
    decodeReferences (c :: rest) = c :: decodeReferences rest := by
  by_cases ampersand : c = '&'
  · subst ampersand
    exact decodeReferences_ampersand (takeReference?_eq_none_iff.mpr alone)
  · exact decodeReferences_cons ampersand rest

/-- Decoding gives no more characters than replacing what the grammar has, and fewer if a signed
number stands somewhere. -/
theorem length_decodeReferences_le {text out : Text} (replaced : Replaced Denotes text out) :
    (decodeReferences text).length ≤ out.length ∧
      (HoldsSigned text → (decodeReferences text).length < out.length) := by
  induction replaced with
  | nil =>
    refine ⟨by simp, ?_⟩
    rintro ⟨before, behind, parts, _, _, _, same, _⟩
    rw [same] at parts
    simp at parts
  | @reference name rest out c short denotes _ inductionHypothesis =>
    obtain ⟨shorter, valid⟩ := accepted_iff.mp ⟨short, .inl denotes⟩
    have apart : '&' ∉ name ++ [';'] := by
      simpa using not_mem_of_reference? '&' valid (by decide)
    rw [decodeReferences_reference valid shorter, List.length_cons, List.length_cons]
    refine ⟨Nat.succ_le_succ inductionHypothesis.1, fun holds => ?_⟩
    have inside : HoldsSigned (name ++ [';'] ++ rest) := by
      have later := (holdsSigned_cons.mp holds).resolve_left
        (not_beginsReference_of_denotes short denotes rest)
      simpa using later
    exact Nat.succ_lt_succ (inductionHypothesis.2 (inside.of_append apart))
  | @character c rest out alone _ inductionHypothesis =>
    rw [List.length_cons]
    by_cases begins : BeginsReference Accepted (c :: rest)
    -- The decoder takes a signed number here, of which the grammar leaves every character.
    · obtain ⟨name, d, behind, same, short, accepted⟩ := begins
      obtain ⟨rfl, rfl⟩ := List.cons.inj same
      obtain ⟨shorter, valid⟩ := accepted_iff.mp ⟨short, accepted⟩
      have apart : '&' ∉ name ++ [';'] := by
        simpa using not_mem_of_reference? '&' valid (by decide)
      have passed := decodeReferences_append_of_not_mem apart behind
      have fewer := inductionHypothesis.1
      rw [show name ++ ';' :: behind = name ++ [';'] ++ behind by simp, passed] at fewer
      simp only [List.length_append, List.length_singleton] at fewer
      rw [decodeReferences_reference valid shorter, List.length_cons]
      exact ⟨by omega, fun _ => by omega⟩
    · rw [decodeReferences_alone begins, List.length_cons]
      refine ⟨Nat.succ_le_succ inductionHypothesis.1, fun holds => ?_⟩
      have later : HoldsSigned rest := (holdsSigned_cons.mp holds).resolve_left
        fun signed => begins (signed.mono fun _ _ => .inr)
      exact Nat.succ_lt_succ (inductionHypothesis.2 later)

/-- Without signed numbers decoding replaces what the grammar has. -/
theorem replaced_decodeReferences {text : Text} (unsigned : ¬ HoldsSigned text) :
    Replaced Denotes text (decodeReferences text) := by
  have replaced := replaced_accepted_decodeReferences text
  generalize decodeReferences text = out at replaced
  induction replaced with
  | nil => exact .nil
  | @reference name rest out c short accepted _ inductionHypothesis =>
    have denotes : Denotes name c := accepted.resolve_right fun signed =>
      unsigned ⟨[], _, rfl, name, c, rest, rfl, short, signed⟩
    refine .reference short denotes (inductionHypothesis fun holds => unsigned ?_)
    simpa using holds.append_left ('&' :: name ++ [';'])
  | @character c rest out alone _ inductionHypothesis =>
    refine .character (fun begins => alone (begins.mono fun _ _ => .inl)) ?_
    exact inductionHypothesis fun holds => unsigned (holds.append_left [c])

/-- The grammar gives every text one replacement. Decoding replaces the references of the grammar
and the numbers with a plus sign, so it gives the replacement by the grammar exactly if the text
holds no such number. -/
theorem replaced_decodeReferences_iff (text : Text) :
    (∃! out, Replaced Denotes text out) ∧
      Replaced Accepted text (decodeReferences text) ∧
      (Replaced Denotes text (decodeReferences text) ↔ ¬ HoldsSigned text) := by
  obtain ⟨out, replaced⟩ := exists_replaced Denotes text
  refine ⟨⟨out, replaced, fun other replaced' => ?_⟩, replaced_accepted_decodeReferences text,
    fun same holds => ?_, replaced_decodeReferences⟩
  · exact replaced'.unique (fun _ _ => .inl) replaced
  · exact Nat.lt_irrefl _ ((length_decodeReferences_le same).2 holds)

/-- A number with a plus sign is no reference by the grammar, but it is decoded. -/
theorem not_replaced_signed_number :
    ¬ Replaced Denotes "&#+65;".toList (decodeReferences "&#+65;".toList) := by
  have signed : BeginsReference DenotesSigned "&#+65;".toList := by
    have numeral : Numeral 10 "65".toList 65 := (toNat?_eq_some_iff (by decide)).mp (by decide)
    have coded : HasCode 65 'A' := hasCode_iff.mpr (by decide)
    exact ⟨"#+65".toList, 'A', [], rfl, by decide, .decimal numeral coded⟩
  intro same
  exact Nat.lt_irrefl _ ((length_decodeReferences_le same).2 ⟨[], _, rfl, signed⟩)

end HtmlTemplate.Markup
