import HtmlTemplate.Markup.Escape
import HtmlTemplate.Markup.Reference
import HtmlTemplate.Proofs.Texts

/-!
# Character references in their surroundings

`takeReference?_eq_some_iff` says what a character reference is. From it follows how
decoding acts on two texts one behind the other: it acts on each of them alone, unless a
reference spans the place where they meet, and then it gives a shorter text. Escaped text
decodes to what was escaped.
-/

namespace HtmlTemplate

namespace Markup

/-! ## Names of references -/

/-- Whether a character can stand between the ampersand and the semicolon of a reference. -/
def isReferenceNameChar (c : Char) : Bool :=
  Text.isAsciiLetter c || Text.isAsciiDigit c || c = '#' || c = '+'

/-- A character with a value as a digit is a letter or a digit. -/
theorem isReferenceNameChar_of_digitValue? {base value : Nat} {c : Char}
    (digit : Text.digitValue? base c = some value) : isReferenceNameChar c = true := by
  simp only [Text.digitValue?] at digit
  simp only [isReferenceNameChar, Text.isAsciiLetter, Text.isAsciiDigit, Bool.or_eq_true,
    Bool.and_eq_true, decide_eq_true_eq]
  split at digit
  · rename_i bounds
    exact .inl (.inl (.inr bounds))
  · split at digit
    · rename_i bounds
      exact .inl (.inl (.inl (.inl ⟨bounds.1, Char.le_trans bounds.2 (by decide)⟩)))
    · split at digit
      · rename_i bounds
        exact .inl (.inl (.inl (.inr ⟨bounds.1, Char.le_trans bounds.2 (by decide)⟩)))
      · simp at digit

/-- What a value was read from digit by digit consists of digits. -/
theorem isReferenceNameChar_of_foldlM {base start number : Nat} {digits : Text}
    (read : digits.foldlM
      (fun value c => (Text.digitValue? base c).map (value * base + ·)) start = some number) :
    ∀ c ∈ digits, isReferenceNameChar c = true := by
  induction digits generalizing start with
  | nil => simp
  | cons d rest inductionHypothesis =>
    rw [List.foldlM_cons] at read
    obtain ⟨next, step, read⟩ := Option.bind_eq_some_iff.mp read
    obtain ⟨value, digit, _⟩ := Option.map_eq_some_iff.mp step
    intro c member
    rcases List.mem_cons.mp member with rfl | member
    · exact isReferenceNameChar_of_digitValue? digit
    · exact inductionHypothesis read c member

/-- A number consists of digits. -/
theorem isReferenceNameChar_of_toNat? {base number : Nat} {digits : Text}
    (read : Text.toNat? base digits = some number) :
    ∀ c ∈ digits, isReferenceNameChar c = true := by
  simp only [Text.toNat?] at read
  split at read
  · simp at read
  · exact isReferenceNameChar_of_foldlM read

/-- A number with a plus sign that is allowed in front consists of digits and that sign. -/
theorem isReferenceNameChar_of_toNatUpTo? {limit base number : Nat} {text : Text}
    (read : Text.toNatUpTo? limit base text = some number) :
    ∀ c ∈ text, isReferenceNameChar c = true := by
  simp only [Text.toNatUpTo?, Option.filter_eq_some_iff] at read
  have digits := isReferenceNameChar_of_toNat? read.1
  split at digits
  · simpa [isReferenceNameChar] using digits
  · exact digits

/-- Nothing but letters, digits, number signs and plus signs stands in a reference. -/
theorem isReferenceNameChar_of_reference? {name : Text} {c : Char}
    (valid : reference? name = some c) : ∀ x ∈ name, isReferenceNameChar x = true := by
  unfold reference? at valid
  split at valid
  · rename_i number
    obtain ⟨code, read, _⟩ := Option.map_eq_some_iff.mp valid
    have digits : ∀ x ∈ number, isReferenceNameChar x = true := by
      unfold numericReference? at read
      split at read
      · simpa [isReferenceNameChar, Text.isAsciiLetter] using
          isReferenceNameChar_of_toNatUpTo? read
      · simpa [isReferenceNameChar, Text.isAsciiLetter] using
          isReferenceNameChar_of_toNatUpTo? read
      · exact isReferenceNameChar_of_toNatUpTo? read
    intro x member
    rcases List.mem_cons.mp member with rfl | member
    · decide
    · exact digits x member
  · unfold namedReference? at valid
    split_ifs at valid with amp lt gt quot apos nbsp <;> subst name <;>
      exact List.all_eq_true.mp (by decide)

/-- A character that cannot stand in a reference stands in none. -/
theorem not_mem_of_reference? {name : Text} {c : Char} (mark : Char)
    (valid : reference? name = some c) (foreign : isReferenceNameChar mark = false) :
    mark ∉ name := by
  intro member
  have named := isReferenceNameChar_of_reference? valid mark member
  rw [foreign] at named
  cases named

/-- The text behind an ampersand begins with a reference exactly if a name of at most
`referenceLength` characters and a semicolon stand there. -/
theorem takeReference?_eq_some_iff {text rest : Text} {c : Char} :
    takeReference? text = some (c, rest) ↔
      ∃ name, text = name ++ ';' :: rest ∧ name.length ≤ referenceLength ∧
        reference? name = some c := by
  constructor
  · intro taken
    simp only [takeReference?] at taken
    split at taken
    · cases taken
    · rename_i name beyond split
      obtain ⟨decoded, valid, pair⟩ := Option.map_eq_some_iff.mp taken
      obtain ⟨rfl, rfl⟩ := Prod.mk.inj pair
      obtain ⟨start, _⟩ := Text.splitOnce_eq_some_iff.mp split
      have whole : text = name ++ ';' :: (beyond ++ text.drop (referenceLength + 1)) := by
        have parts := List.take_append_drop (referenceLength + 1) text
        rw [start] at parts
        simpa using parts.symm
      have short : name.length + 1 ≤ referenceLength + 1 := by
        have lengths := congrArg List.length start
        simp only [List.length_take, List.length_append, List.length_cons] at lengths
        omega
      refine ⟨name, ?_, by omega, valid⟩
      have dropped : text.drop (name.length + 1) =
          beyond ++ text.drop (referenceLength + 1) := by
        conv_lhs => rw [whole]
        simp [List.drop_append]
      rw [dropped]
      exact whole
  · rintro ⟨name, rfl, short, valid⟩
    have absent : ';' ∉ name := not_mem_of_reference? ';' valid (by decide)
    have split : Text.splitOnce ';' ((name ++ ';' :: rest).take (referenceLength + 1)) =
        some (name, rest.take (referenceLength - name.length)) := by
      rw [Text.splitOnce_eq_some_iff]
      refine ⟨?_, absent⟩
      rw [List.take_append, List.take_of_length_le (by omega),
        show referenceLength + 1 - name.length = referenceLength - name.length + 1 by omega,
        List.take_succ_cons]
    simp only [takeReference?, split, valid, Option.map_some]
    simp [List.drop_append]

/-! ## Decoding -/

@[simp] theorem decodeReferences_nil : decodeReferences [] = [] := by
  rw [decodeReferences]

/-- A character other than an ampersand stands for itself. -/
theorem decodeReferences_cons {c : Char} (other : c ≠ '&') (rest : Text) :
    decodeReferences (c :: rest) = c :: decodeReferences rest := by
  rw [decodeReferences, if_neg other]

/-- A reference stands for its character. -/
theorem decodeReferences_reference {name : Text} {c : Char}
    (valid : reference? name = some c) (short : name.length ≤ referenceLength) (rest : Text) :
    decodeReferences ('&' :: (name ++ ';' :: rest)) = c :: decodeReferences rest := by
  have taken : takeReference? (name ++ ';' :: rest) = some (c, rest) :=
    takeReference?_eq_some_iff.mpr ⟨name, rfl, short, valid⟩
  rw [decodeReferences, if_pos rfl]
  split
  · rename_i found
    rw [taken] at found
    obtain ⟨rfl, rfl⟩ := Prod.mk.inj (Option.some.inj found)
    rfl
  · rename_i found
    rw [taken] at found
    cases found

/-- An ampersand that begins no reference stands for itself. -/
theorem decodeReferences_ampersand {rest : Text} (alone : takeReference? rest = none) :
    decodeReferences ('&' :: rest) = '&' :: decodeReferences rest := by
  rw [decodeReferences, if_pos rfl]
  split
  · rename_i found
    rw [alone] at found
    cases found
  · rfl

/-- Without ampersands there is nothing to decode. -/
theorem decodeReferences_eq_self {text : Text} (plain : '&' ∉ text) :
    decodeReferences text = text := by
  induction text with
  | nil => simp
  | cons c rest inductionHypothesis =>
    simp only [List.mem_cons, not_or] at plain
    rw [decodeReferences_cons (Ne.symm plain.1), inductionHypothesis plain.2]

/-- Without semicolons there is nothing to decode. -/
theorem decodeReferences_eq_self_of_unended {text : Text} (unended : ';' ∉ text) :
    decodeReferences text = text := by
  induction text with
  | nil => simp
  | cons c rest inductionHypothesis =>
    simp only [List.mem_cons, not_or] at unended
    have tail := inductionHypothesis unended.2
    by_cases ampersand : c = '&'
    · subst ampersand
      have alone : takeReference? rest = none := by
        rw [Option.eq_none_iff_forall_not_mem]
        rintro ⟨decoded, behind⟩ taken
        obtain ⟨name, rfl, _⟩ := takeReference?_eq_some_iff.mp taken
        exact unended.2 (by simp)
      rw [decodeReferences_ampersand alone, tail]
    · rw [decodeReferences_cons ampersand, tail]

/-- Only the empty text decodes to the empty text. -/
@[simp] theorem decodeReferences_eq_nil_iff {text : Text} :
    decodeReferences text = [] ↔ text = [] := by
  constructor
  · intro empty
    cases text with
    | nil => rfl
    | cons c rest =>
      rw [decodeReferences] at empty
      split at empty
      · split at empty <;> cases empty
      · cases empty
  · rintro rfl
    simp

/-! ## Two texts that meet -/

/-- A reference that begins in the first of two neighbouring texts ends in the second. -/
def SpansReference (before after : Text) : Prop :=
  ∃ settled front back behind c,
    before = settled ++ '&' :: front ∧ after = back ++ ';' :: behind ∧
      (front ++ back).length ≤ referenceLength ∧ reference? (front ++ back) = some c

/-- Only what stands behind a character that no reference contains can be the beginning of
a reference that ends further on. -/
theorem spansReference_append_cons {mark : Char} (foreign : isReferenceNameChar mark = false)
    (other : mark ≠ '&') (front before after : Text) :
    SpansReference (front ++ mark :: before) after ↔ SpansReference before after := by
  constructor
  · rintro ⟨settled, name, back, behind, c, split, rfl, short, valid⟩
    refine ⟨settled.drop (front.length + 1), name, back, behind, c, ?_, rfl, short, valid⟩
    have absent : mark ∉ name := fun member =>
      not_mem_of_reference? mark valid foreign (List.mem_append_left back member)
    rcases List.append_eq_append_iff.mp split with ⟨rest, rfl, tail⟩ | ⟨rest, rfl, tail⟩
    · cases rest with
      | nil => exact absurd (List.cons.inj tail).1 other
      | cons d rest =>
        obtain ⟨rfl, rfl⟩ := List.cons.inj tail
        simp [List.drop_append]
    · cases rest with
      | nil => exact absurd (List.cons.inj tail).1.symm other
      | cons d rest =>
        obtain ⟨rfl, rfl⟩ := List.cons.inj tail
        exact absurd (by simp) absent
  · rintro ⟨settled, name, back, behind, c, rfl, rfl, short, valid⟩
    exact ⟨front ++ mark :: settled, name, back, behind, c, by simp, rfl, short, valid⟩

/-- What spans the end of a text spans the end of every longer one. -/
theorem SpansReference.append_left {before after : Text}
    (spans : SpansReference before after) (front : Text) :
    SpansReference (front ++ before) after := by
  obtain ⟨settled, name, back, behind, c, rfl, rfl, short, valid⟩ := spans
  exact ⟨front ++ settled, name, back, behind, c, by simp, rfl, short, valid⟩

/-- Nothing spans the beginning of an ampersand. -/
theorem not_spansReference_ampersand (before after : Text) :
    ¬ SpansReference before ('&' :: after) := by
  rintro ⟨settled, front, back, behind, c, _, split, _, valid⟩
  cases back with
  | nil => exact absurd (List.cons.inj split).1 (by decide)
  | cons d back =>
    obtain ⟨rfl, _⟩ := List.cons.inj split
    have absent := not_mem_of_reference? '&' valid (by decide)
    simp at absent

/-- A reference that appears when a text is continued spans the end of that text. -/
theorem takeReference?_append_of_none {text more rest : Text} {c : Char}
    (alone : takeReference? text = none)
    (taken : takeReference? (text ++ more) = some (c, rest)) :
    ∃ back, more = back ++ ';' :: rest ∧ (text ++ back).length ≤ referenceLength ∧
      reference? (text ++ back) = some c := by
  obtain ⟨name, split, short, valid⟩ := takeReference?_eq_some_iff.mp taken
  rcases List.append_eq_append_iff.mp split with ⟨back, rfl, rfl⟩ | ⟨front, rfl, tail⟩
  · exact ⟨back, rfl, short, valid⟩
  · cases front with
    | nil => exact ⟨[], by simpa using tail.symm, by simpa using short, by simpa using valid⟩
    | cons d front =>
      obtain ⟨rfl, rfl⟩ := List.cons.inj tail
      have found : takeReference? (name ++ ';' :: front) = some (c, front) :=
        takeReference?_eq_some_iff.mpr ⟨name, rfl, short, valid⟩
      rw [alone] at found
      cases found

/-- Decoding acts on two neighbouring texts separately unless a reference spans both. -/
theorem decodeReferences_append {before after : Text}
    (apart : ¬ SpansReference before after) :
    decodeReferences (before ++ after) = decodeReferences before ++ decodeReferences after := by
  fun_induction decodeReferences before with
  | case1 => simp
  | case2 rest decoded behind taken _ inductionHypothesis =>
    obtain ⟨name, rfl, short, valid⟩ := takeReference?_eq_some_iff.mp taken
    have later : ¬ SpansReference behind after := fun spans =>
      apart (by simpa using spans.append_left ('&' :: name ++ [';']))
    simp only [List.cons_append, List.append_assoc]
    rw [decodeReferences_reference valid short, inductionHypothesis later]
  | case3 rest alone inductionHypothesis =>
    have later : ¬ SpansReference rest after := fun spans =>
      apart (spans.append_left ['&'])
    have stillAlone : takeReference? (rest ++ after) = none := by
      rw [Option.eq_none_iff_forall_not_mem]
      rintro ⟨decoded, behind⟩ taken
      obtain ⟨back, rfl, short, valid⟩ := takeReference?_append_of_none alone taken
      exact apart ⟨[], rest, back, behind, decoded, rfl, rfl, short, valid⟩
    rw [List.cons_append, decodeReferences_ampersand stillAlone, inductionHypothesis later,
      List.cons_append]
  | case4 c rest other inductionHypothesis =>
    have later : ¬ SpansReference rest after := fun spans => apart (spans.append_left [c])
    rw [List.cons_append, decodeReferences_cons other, inductionHypothesis later,
      List.cons_append]

/-- Where a reference spans two texts, decoding them together gives fewer characters than
decoding each of them. -/
theorem length_decodeReferences_append_lt {before after : Text}
    (spans : SpansReference before after) :
    (decodeReferences (before ++ after)).length <
      (decodeReferences before ++ decodeReferences after).length := by
  obtain ⟨settled, front, back, behind, c, rfl, rfl, short, valid⟩ := spans
  have named (mark : Char) (foreign : isReferenceNameChar mark = false) :
      mark ∉ front ∧ mark ∉ back := by
    simpa using not_mem_of_reference? mark valid foreign
  have together : decodeReferences (settled ++ '&' :: front ++ (back ++ ';' :: behind)) =
      decodeReferences settled ++ c :: decodeReferences behind := by
    have reference := decodeReferences_reference valid short behind
    rw [show settled ++ '&' :: front ++ (back ++ ';' :: behind) =
        settled ++ '&' :: (front ++ back ++ ';' :: behind) by simp,
      decodeReferences_append (not_spansReference_ampersand settled _), reference]
  have unended : ';' ∉ '&' :: front := by simpa using (named ';' (by decide)).1
  have single : '&' ∉ back ++ [';'] := by simpa using (named '&' (by decide)).2
  have first : decodeReferences (settled ++ '&' :: front) =
      decodeReferences settled ++ '&' :: front := by
    rw [decodeReferences_append (not_spansReference_ampersand settled _),
      decodeReferences_eq_self_of_unended unended]
  have second : decodeReferences (back ++ ';' :: behind) =
      back ++ ';' :: decodeReferences behind := by
    have plain : ¬ SpansReference (back ++ [';']) behind := by
      rintro ⟨_, _, _, _, _, split, _⟩
      exact single (by simp [split])
    rw [show back ++ ';' :: behind = (back ++ [';']) ++ behind by simp,
      decodeReferences_append plain, decodeReferences_eq_self single]
    simp
  rw [together, first, second]
  simp only [List.length_append, List.length_cons]
  omega

/-! ## Escaped text -/

/-- An escaped character decodes to itself, whatever stands behind it. -/
theorem decodeReferences_escapeChar (c : Char) (rest : Text) :
    decodeReferences (escapeChar c ++ rest) = c :: decodeReferences rest := by
  unfold escapeChar
  split_ifs with amp lt gt quot apos
  · subst amp
    have valid : reference? ['a', 'm', 'p'] = some '&' := by decide
    exact decodeReferences_reference valid (by decide) rest
  · subst lt
    have valid : reference? ['l', 't'] = some '<' := by decide
    exact decodeReferences_reference valid (by decide) rest
  · subst gt
    have valid : reference? ['g', 't'] = some '>' := by decide
    exact decodeReferences_reference valid (by decide) rest
  · subst quot
    have valid : reference? ['q', 'u', 'o', 't'] = some '\"' := by decide
    exact decodeReferences_reference valid (by decide) rest
  · subst apos
    have valid : reference? ['#', 'x', '2', '7'] = some '\'' := by decide
    exact decodeReferences_reference valid (by decide) rest
  · exact decodeReferences_cons amp rest

/-- Escaped text decodes to what was escaped. -/
theorem decodeReferences_escape (text : Text) : decodeReferences (escape text) = text := by
  induction text with
  | nil => simp
  | cons c rest inductionHypothesis =>
    rw [escape_cons, decodeReferences_escapeChar, inductionHypothesis]

/-- Every character is written as something. -/
theorem escape_eq_nil_iff {text : Text} : escape text = [] ↔ text = [] := by
  cases text with
  | nil => simp
  | cons c rest =>
    have visible : escapeChar c ≠ [] := by
      unfold escapeChar
      split_ifs <;> simp
    simp [visible]

/-- Escaped text holds no character that can end it. -/
theorem not_mem_escape {mark : Char} (special : mark ∈ ['<', '>', '\"', '\''])
    (text : Text) : mark ∉ escape text := by
  intro member
  obtain ⟨c, _, within⟩ := List.mem_flatMap.mp member
  simp only [List.mem_cons, List.not_mem_nil, or_false] at special
  unfold escapeChar at within
  split_ifs at within with amp lt gt quot apos
  all_goals rcases special with rfl | rfl | rfl | rfl
  all_goals first
    | exact absurd within (by decide)
    | exact absurd (List.mem_singleton.mp within).symm (by assumption)

end Markup

end HtmlTemplate
