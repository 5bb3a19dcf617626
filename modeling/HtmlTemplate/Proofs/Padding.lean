import HtmlTemplate.Format.Apply
import Mathlib.Tactic.Common

/-!
# Padding only adds filling

A text, an integer or a truth value is laid out in two parts, a lead (the sign and the
announcement of the base, for digits) and a body, and neither depends on the width
(`layOut_cases`). The width only decides how many filling characters are added, and the alignment
in force where they are added: in front, behind, on both sides, or between the two parts
(`Filled`). `formatValue_padded` compares what a specifier gives with what it gives without its
width.
-/

namespace HtmlTemplate.Format

/-! ## Filled texts -/

/-- A lead and a body with a number of filling characters where an alignment puts them. -/
inductive Filled (fill : Char) (count : Nat) (lead body : Text) : Align → Text → Prop where
  | left : Filled fill count lead body .left (lead ++ body ++ List.replicate count fill)
  | right : Filled fill count lead body .right (List.replicate count fill ++ (lead ++ body))
  /-- On both sides, with the smaller half in front if there are two. -/
  | center {before after : Nat} (all : before + after = count) (ordered : before ≤ after)
      (even : after ≤ before + 1) :
      Filled fill count lead body .center
        (List.replicate before fill ++ (lead ++ body) ++ List.replicate after fill)
  | afterSign : Filled fill count lead body .afterSign (lead ++ List.replicate count fill ++ body)

theorem Filled.length {fill : Char} {count : Nat} {lead body out : Text} {align : Align}
    (filled : Filled fill count lead body align out) :
    out.length = (lead ++ body).length + count := by
  cases filled <;> simp only [List.length_append, List.length_replicate] <;> omega

namespace Spec

/-- The fill in force: a zero if the zero flag is set and no alignment is given. -/
def fillInForce (spec : Spec) : Char :=
  if spec.align = none ∧ spec.zero = true then '0' else spec.fill

/-- The alignment in force: the one that is given, else the one of the zero flag, else the usual
one. -/
def alignInForce (spec : Spec) (usual : Align) : Align :=
  spec.align.getD (if spec.zero then .afterSign else usual)

theorem filling_eq (spec : Spec) (usual : Align) :
    spec.filling usual = (spec.fillInForce, spec.alignInForce usual) := by
  cases given : spec.align with
  | some align => simp [filling, fillInForce, alignInForce, given]
  | none =>
    cases flag : spec.zero <;> simp [filling, fillInForce, alignInForce, given, flag]

theorem filled_place (fill : Char) (align : Align) (missing : Nat) (lead body : Text) :
    Filled fill missing lead body align (place fill align missing lead body) := by
  cases align with
  | left => exact .left
  | right =>
    rw [place, List.append_assoc]
    exact .right
  | center =>
    rw [place, List.append_assoc (List.replicate _ fill)]
    exact .center (by omega) (by omega) (by omega)
  | afterSign => exact .afterSign

/-- What is padded is filled up to the width. -/
theorem filled_pad (spec : Spec) (lead body : Text) (usual : Align) :
    Filled spec.fillInForce (spec.width.getD 0 - (lead ++ body).length) lead body
      (spec.alignInForce usual) (spec.pad lead body usual) := by
  rw [pad, filling_eq, List.length_append]
  exact filled_place _ _ _ lead body

theorem place_zero (fill : Char) (align : Align) (lead body : Text) :
    place fill align 0 lead body = lead ++ body := by
  cases align <;> simp [place]

/-- Without a width nothing is added. -/
theorem pad_of_width_eq_none {spec : Spec} (absent : spec.width = none) (lead body : Text)
    (usual : Align) : spec.pad lead body usual = lead ++ body := by
  simp [pad, absent, place_zero]

/-- Without a width, or with the zero flag in force, only zeros are added, behind the lead. -/
theorem pad_zeros {spec : Spec} (zeros : spec.width = none ∨ spec.zero = true ∧ spec.align = none)
    (lead body : Text) (usual : Align) :
    ∃ count, (spec.width = none → count = 0) ∧
      spec.pad lead body usual = lead ++ (List.replicate count '0' ++ body) := by
  rcases zeros with absent | ⟨flag, free⟩
  · exact ⟨0, fun _ => rfl, pad_of_width_eq_none absent lead body usual⟩
  · refine ⟨spec.width.getD 0 - (lead.length + body.length), fun absent => ?_, ?_⟩
    · simp [absent]
    · simp [pad, filling, free, flag, place]

end Spec

/-! ## Texts -/

/-- A text cut to the precision. -/
def textBody (text : Text) (spec : Spec) : Text :=
  match spec.precision with
  | some length => text.take length
  | none => text

/-- A text is cut and padded, or it is refused, whatever the width. -/
theorem formatText_cases (text : Text) (spec : Spec) :
    (∃ error, ∀ width, formatText text { spec with width } = .error error) ∨
      ∀ width, formatText text { spec with width } =
        .ok (Spec.pad { spec with width } [] (textBody text spec) .left) := by
  by_cases shown : spec.kind = none ∨ spec.kind = some 's'
  · refine .inr fun width => ?_
    rcases shown with absent | asked
    · simp only [formatText, absent]
      rfl
    · simp only [formatText, asked]
      rfl
  · obtain ⟨absent, other⟩ := not_or.mp shown
    obtain ⟨code, asked⟩ := Option.ne_none_iff_exists'.mp absent
    refine .inl ⟨.unknownCode code "str", fun width => ?_⟩
    simp only [formatText]
    split
    · exact absurd ‹_› absent
    · exact absurd ‹_› other
    · rename_i unknown
      rw [asked] at unknown
      rw [Option.some.inj unknown]

/-! ## Integers -/

/-- The presentations of integers: the letter that asks for one, its base, and the text that
announces the base. -/
def presentations : List (Option Char × Nat × Text) :=
  [(none, 10, []), (some 'd', 10, []), (some 'n', 10, []), (some 'b', 2, ['0', 'b']),
    (some 'o', 8, ['0', 'o']), (some 'x', 16, ['0', 'x']), (some 'X', 16, ['0', 'X'])]

/-- The number of digits in a group. -/
def groupSize (base : Nat) : Nat :=
  if base = 10 then 3 else 4

theorem integerBase?_eq_some_iff {kind : Option Char} {base size : Nat} {announced : Text} :
    integerBase? (kind.getD 'd') = some (base, announced, size) ↔
      (kind, base, announced) ∈ presentations ∧ size = groupSize base := by
  constructor
  · intro known
    have listed {letter : Char} (known : integerBase? letter = some (base, announced, size)) :
        (some letter, base, announced) ∈ presentations ∧ size = groupSize base := by
      unfold integerBase? at known
      split at known <;> cases known <;> decide
    cases kind with
    | none =>
      cases known
      decide
    | some letter => exact listed known
  · rintro ⟨presented, rfl⟩
    simp only [presentations, List.mem_cons, Prod.mk.injEq, List.not_mem_nil, or_false] at presented
    rcases presented with ⟨rfl, rfl, rfl⟩ | ⟨rfl, rfl, rfl⟩ | ⟨rfl, rfl, rfl⟩ | ⟨rfl, rfl, rfl⟩ |
      ⟨rfl, rfl, rfl⟩ | ⟨rfl, rfl, rfl⟩ | ⟨rfl, rfl, rfl⟩ <;> rfl

/-- What stands in front of the digits of an integer. -/
def integerLead (n : Int) (spec : Spec) (announced : Text) : Text :=
  signText (n < 0) spec.sign ++ if spec.alternate then announced else []

/-- The digits of an integer in a base, in groups if that is asked for. -/
def integerBody (n : Int) (spec : Spec) (base : Nat) : Text :=
  grouped spec (groupSize base) (integerDigits (spec.kind.getD 'd') base n.natAbs)

/-- An integer in a presentation is padded, behind its sign and the announcement of its base. -/
theorem formatInt_of_presentation {n : Int} {spec : Spec} {base : Nat} {announced : Text}
    (exact : spec.precision = none) (presented : (spec.kind, base, announced) ∈ presentations) :
    formatInt n spec =
      .ok (spec.pad (integerLead n spec announced) (integerBody n spec base) .right) := by
  have known := integerBase?_eq_some_iff.mpr ⟨presented, rfl⟩
  have letter : isFloatKind (spec.kind.getD 'd') = false ∧ spec.kind.getD 'd' ≠ 'c' := by
    have all : ∀ presentation ∈ presentations,
        isFloatKind (presentation.1.getD 'd') = false ∧ presentation.1.getD 'd' ≠ 'c' := by decide
    exact all _ presented
  simp [formatInt, letter, exact, known, integerLead, integerBody]

/-- An integer that is not shown as a floating-point number is a character, or it is in one of the
presentations, or it is refused, whatever the width. -/
theorem formatInt_cases (n : Int) {spec : Spec}
    (integral : ∀ kind ∈ spec.kind, kind ∉ ['e', 'E', 'f', 'F', 'g', 'G', '%']) :
    (∃ error, ∀ width, formatInt n { spec with width } = .error error) ∨
      (spec.kind = some 'c' ∧ ∃ c, ∀ width, formatInt n { spec with width } =
        .ok (Spec.pad { spec with width } [] [c] .left)) ∨
      spec.precision = none ∧ ∃ base announced, (spec.kind, base, announced) ∈ presentations := by
  have whole : isFloatKind (spec.kind.getD 'd') = false := by
    cases asked : spec.kind with
    | none => rfl
    | some kind => simpa [isFloatKind] using integral kind asked
  cases exact : spec.precision with
  | some precision =>
    exact .inl ⟨.integerPrecision, fun width => by simp [formatInt, whole]⟩
  | none =>
    by_cases character : spec.kind.getD 'd' = 'c'
    · have asked : spec.kind = some 'c' := by
        cases given : spec.kind with
        | none => simp [given] at character
        | some kind => simpa [given] using character
      rw [character] at whole
      cases code : charOfCode? n with
      | some c =>
        refine .inr (.inl ⟨asked, c, fun width => ?_⟩)
        simp [formatInt, whole, character, code]
      | none =>
        refine .inl ⟨.invalidSpec ['c'] (.notACharacter n), fun width => ?_⟩
        simp [formatInt, whole, character, code]
    · cases known : integerBase? (spec.kind.getD 'd') with
      | some presentation =>
        obtain ⟨base, announced, size⟩ := presentation
        exact .inr (.inr ⟨rfl, base, announced, (integerBase?_eq_some_iff.mp known).1⟩)
      | none =>
        refine .inl ⟨.unknownCode (spec.kind.getD 'd') "int", fun width => ?_⟩
        simp [formatInt, whole, character, known]

/-! ## Values -/

/-- What stands in front when a value is filled up behind its sign, and the alignment that is
usual for the value. -/
inductive Leads (spec : Spec) : Value → Text → Align → Prop where
  /-- A text has no sign and stands on the left. -/
  | text (text : Text) : Leads spec (.text text) [] .left
  /-- So does a character that an integer is the number of. -/
  | character (n : Int) (asked : spec.kind = some 'c') : Leads spec (.int n) [] .left
  /-- Digits stand on the right, behind the sign and the announcement of the base. -/
  | digits (n : Int) {base : Nat} {announced : Text}
      (presented : (spec.kind, base, announced) ∈ presentations) :
      Leads spec (.int n) (integerLead n spec announced) .right
  /-- A truth value is the number one or zero. -/
  | bool {value : Bool} {lead : Text} {usual : Align}
      (number : Leads spec (.int (if value then 1 else 0)) lead usual) :
      Leads spec (.bool value) lead usual

/-- The values that are laid out as texts and integers. -/
inductive IsPlain : Value → Prop where
  | bool (value : Bool) : IsPlain (.bool value)
  | int (n : Int) : IsPlain (.int n)
  | text (text : Text) : IsPlain (.text text)

/-- A value is refused, or its lead and its body are padded, and the width has no part in which
of it, nor in the error, the lead and the body. -/
theorem layOut_cases {value : Value} {spec : Spec} (plain : IsPlain value)
    (integral : ∀ kind ∈ spec.kind, kind ∉ ['e', 'E', 'f', 'F', 'g', 'G', '%']) :
    (∃ error, ∀ width, layOut value { spec with width } = .error error) ∨
      ∃ lead body usual, Leads spec value lead usual ∧
        ∀ width, layOut value { spec with width } =
          .ok (Spec.pad { spec with width } lead body usual) := by
  have integer (n : Int) :
      (∃ error, ∀ width, formatInt n { spec with width } = .error error) ∨
        ∃ lead body usual, Leads spec (.int n) lead usual ∧
          ∀ width, formatInt n { spec with width } =
            .ok (Spec.pad { spec with width } lead body usual) := by
    rcases formatInt_cases n integral with refused | ⟨asked, c, shown⟩ |
      ⟨exact, base, announced, presented⟩
    · exact .inl refused
    · exact .inr ⟨[], [c], .left, .character n asked, shown⟩
    · have shown (width : Option Nat) : formatInt n { spec with width } =
          .ok (Spec.pad { spec with width } (integerLead n spec announced)
            (integerBody n spec base) .right) :=
        formatInt_of_presentation exact presented
      exact .inr ⟨_, integerBody n spec base, .right, .digits n presented, shown⟩
  cases plain with
  | bool value =>
    rcases integer (if value then 1 else 0) with refused | ⟨lead, body, usual, leads, shown⟩
    · exact .inl refused
    · exact .inr ⟨lead, body, usual, .bool leads, shown⟩
  | int n => exact integer n
  | text text =>
    rcases formatText_cases text spec with refused | shown
    · exact .inl refused
    · exact .inr ⟨[], textBody text spec, .left, .text text, shown⟩

theorem formatValue_of_parse {value : Value} {text : Text} {spec : Spec} (nonempty : text ≠ [])
    (parsed : Spec.parse text = .ok spec) :
    formatValue value none (some text) = layOut value spec := by
  cases text with
  | nil => exact absurd rfl nonempty
  | cons c rest => simp only [formatValue, convert, Option.getD_some, parsed, Except.bind]

/-- A value that is laid out as a text or as an integer is refused with a width where it is
refused without one. Otherwise the width is reached by filling characters alone, which stand
where the alignment in force puts them. -/
theorem formatValue_padded {value : Value} {text : Text} {spec : Spec} (plain : IsPlain value)
    (nonempty : text ≠ []) (parsed : Spec.parse text = .ok spec)
    (integral : ∀ kind ∈ spec.kind, kind ∉ ['e', 'E', 'f', 'F', 'g', 'G', '%']) :
    (∃ error, layOut value { spec with width := none } = .error error ∧
        formatValue value none (some text) = .error error) ∨
      ∃ lead body usual out, Leads spec value lead usual ∧
        layOut value { spec with width := none } = .ok (lead ++ body) ∧
        formatValue value none (some text) = .ok out ∧
        out.length = max (spec.width.getD 0) (lead ++ body).length ∧
        Filled spec.fillInForce (out.length - (lead ++ body).length) lead body
          (spec.alignInForce usual) out := by
  rw [formatValue_of_parse nonempty parsed]
  rcases layOut_cases plain integral with ⟨error, refused⟩ | ⟨lead, body, usual, leads, padded⟩
  · exact .inl ⟨error, refused none, refused spec.width⟩
  · have filled := spec.filled_pad lead body usual
    have unpadded := padded none
    rw [Spec.pad_of_width_eq_none rfl] at unpadded
    have length := filled.length
    have missing : (spec.pad lead body usual).length - (lead ++ body).length =
        spec.width.getD 0 - (lead ++ body).length := by omega
    refine .inr ⟨lead, body, usual, spec.pad lead body usual, leads, unpadded,
      padded spec.width, by omega, ?_⟩
    rw [missing]
    exact filled

/-- Five characters are missing, and each of them takes three bytes. -/
theorem formatValue_padded_center :
    let text := "€^#10x".toList
    let spec : Spec := { fill := '€', align := some .center, alternate := true, width := some 10,
                         kind := some 'x' }
    let shown := "-0xff".toList
    let out := "€€-0xff€€€".toList
    IsPlain (.int (-255)) ∧ text ≠ [] ∧ Spec.parse text = .ok spec ∧
      (∀ kind ∈ spec.kind, kind ∉ ['e', 'E', 'f', 'F', 'g', 'G', '%']) ∧
      layOut (.int (-255)) { spec with width := none } = .ok shown ∧
      formatValue (.int (-255)) none (some text) = .ok out ∧ out.length = max 10 shown.length ∧
      ∃ lead body usual, Leads spec (.int (-255)) lead usual ∧ lead ++ body = shown ∧
        Filled '€' 5 lead body .center out := by
  intro text spec shown out
  have plain : IsPlain (.int (-255)) := .int (-255)
  have nonempty : text ≠ [] := by decide
  have parsed : Spec.parse text = .ok spec := by decide
  have integral : ∀ kind ∈ spec.kind, kind ∉ ['e', 'E', 'f', 'F', 'g', 'G', '%'] := by
    simp [spec]
  have unpadded : layOut (.int (-255)) { spec with width := none } = .ok shown := by
    decide +kernel
  have padded : formatValue (.int (-255)) none (some text) = .ok out := by decide +kernel
  refine ⟨plain, nonempty, parsed, integral, unpadded, padded, by decide, ?_⟩
  rcases formatValue_padded plain nonempty parsed integral with ⟨error, refused, _⟩ |
    ⟨lead, body, usual, filled, leads, parts, result, length, fills⟩
  · rw [unpadded] at refused
    cases refused
  · rw [unpadded] at parts
    rw [padded] at result
    obtain rfl := Except.ok.inj result
    rw [← Except.ok.inj parts] at fills
    exact ⟨lead, body, usual, leads, (Except.ok.inj parts).symm, fills⟩

end HtmlTemplate.Format
