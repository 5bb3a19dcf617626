import HtmlTemplate.Format.Spec
import HtmlTemplate.Proofs.Numerals
import HtmlTemplate.Proofs.Texts

/-!
# Specifiers are read back

A specifier is written field by field, with its sign always there (`writtenForm`). Every field is
read from the front of what is left, so it is read back if nothing behind it can be taken for a
part of it; what stands behind it decides by its first character alone (`Opens`). The sign keeps
fill and alignment apart from the rest, and what the other fields begin with keeps them apart from
each other, unless the presentation letter is one of their characters (`Writable`).

`parse_writtenForm` reads back every such specifier whose width and precision are within the limit.
-/

namespace HtmlTemplate.Format.Spec

open Decimal

/-! ## Specifiers as they are written -/

/-- The fill and the alignment, if an alignment is asked for. -/
def writtenAlign (spec : Spec) : Text :=
  match spec.align with
  | some align => [spec.fill, align.char]
  | none => []

/-- A flag, if it is set. -/
def writtenFlag (mark : Char) (set : Bool) : Text :=
  if set then [mark] else []

/-- The width of a specifier as it is written, if there is one. -/
def writtenWidth : Option Nat → Text
  | some width => natural width
  | none => []

/-- The precision of a specifier as it is written, if there is one. -/
def writtenPrecision : Option Nat → Text
  | some precision => '.' :: natural precision
  | none => []

/-- A specifier with all of its fields. -/
def writtenForm (spec : Spec) : Text :=
  writtenAlign spec ++ [spec.sign.char] ++ writtenFlag '#' spec.alternate ++
    writtenFlag '0' spec.zero ++ writtenWidth spec.width ++ spec.grouping.toList ++
    writtenPrecision spec.precision ++ spec.kind.toList

/-- Whether a character can be a presentation letter: it is no part of another field. -/
def IsKind (c : Char) : Prop :=
  Text.isAsciiDigit c = false ∧ c ∉ ['<', '>', '^', '=', '#', ',', '_', '.']

/-- The specifiers that have a written form of their own. -/
structure Writable (spec : Spec) : Prop where
  /-- A fill is written together with an alignment only. -/
  fill : spec.align = none → spec.fill = ' '
  /-- A zero that stands alone is the flag. -/
  width : spec.width = some 0 → spec.zero = true
  grouping : ∀ c ∈ spec.grouping, c = ',' ∨ c = '_'
  kind : ∀ c ∈ spec.kind, IsKind c

/-! ## What a text begins with -/

/-- Whether a text is empty or begins with a character of a certain sort. -/
def Opens (sort : Char → Prop) (text : Text) : Prop :=
  ∀ c ∈ text.head?, sort c

section

variable {sort : Char → Prop} {spec : Spec}

/-- Two texts that open with a sort of character do so together. -/
theorem Opens.append {front rest : Text} (first : Opens sort front) (behind : Opens sort rest) :
    Opens sort (front ++ rest) := by
  cases front with
  | nil => exact behind
  | cons c front => exact first

/-- A flag opens with its own mark. -/
theorem opens_flag (mark : Char) (set : Bool) (marked : sort mark) :
    Opens sort (writtenFlag mark set) := by
  cases set <;> simp [Opens, writtenFlag, marked]

/-- Characters of no other field are unlike the marks of any field. -/
theorem IsKind.not_mem {c : Char} (kind : IsKind c) {marks : List Char}
    (known : marks ⊆ ['<', '>', '^', '=', '#', ',', '_', '.']) : c ∉ marks :=
  fun member => kind.2 (known member)

/-- A digit is none of some marks that are no digits. -/
theorem not_mem_of_isAsciiDigit {marks : List Char}
    (foreign : ∀ mark ∈ marks, Text.isAsciiDigit mark = false) :
    ∀ c, Text.isAsciiDigit c = true → c ∉ marks := by
  intro c digit member
  rw [foreign c member] at digit
  cases digit

/-- A width opens with a digit. -/
theorem opens_width (digit : ∀ c, Text.isAsciiDigit c = true → sort c) (width : Option Nat) :
    Opens sort (writtenWidth width) := by
  cases width with
  | none => simp [Opens, writtenWidth]
  | some n =>
    intro c first
    exact digit c (isAsciiDigit_of_mem_natural n c (List.mem_of_mem_head? first))

/-- Only the number zero is written with a zero in front. -/
theorem opens_width_nonzero {width : Option Nat} (nonzero : width ≠ some 0) :
    Opens (· ∉ ['0']) (writtenWidth width) := by
  cases width with
  | none => simp [Opens, writtenWidth]
  | some n =>
    have positive : n ≠ 0 := by
      rintro rfl
      exact nonzero rfl
    intro c first
    simpa using ne_zero_of_mem_head?_natural positive c first

/-- The kind of a specifier opens with its own character. -/
theorem Writable.opens_kind (writable : Writable spec) (kind : ∀ c, IsKind c → sort c) :
    Opens sort spec.kind.toList := by
  intro c first
  have written : c ∈ spec.kind := Option.mem_toList.mp (List.mem_of_mem_head? first)
  exact kind c (writable.kind c written)

/-- From its precision on, a specifier opens with a point or its kind. -/
theorem Writable.opens_precision (writable : Writable spec) (point : sort '.')
    (kind : ∀ c, IsKind c → sort c) :
    Opens sort (writtenPrecision spec.precision ++ spec.kind.toList) := by
  refine Opens.append ?_ (writable.opens_kind kind)
  cases spec.precision <;> simp [Opens, writtenPrecision, point]

/-- From its grouping on, a specifier opens with a sign of grouping, a point or its kind. -/
theorem Writable.opens_grouping (writable : Writable spec) (comma : sort ',')
    (underscore : sort '_') (point : sort '.') (kind : ∀ c, IsKind c → sort c) :
    Opens sort
      (spec.grouping.toList ++ (writtenPrecision spec.precision ++ spec.kind.toList)) := by
  refine Opens.append ?_ (writable.opens_precision point kind)
  intro c first
  have written : c ∈ spec.grouping := Option.mem_toList.mp (List.mem_of_mem_head? first)
  rcases writable.grouping c written with rfl | rfl
  · exact comma
  · exact underscore

/-- Without the flag of zeros, no zero follows in its place. -/
theorem Writable.opens_nonzero (writable : Writable spec) (unset : spec.zero = false) :
    Opens (· ∉ ['0'])
      (writtenWidth spec.width ++ (spec.grouping.toList ++
        (writtenPrecision spec.precision ++ spec.kind.toList))) := by
  have nonzero : spec.width ≠ some 0 := fun alone => absurd (writable.width alone) (by simp [unset])
  have kind : ∀ c, IsKind c → c ∉ ['0'] := by
    intro c kind same
    rw [List.mem_singleton.mp same] at kind
    exact absurd kind.1 (by decide)
  exact (opens_width_nonzero nonzero).append
    (writable.opens_grouping (by decide) (by decide) (by decide) kind)

/-- Behind the sign and the flag of the base, nothing begins with a mark of those. -/
theorem Writable.opens_zero (writable : Writable spec) (marks : List Char)
    (known : marks ⊆ ['<', '>', '^', '=', '#']) :
    Opens (· ∉ marks)
      (writtenFlag '0' spec.zero ++ (writtenWidth spec.width ++ (spec.grouping.toList ++
        (writtenPrecision spec.precision ++ spec.kind.toList)))) := by
  have unlike {c : Char} (other : c ∉ ['<', '>', '^', '=', '#']) : c ∉ marks :=
    fun member => other (known member)
  have kind : ∀ c, IsKind c → c ∉ marks := fun c kind => unlike (kind.not_mem (by simp))
  have grouping := writable.opens_grouping (unlike (by decide)) (unlike (by decide))
    (unlike (by decide)) kind
  have digit : ∀ c, Text.isAsciiDigit c = true → c ∉ marks :=
    fun c digit => unlike (not_mem_of_isAsciiDigit (by simp [Text.isAsciiDigit]) c digit)
  have width := opens_width digit spec.width
  exact (opens_flag '0' spec.zero (unlike (by decide))).append (width.append grouping)

end

/-! ## Fields that are read back -/

/-- Each alignment is read back from its character. -/
theorem ofChar?_char (align : Align) : Align.ofChar? align.char = some align := by
  cases align <;> rfl

/-- No sign is an alignment. -/
theorem ofChar?_sign (sign : Sign) : Align.ofChar? sign.char = none := by
  cases sign <;> rfl

/-- Any but the four characters is no alignment. -/
theorem ofChar?_eq_none {c : Char} (other : c ∉ ['<', '>', '^', '=']) :
    Align.ofChar? c = none := by
  unfold Align.ofChar?
  split <;> simp_all

/-- The fill and the alignment are taken in front of the sign. -/
theorem takeAlign_written {spec : Spec} (fill : spec.align = none → spec.fill = ' ') {rest : Text}
    (behind : Opens (· ∉ ['<', '>', '^', '=']) rest) :
    takeAlign (writtenAlign spec ++ spec.sign.char :: rest) =
      ((spec.fill, spec.align), spec.sign.char :: rest) := by
  cases asked : spec.align with
  | some align => simp [writtenAlign, asked, takeAlign, ofChar?_char]
  | none =>
    rw [fill asked]
    cases rest with
    | nil => simp [writtenAlign, asked, takeAlign, ofChar?_sign]
    | cons c rest =>
      have apart : Align.ofChar? c = none := ofChar?_eq_none (behind c rfl)
      simp [writtenAlign, asked, takeAlign, apart, ofChar?_sign]

/-- Each sign is read back from its character. -/
theorem takeSign_char (sign : Sign) (rest : Text) :
    takeSign (sign.char :: rest) = (sign, rest) := by
  cases sign <;> rfl

/-- A flag is read back, if none can be meant by what comes behind. -/
theorem takeFlag_written {mark : Char} {set : Bool} {rest : Text}
    (behind : set = false → Opens (· ∉ [mark]) rest) :
    takeFlag mark (writtenFlag mark set ++ rest) = (set, rest) := by
  cases set with
  | true => simp [writtenFlag, takeFlag]
  | false =>
    cases rest with
    | nil => rfl
    | cons c rest =>
      have apart : c ≠ mark := List.ne_of_not_mem_cons (behind rfl c rfl)
      simp [writtenFlag, takeFlag, apart]

/-- The digits in front of a text that begins with none are taken as the number they stand for. -/
theorem takeNumber_append {digits rest : Text}
    (decimal : ∀ c ∈ digits, Text.isAsciiDigit c = true)
    (behind : Opens (fun c => Text.isAsciiDigit c = false) rest) :
    takeNumber (digits ++ rest) = (Text.toNat? 10 digits, rest) := by
  cases rest with
  | nil =>
    have all := List.takeWhile_eq_self_iff.mpr decimal
    have none := List.dropWhile_eq_nil_iff.mpr decimal
    simp [takeNumber, all, none]
  | cons c rest =>
    have ended : Text.isAsciiDigit c = false := behind c rfl
    rw [takeNumber, Text.takeWhile_append_cons decimal ended,
      Text.dropWhile_append_cons decimal ended]

/-- A width is read back, if no digit comes behind it. -/
theorem takeNumber_written (width : Option Nat) {rest : Text}
    (behind : Opens (fun c => Text.isAsciiDigit c = false) rest) :
    takeNumber (writtenWidth width ++ rest) = (width, rest) := by
  cases width with
  | none => exact takeNumber_append (by simp [writtenWidth]) behind
  | some n =>
    have read : Text.toNat? 10 (natural n) = some n := toNat?_numeral (by decide) (by decide) n
    rw [writtenWidth, takeNumber_append (isAsciiDigit_of_mem_natural n) behind, read]

/-- A grouping is read back, if none can be meant by what comes behind. -/
theorem takeGrouping_written {grouping : Option Char} (known : ∀ c ∈ grouping, c = ',' ∨ c = '_')
    {rest : Text} (behind : Opens (· ∉ [',', '_']) rest) :
    takeGrouping (grouping.toList ++ rest) = (grouping, rest) := by
  cases grouping with
  | some separator => rcases known separator rfl with rfl | rfl <;> rfl
  | none =>
    cases rest with
    | nil => rfl
    | cons c rest =>
      have apart : c ∉ [',', '_'] := behind c rfl
      simp only [Option.toList_none, List.nil_append, takeGrouping]
      split <;> simp_all

/-- Only two characters are taken as a separator of groups. -/
theorem mem_takeGrouping (text : Text) : ∀ c ∈ (takeGrouping text).1, c = ',' ∨ c = '_' := by
  unfold takeGrouping
  split <;> simp

/-- A precision is read back, or refused if it exceeds the limit. -/
theorem takePrecision_written (precision : Option Nat) {rest : Text}
    (ended : Opens (fun c => Text.isAsciiDigit c = false) rest) (behind : Opens (· ∉ ['.']) rest) :
    takePrecision (writtenPrecision precision ++ rest) =
      if widthLimit < precision.getD 0 then .error .precisionTooLarge
      else .ok (precision, rest) := by
  cases precision with
  | some n =>
    have read := takeNumber_written (some n) ended
    rw [writtenWidth] at read
    simp only [writtenPrecision, List.cons_append, takePrecision, read, Option.getD_some]
  | none =>
    cases rest with
    | nil => rfl
    | cons c rest =>
      have apart : c ∉ ['.'] := behind c rfl
      simp only [writtenPrecision, List.nil_append, takePrecision]
      split <;> simp_all

/-! ## Whole specifiers -/

/-- What is written for a specifier is read as it, unless a number in it exceeds the limit. -/
theorem read_writtenForm {spec : Spec} (writable : Writable spec) :
    read spec.writtenForm =
      if widthLimit < spec.width.getD 0 then .error .widthTooLarge
      else if widthLimit < spec.precision.getD 0 then .error .precisionTooLarge
      else .ok spec := by
  have precision := takePrecision_written spec.precision (writable.opens_kind fun _ kind => kind.1)
    (writable.opens_kind fun _ kind => kind.not_mem (by simp))
  have grouping := takeGrouping_written writable.grouping
    (writable.opens_precision (by decide) fun _ kind => kind.not_mem (by simp))
  have width := takeNumber_written spec.width
    (writable.opens_grouping (by decide) (by decide) (by decide) fun _ kind => kind.1)
  have zero := takeFlag_written fun unset => writable.opens_nonzero unset
  have alternate := takeFlag_written fun (_ : spec.alternate = false) =>
    writable.opens_zero ['#'] (by simp)
  have align := takeAlign_written writable.fill
    ((opens_flag '#' spec.alternate (by decide)).append (writable.opens_zero _ (by simp)))
  simp only [read, writtenForm, List.append_assoc, List.cons_append, List.nil_append, align,
    takeSign_char, alternate, zero, width, grouping, precision]
  by_cases wide : widthLimit < spec.width.getD 0
  · simp only [if_pos wide]
  · by_cases precise : widthLimit < spec.precision.getD 0
    · simp only [if_neg wide, if_pos precise]
    · simp only [if_neg wide, if_neg precise]
      rcases spec with ⟨_, _, _, _, _, _, _, _, _ | _⟩ <;> rfl

/-- The separator of a specifier that is parsed is a comma or an underscore. -/
theorem grouping_of_parse {text : Text} {spec : Spec} (parsed : parse text = .ok spec) :
    ∀ c ∈ spec.grouping, c = ',' ∨ c = '_' := by
  have taken : ∃ rest, spec.grouping = (takeGrouping rest).1 := by
    cases result : read text with
    | error fault => simp [parse, result] at parsed
    | ok found =>
      simp only [parse, result, Except.ok.injEq] at parsed
      subst parsed
      simp only [read] at result
      split at result
      · cases result
      · split at result
        · cases result
        · split at result <;> cases result <;> exact ⟨_, rfl⟩
  obtain ⟨rest, same⟩ := taken
  rw [same]
  exact mem_takeGrouping rest

/-- What is written for a specifier is parsed to it if its width and its precision are within the
limit. If one of them is not, it is refused, and the error names all that was written. -/
theorem parse_writtenForm {spec : Spec} (writable : Writable spec) :
    (spec.width.getD 0 ≤ 10000 → spec.precision.getD 0 ≤ 10000 →
        parse spec.writtenForm = .ok spec) ∧
      (10000 < spec.width.getD 0 →
        parse spec.writtenForm = .error (.invalidSpec spec.writtenForm .widthTooLarge)) ∧
      (spec.width.getD 0 ≤ 10000 → 10000 < spec.precision.getD 0 →
        parse spec.writtenForm = .error (.invalidSpec spec.writtenForm .precisionTooLarge)) := by
  have limit : widthLimit = 10000 := rfl
  simp only [parse, read_writtenForm writable, limit]
  refine ⟨fun narrow coarse => ?_, fun wide => ?_, fun narrow precise => ?_⟩
  · rw [if_neg (Nat.not_lt_of_le narrow), if_neg (Nat.not_lt_of_le coarse)]
  · rw [if_pos wide]
  · rw [if_neg (Nat.not_lt_of_le narrow), if_pos precise]

/-- The fill is a zero, and so are the flag and the width behind it; the presentation letter is a
sign. Only what exceeds the limit is refused. -/
theorem parse_writtenForm_zeros :
    let spec : Spec := { fill := '0', align := some .afterSign, sign := .space, alternate := true,
                         zero := true, width := some 0, grouping := some ',',
                         precision := some 10000, kind := some '+' }
    let wide : Spec := { spec with width := some 10001 }
    let precise : Spec := { spec with precision := some 10001 }
    (Writable spec ∧ spec.writtenForm = "0= #00,.10000+".toList ∧
        parse spec.writtenForm = .ok spec) ∧
      (Writable wide ∧ wide.writtenForm = "0= #010001,.10000+".toList ∧
        parse wide.writtenForm = .error (.invalidSpec wide.writtenForm .widthTooLarge)) ∧
      Writable precise ∧ precise.writtenForm = "0= #00,.10001+".toList ∧
        parse precise.writtenForm =
          .error (.invalidSpec precise.writtenForm .precisionTooLarge) := by
  intro spec wide precise
  have kind : IsKind '+' := by
    unfold IsKind
    decide
  have writable : Writable spec := ⟨by simp [spec], by simp [spec], by simp [spec], by simpa [spec]⟩
  have writableWide : Writable wide :=
    ⟨by simp [wide, spec], by simp [wide, spec], by simp [wide, spec], by simpa [wide, spec]⟩
  have writablePrecise : Writable precise :=
    ⟨by simp [precise, spec], by simp [precise, spec], by simp [precise, spec],
      by simpa [precise, spec]⟩
  refine ⟨⟨writable, by decide +kernel, ?_⟩, ⟨writableWide, by decide +kernel, ?_⟩,
    writablePrecise, by decide +kernel, ?_⟩
  · exact (parse_writtenForm writable).1 (by decide) (by decide)
  · exact (parse_writtenForm writableWide).2.1 (by decide)
  · exact (parse_writtenForm writablePrecise).2.2 (by decide) (by decide)

end HtmlTemplate.Format.Spec
