import HtmlTemplate.Proofs.Numerals
import HtmlTemplate.Template.Chunk

/-!
# Escapes in literal text

What can stand behind a backslash, and what it stands for, is said by a grammar (`Denotes`), and
so is what a whole text with escapes decodes to (`Written`). Decoding follows it
(`decode_eq_ok_iff`), and where it fails, it does so at the first backslash behind which no escape
stands (`decode_eq_error_iff`).

Only an octal escape has no fixed width. So a text can be decoded piece by piece, unless an octal
escape at the end of one piece takes digits from the next (`Written.append`).
-/

namespace HtmlTemplate.Escape

open Decimal

/-! ## Octal digits -/

/-- Whether a character is an octal digit. -/
def IsOctal (c : Char) : Prop :=
  '0' ≤ c ∧ c ≤ '7'

/-- Whether the first character of a text is an octal digit. -/
def BeginsOctal : Text → Prop
  | [] => False
  | c :: _ => IsOctal c

/-- Whether a text consists of octal digits, fewer than an octal escape can have. -/
structure IsShortOctal (digits : Text) : Prop where
  octal : ∀ c ∈ digits, IsOctal c
  short : digits.length < 3

/-- An empty text begins with no octal digit. -/
@[simp] theorem not_beginsOctal_nil : ¬ BeginsOctal [] :=
  id

/-- A backslash is no octal digit. -/
theorem not_beginsOctal_backslash (rest : Text) : ¬ BeginsOctal ('\\' :: rest) := by
  have foreign : ¬ IsOctal '\\' := by
    unfold IsOctal
    decide
  exact foreign

/-- What begins with an octal digit does so with more text behind it. -/
theorem BeginsOctal.append {text : Text} (begins : BeginsOctal text) (more : Text) :
    BeginsOctal (text ++ more) := by
  cases text with
  | nil => cases begins
  | cons c rest => exact begins

/-- Capitals are no octal digits. -/
theorem isDigit_octal_iff {c : Char} {value : Nat} :
    IsDigit 8 c value ↔ value < 8 ∧ c = digitChar value := by
  have small : ∀ value < 8, Text.asciiUpper (digitChar value) = digitChar value := by decide
  constructor
  · rintro ⟨below, rfl | rfl⟩
    · exact ⟨below, rfl⟩
    · exact ⟨below, small value below⟩
  · rintro ⟨below, rfl⟩
    exact ⟨below, .inl rfl⟩

/-- The octal digits are those of base eight. -/
theorem isOctal_iff {c : Char} : IsOctal c ↔ ∃ value, IsDigit 8 c value := by
  constructor
  · rintro ⟨low, high⟩
    have decimal : '0' ≤ c ∧ c ≤ '9' := ⟨low, Char.le_trans high (by decide)⟩
    have bound : c.toNat ≤ '7'.toNat := high
    have below : c.toNat - '0'.toNat < 8 := by
      have seven : '7'.toNat = '0'.toNat + 7 := rfl
      omega
    have read : Text.digitValue? 8 c = some (c.toNat - '0'.toNat) := by
      simp only [Text.digitValue?, if_pos decimal, if_pos below]
    exact ⟨_, (digitValue?_eq_some_iff (by decide)).mp read⟩
  · rintro ⟨value, valued⟩
    obtain ⟨below, rfl⟩ := isDigit_octal_iff.mp valued
    have all : ∀ value < 8, '0' ≤ digitChar value ∧ digitChar value ≤ '7' := by decide
    exact all value below

/-- Octal digits are a numeral. -/
theorem exists_numeral {digits : Text} (nonempty : digits ≠ [])
    (octal : ∀ c ∈ digits, IsOctal c) : ∃ code, Numeral 8 digits code := by
  induction digits using List.reverseRecOn with
  | nil => exact absurd rfl nonempty
  | append_singleton front c inductionHypothesis =>
    obtain ⟨value, valued⟩ := isOctal_iff.mp (octal c (by simp))
    by_cases empty : front = []
    · subst empty
      exact ⟨value, .digit valued⟩
    · obtain ⟨code, numeral⟩ :=
        inductionHypothesis empty fun d member => octal d (List.mem_append_left _ member)
      exact ⟨_, .behind numeral valued⟩

/-- A numeral of base eight is made of octal digits. -/
theorem isOctal_of_mem_numeral {digits : Text} {code : Nat} (numeral : Numeral 8 digits code) :
    ∀ c ∈ digits, IsOctal c := by
  induction numeral with
  | digit valued => simpa using isOctal_iff.mpr ⟨_, valued⟩
  | behind _ valued before =>
    intro c member
    rcases List.mem_append.mp member with member | member
    · exact before c member
    · rw [List.mem_singleton.mp member]
      exact isOctal_iff.mpr ⟨_, valued⟩

/-- The number of an octal escape is one of a character. -/
theorem isValidChar_of_octal {digits : Text} {code : Nat} (numeral : Numeral 8 digits code)
    (few : digits.length ≤ 3) : code.isValidChar := by
  have below : code < Nat.pow 8 digits.length := numeral.lt_pow
  have most : Nat.pow 8 digits.length ≤ Nat.pow 8 3 := Nat.pow_le_pow_right (by decide) few
  have small : Nat.pow 8 3 = 512 := rfl
  exact .inl (by omega)

/-- The octal digits at the beginning of a text, up to a count: behind them stands no other one,
unless there are as many of them as can be. -/
structure OctalFront (count : Nat) (digits rest : Text) : Prop where
  octal : ∀ c ∈ digits, IsOctal c
  few : digits.length ≤ count
  ended : digits.length < count → ¬ BeginsOctal rest

/-- Octal digits can be taken from every text, up to some number. -/
theorem exists_octalFront (count : Nat) (text : Text) :
    ∃ digits rest, text = digits ++ rest ∧ OctalFront count digits rest := by
  induction count generalizing text with
  | zero => exact ⟨[], text, rfl, by simp, by simp, by simp⟩
  | succ count inductionHypothesis =>
    by_cases begins : BeginsOctal text
    · cases text with
      | nil => cases begins
      | cons c more =>
        obtain ⟨digits, rest, rfl, octal, few, ended⟩ := inductionHypothesis more
        refine ⟨c :: digits, rest, rfl, ?_, by simpa using few, by simpa using ended⟩
        simpa using ⟨begins, octal⟩
    · exact ⟨[], text, rfl, by simp, by simp, fun _ => begins⟩

/-- The octal digits at the beginning of a text are taken from it. -/
theorem OctalFront.takeOctal {count : Nat} {digits rest : Text}
    (front : OctalFront count digits rest) :
    takeOctal count (digits ++ rest) = (digits, rest) := by
  obtain ⟨octal, few, ended⟩ := front
  induction digits generalizing count with
  | nil =>
    cases count with
    | zero => rfl
    | succ count =>
      cases rest with
      | nil => rfl
      | cons c rest => exact if_neg (ended (by simp))
  | cons c digits inductionHypothesis =>
    cases count with
    | zero => simp at few
    | succ count =>
      have behind := inductionHypothesis (fun d member => octal d (List.mem_cons_of_mem c member))
        (by simpa using few) (by simpa using ended)
      have first : '0' ≤ c ∧ c ≤ '7' := octal c (by simp)
      simp only [List.cons_append, Escape.takeOctal, if_pos first, behind]

/-! ## Escapes -/

/-- What can stand behind a backslash, and what it stands for there. -/
inductive Denotes : Text → Text → Prop where
  /-- A line break stands for nothing. -/
  | lineBreak : Denotes ['\n'] []
  /-- A character that stands for one. -/
  | simple {c meant : Char} (known : simple? c = some meant) : Denotes [c] [meant]
  /-- One to three octal digits stand for the character with their number. -/
  | octal {digits : Text} {code : Nat} (numeral : Numeral 8 digits code)
      (few : digits.length ≤ 3) : Denotes digits [Char.ofNat code]
  /-- A letter and the hexadecimal digits that belong to it stand for the character with their
  number, if there is one. -/
  | hexadecimal {letter : Char} {count code : Nat} {digits : Text}
      (width : (letter, count) ∈ [('x', 2), ('u', 4), ('U', 8)]) (numeral : Numeral 16 digits code)
      (full : digits.length = count) (valid : code.isValidChar) :
      Denotes (letter :: digits) [Char.ofNat code]
  /-- Any other character stands for itself, with its backslash. -/
  | unknown {c : Char} (unlike : c ∉ ['\n', 'x', 'u', 'U']) (strange : simple? c = none)
      (foreign : ¬ IsOctal c) : Denotes [c] ['\\', c]

/-- An escape needs one character at least. -/
theorem Denotes.ne_nil {written meant : Text} (denotes : Denotes written meant) :
    written ≠ [] := by
  cases denotes with
  | octal numeral few => exact numeral.ne_nil
  | _ => exact List.cons_ne_nil _ _

/-- A code is a character exactly if it is valid, and then its own. -/
theorem codePoint_eq_ok_iff {code : Nat} {c : Char} :
    codePoint code = .ok c ↔ code.isValidChar ∧ c = Char.ofNat code := by
  unfold codePoint
  split
  · rename_i valid
    simp [valid, eq_comm]
  · rename_i invalid
    simp [invalid]

/-- Hexadecimal digits are taken if there are enough of them and they are the number of a
character. -/
theorem takeHexadecimal_eq_ok_iff {count : Nat} {text rest : Text} {c : Char} :
    takeHexadecimal count text = .ok (c, rest) ↔
      ∃ digits code, text = digits ++ rest ∧ digits.length = count ∧ Numeral 16 digits code ∧
        code.isValidChar ∧ c = Char.ofNat code := by
  constructor
  · intro taken
    simp only [takeHexadecimal] at taken
    split at taken
    · rename_i code read
      split at taken
      · cases taken
      · rename_i enough
        cases point : codePoint code with
        | error fault =>
          rw [point] at taken
          cases taken
        | ok d =>
          rw [point] at taken
          obtain ⟨rfl, rfl⟩ := Prod.mk.inj (Except.ok.inj taken)
          obtain ⟨valid, rfl⟩ := codePoint_eq_ok_iff.mp point
          refine ⟨text.take count, code, (List.take_append_drop count text).symm, ?_,
            (toNat?_eq_some_iff (by decide)).mp read, valid, rfl⟩
          exact Nat.le_antisymm (List.length_take_le count text) (Nat.le_of_not_lt enough)
    · cases taken
  · rintro ⟨digits, code, rfl, full, numeral, valid, rfl⟩
    have read := (toNat?_eq_some_iff (by decide)).mpr numeral
    have point := codePoint_eq_ok_iff.mpr ⟨valid, rfl⟩
    simp [takeHexadecimal, ← full, read, point, Except.map]

/-- An octal digit begins no other kind of escape. -/
theorem of_isOctal {c : Char} (octal : IsOctal c) :
    simple? c = none ∧ c ∉ ['\n', 'x', 'u', 'U'] := by
  obtain ⟨value, valued⟩ := isOctal_iff.mp octal
  obtain ⟨below, rfl⟩ := isDigit_octal_iff.mp valued
  have all : ∀ value < 8, simple? (digitChar value) = none ∧
      digitChar value ∉ ['\n', 'x', 'u', 'U'] := by decide
  exact all value below

/-- The letter of a hexadecimal escape is no octal digit. -/
theorem not_isOctal_of_width {letter : Char} {count : Nat}
    (width : (letter, count) ∈ [('x', 2), ('u', 4), ('U', 8)]) : ¬ IsOctal letter := by
  intro octal
  have unlike := (of_isOctal octal).2
  simp only [List.mem_cons, Prod.mk.injEq, List.not_mem_nil, or_false] at width
  rcases width with ⟨rfl, -⟩ | ⟨rfl, -⟩ | ⟨rfl, -⟩ <;> simp at unlike

/-- What an escape can begin with. -/
inductive Opening (c : Char) : Prop where
  | lineBreak (same : c = '\n')
  | simple (meant : Char) (known : simple? c = some meant)
  | octal (digit : IsOctal c)
  | hexadecimal (count : Nat) (width : (c, count) ∈ [('x', 2), ('u', 4), ('U', 8)])
  | unknown (unlike : c ∉ ['\n', 'x', 'u', 'U']) (strange : simple? c = none)
      (foreign : ¬ IsOctal c)

/-- Each character opens one kind of escape. -/
theorem opening (c : Char) : Opening c := by
  by_cases listed : c ∈ ['\n', 'x', 'u', 'U']
  · simp only [List.mem_cons, List.not_mem_nil, or_false] at listed
    rcases listed with rfl | rfl | rfl | rfl
    · exact .lineBreak rfl
    · exact .hexadecimal 2 (by simp)
    · exact .hexadecimal 4 (by simp)
    · exact .hexadecimal 8 (by simp)
  · cases known : simple? c with
    | some meant => exact .simple meant known
    | none =>
      by_cases digit : IsOctal c
      · exact .octal digit
      · exact .unknown listed known digit

/-! ## Escapes that are taken -/

/-- A letter with a meaning of its own gives that. -/
theorem takeEscape_simple {c meant : Char} (known : simple? c = some meant) (rest : Text) :
    takeEscape (c :: rest) = .ok ([meant], rest) := by
  have visible : c ≠ '\n' := by
    rintro rfl
    cases known
  simp only [takeEscape, if_neg visible, known]

/-- Up to three octal digits give the character with their code. -/
theorem takeEscape_octal {digits rest : Text} {code : Nat} (numeral : Numeral 8 digits code)
    (front : OctalFront 3 digits rest) :
    takeEscape (digits ++ rest) = .ok ([Char.ofNat code], rest) := by
  have read := (toNat?_eq_some_iff (by decide)).mpr numeral
  have point := codePoint_eq_ok_iff.mpr ⟨isValidChar_of_octal numeral front.few, rfl⟩
  have taken := front.takeOctal
  cases digits with
  | nil => exact absurd rfl numeral.ne_nil
  | cons c digits =>
    have octal : '0' ≤ c ∧ c ≤ '7' := front.octal c (by simp)
    obtain ⟨strange, unlike⟩ := of_isOctal octal
    have visible : c ≠ '\n' := fun same => unlike (by simp [same])
    rw [List.cons_append] at taken ⊢
    simp only [takeEscape, if_neg visible, strange, if_pos octal, taken, read, Option.getD_some,
      point, Except.map]

/-- A letter for hexadecimal digits is followed by a fixed number of them. -/
theorem takeEscape_hexadecimal {letter : Char} {count : Nat}
    (width : (letter, count) ∈ [('x', 2), ('u', 4), ('U', 8)]) (text : Text) :
    takeEscape (letter :: text) =
      (takeHexadecimal count text).map fun (c, rest) => ([c], rest) := by
  simp only [List.mem_cons, Prod.mk.injEq, List.not_mem_nil, or_false] at width
  rcases width with ⟨rfl, rfl⟩ | ⟨rfl, rfl⟩ | ⟨rfl, rfl⟩ <;> rfl

/-- A backslash in front of a character without a meaning stays where it is. -/
theorem takeEscape_unknown {c : Char} (unlike : c ∉ ['\n', 'x', 'u', 'U'])
    (strange : simple? c = none) (foreign : ¬ IsOctal c) (rest : Text) :
    takeEscape (c :: rest) = .ok (['\\', c], rest) := by
  simp only [List.mem_cons, List.not_mem_nil, or_false, not_or] at unlike
  have outside : ¬ ('0' ≤ c ∧ c ≤ '7') := foreign
  simp only [takeEscape, unlike, strange, outside, if_false]

/-- An escape is taken for what it denotes, if it is not an octal one that goes on. -/
theorem Denotes.takeEscape {written meant rest : Text} (denotes : Denotes written meant)
    (ended : IsShortOctal written → ¬ BeginsOctal rest) :
    takeEscape (written ++ rest) = .ok (meant, rest) := by
  cases denotes with
  | lineBreak => rfl
  | simple known => exact takeEscape_simple known rest
  | octal numeral few =>
    have octal := isOctal_of_mem_numeral numeral
    exact takeEscape_octal numeral ⟨octal, few, fun short => ended ⟨octal, short⟩⟩
  | @hexadecimal letter count code digits width numeral full valid =>
    have taken : takeHexadecimal count (digits ++ rest) = .ok (Char.ofNat code, rest) :=
      takeHexadecimal_eq_ok_iff.mpr ⟨digits, code, rfl, full, numeral, valid, rfl⟩
    rw [List.cons_append, takeEscape_hexadecimal width, taken]
    rfl
  | unknown unlike strange foreign => exact takeEscape_unknown unlike strange foreign rest

/-- What is taken for an escape is one, and an octal one has all the digits that it can have. -/
theorem exists_of_takeEscape {text meant rest : Text}
    (taken : takeEscape text = .ok (meant, rest)) :
    ∃ written, text = written ++ rest ∧ Denotes written meant ∧
      (IsShortOctal written → ¬ BeginsOctal rest) := by
  cases text with
  | nil => cases taken
  | cons c more =>
    -- Only an octal escape can go on in what stands behind it.
    have fixed {digits : Text} (foreign : ¬ IsOctal c) :
        IsShortOctal (c :: digits) → ¬ BeginsOctal rest :=
      fun short => absurd (short.octal c (by simp)) foreign
    cases opening c with
    | lineBreak same =>
      subst same
      obtain ⟨rfl, rfl⟩ := Prod.mk.inj (Except.ok.inj taken)
      exact ⟨_, rfl, .lineBreak, fixed fun octal => (of_isOctal octal).2 (by simp)⟩
    | simple single known =>
      rw [takeEscape_simple known] at taken
      obtain ⟨rfl, rfl⟩ := Prod.mk.inj (Except.ok.inj taken)
      refine ⟨[c], rfl, .simple known, fixed fun octal => ?_⟩
      rw [(of_isOctal octal).1] at known
      cases known
    | octal digit =>
      obtain ⟨digits, behind, parts, front⟩ := exists_octalFront 3 (c :: more)
      have nonempty : digits ≠ [] := by
        rintro rfl
        rw [List.nil_append] at parts
        exact front.ended (by simp) (parts ▸ digit)
      obtain ⟨code, numeral⟩ := exists_numeral nonempty front.octal
      rw [parts, takeEscape_octal numeral front] at taken
      obtain ⟨rfl, rfl⟩ := Prod.mk.inj (Except.ok.inj taken)
      exact ⟨digits, parts, .octal numeral front.few, fun octal => front.ended octal.short⟩
    | hexadecimal count width =>
      rw [takeEscape_hexadecimal width] at taken
      cases read : takeHexadecimal count more with
      | error fault =>
        rw [read] at taken
        cases taken
      | ok pair =>
        rw [read] at taken
        obtain ⟨rfl, rfl⟩ := Prod.mk.inj (Except.ok.inj taken)
        obtain ⟨digits, code, rfl, full, numeral, valid, meant⟩ := takeHexadecimal_eq_ok_iff.mp read
        rw [meant]
        exact ⟨c :: digits, rfl, .hexadecimal width numeral full valid,
          fixed (not_isOctal_of_width width)⟩
    | unknown unlike strange foreign =>
      rw [takeEscape_unknown unlike strange foreign] at taken
      obtain ⟨rfl, rfl⟩ := Prod.mk.inj (Except.ok.inj taken)
      exact ⟨[c], rfl, .unknown unlike strange foreign, fixed foreign⟩

/-! ## Texts with escapes -/

/-- A text with escapes, and the text that it stands for. -/
inductive Written : Text → Text → Prop where
  | nil : Written [] []
  /-- A character other than a backslash stands for itself. -/
  | plain {c : Char} {rest decoded : Text} (ordinary : c ≠ '\\') (behind : Written rest decoded) :
      Written (c :: rest) (c :: decoded)
  /-- An escape stands for what it denotes. An octal one has all the digits that it can have. -/
  | escape {written meant rest decoded : Text} (denotes : Denotes written meant)
      (ended : IsShortOctal written → ¬ BeginsOctal rest) (behind : Written rest decoded) :
      Written ('\\' :: (written ++ rest)) (meant ++ decoded)

/-- An octal escape is written with its digits. -/
theorem written_octal {digits : Text} {code : Nat} (numeral : Numeral 8 digits code)
    (few : digits.length ≤ 3) : Written ('\\' :: digits) [Char.ofNat code] := by
  have escaped : Written ('\\' :: (digits ++ [])) ([Char.ofNat code] ++ []) :=
    .escape (.octal numeral few) (fun _ => not_beginsOctal_nil) .nil
  rwa [List.append_nil] at escaped

/-- Whether a text ends with an octal escape that could take a further digit. -/
def EndsInOctal (text : Text) : Prop :=
  ∃ front digits decoded, text = front ++ '\\' :: digits ∧ Written front decoded ∧ digits ≠ [] ∧
    IsShortOctal digits

/-- What ends with a short octal escape does so behind a plain character. -/
theorem EndsInOctal.plain {c : Char} {rest : Text} (ends : EndsInOctal rest)
    (ordinary : c ≠ '\\') : EndsInOctal (c :: rest) := by
  obtain ⟨front, digits, decoded, rfl, written, nonempty, short⟩ := ends
  exact ⟨c :: front, digits, c :: decoded, rfl, .plain ordinary written, nonempty, short⟩

/-- What ends with a short octal escape does so behind another escape. -/
theorem EndsInOctal.escape {written meant rest : Text} (ends : EndsInOctal rest)
    (denotes : Denotes written meant) (ended : IsShortOctal written → ¬ BeginsOctal rest) :
    EndsInOctal ('\\' :: (written ++ rest)) := by
  obtain ⟨front, digits, decoded, rfl, inside, nonempty, short⟩ := ends
  refine ⟨'\\' :: (written ++ front), digits, meant ++ decoded, by simp, ?_, nonempty, short⟩
  exact .escape denotes (fun octal begins => ended octal (begins.append _)) inside

/-- The last escape of a text does not go on in what follows, and none in front of it does. -/
theorem ended_append {written meant rest more : Text} (denotes : Denotes written meant)
    (ended : IsShortOctal written → ¬ BeginsOctal rest)
    (apart : EndsInOctal ('\\' :: (written ++ rest)) → ¬ BeginsOctal more) :
    IsShortOctal written → ¬ BeginsOctal (rest ++ more) := by
  intro short
  cases rest with
  | nil => exact apart ⟨[], written, [], by simp, .nil, denotes.ne_nil, short⟩
  | cons c rest => exact ended short

/-! ## Decoding -/

/-- A plain character is decoded as it is. -/
theorem decodeFrom_plain {c : Char} (ordinary : c ≠ '\\') (position : Nat) (rest : Text) :
    decodeFrom position (c :: rest) =
      (decodeFrom (position + c.utf8Size) rest).map (c :: ·) := by
  rw [decodeFrom, if_neg ordinary]

/-- An escape that is taken is decoded, and decoding goes on behind its bytes. -/
theorem decodeFrom_escape {written meant rest : Text}
    (taken : takeEscape (written ++ rest) = .ok (meant, rest)) (position : Nat) :
    decodeFrom position ('\\' :: (written ++ rest)) =
      (decodeFrom (position + Text.byteLength ('\\' :: written)) rest).map (meant ++ ·) := by
  have consumed : Text.byteLength ('\\' :: (written ++ rest)) - Text.byteLength rest =
      Text.byteLength ('\\' :: written) := by
    simp only [Text.byteLength_cons, Text.byteLength_append]
    omega
  rw [decodeFrom, if_pos rfl]
  split
  · rename_i fault failed
    rw [taken] at failed
    cases failed
  · rename_i decoded behind found
    rw [taken] at found
    obtain ⟨rfl, rfl⟩ := Prod.mk.inj (Except.ok.inj found)
    rw [consumed]

/-- A fault is located at its backslash. -/
theorem decodeFrom_fault {behind : Text} {fault : EscapeFault}
    (failed : takeEscape behind = .error fault) (position : Nat) :
    decodeFrom position ('\\' :: behind) = .error ⟨position, fault⟩ := by
  rw [decodeFrom, if_pos rfl]
  split
  · rename_i found
    rw [failed] at found
    cases found
    rfl
  · rename_i found
    rw [failed] at found
    cases found

/-- A text that stands for another is decoded to it, in front of any text that its last escape
does not go on in. -/
theorem Written.decodeFrom_append {first decoded second : Text} (written : Written first decoded)
    (apart : EndsInOctal first → ¬ BeginsOctal second) (position : Nat) :
    decodeFrom position (first ++ second) =
      (decodeFrom (position + Text.byteLength first) second).map (decoded ++ ·) := by
  have combined (front more : Text) (result : Except EscapeError Text) :
      (result.map (more ++ ·)).map (front ++ ·) = result.map ((front ++ more) ++ ·) := by
    cases result <;> simp [Except.map]
  induction written generalizing position with
  | nil =>
    rw [List.nil_append, Text.byteLength_nil, Nat.add_zero]
    cases decodeFrom position second <;> rfl
  | @plain c rest decoded ordinary behind inductionHypothesis =>
    rw [List.cons_append, decodeFrom_plain ordinary,
      inductionHypothesis fun ends => apart (ends.plain ordinary), Text.byteLength_cons,
      Nat.add_assoc]
    exact combined [c] decoded _
  | @escape written meant rest decoded denotes ended behind inductionHypothesis =>
    have taken := denotes.takeEscape (ended_append denotes ended apart)
    rw [List.cons_append, List.append_assoc, decodeFrom_escape taken,
      inductionHypothesis fun ends => apart (ends.escape denotes ended)]
    simp only [combined, Text.byteLength_cons, Text.byteLength_append, Nat.add_assoc]

/-- What is written as an escaped text is decoded to that text, wherever it stands. -/
theorem Written.decodeFrom {text decoded : Text} (written : Written text decoded)
    (position : Nat) : decodeFrom position text = .ok decoded := by
  have whole := written.decodeFrom_append (fun _ => not_beginsOctal_nil) position
  rw [List.append_nil, Escape.decodeFrom] at whole
  simpa [Except.map] using whole

/-- A text can be decoded up to a backslash behind which no escape can be taken. -/
def FailsBehind (front text : Text) (fault : EscapeFault) : Prop :=
  ∃ decoded behind, text = front ++ '\\' :: behind ∧ Written front decoded ∧
    takeEscape behind = .error fault

/-- A fault stays one behind a plain character. -/
theorem FailsBehind.plain {front text : Text} {fault : EscapeFault} {c : Char}
    (fails : FailsBehind front text fault) (ordinary : c ≠ '\\') :
    FailsBehind (c :: front) (c :: text) fault := by
  obtain ⟨decoded, behind, rfl, written, failed⟩ := fails
  exact ⟨c :: decoded, behind, rfl, .plain ordinary written, failed⟩

/-- A fault stays one behind an escape. -/
theorem FailsBehind.escape {front text written meant : Text} {fault : EscapeFault}
    (fails : FailsBehind front text fault) (denotes : Denotes written meant)
    (ended : IsShortOctal written → ¬ BeginsOctal text) :
    FailsBehind ('\\' :: (written ++ front)) ('\\' :: (written ++ text)) fault := by
  obtain ⟨decoded, behind, rfl, inside, failed⟩ := fails
  refine ⟨meant ++ decoded, behind, by simp, ?_, failed⟩
  exact .escape denotes (fun short begins => ended short (begins.append _)) inside

/-- A text stands for another, or it does so up to a backslash with no escape behind it. -/
theorem written_or_failsBehind (text : Text) :
    (∃ decoded, Written text decoded) ∨ ∃ front fault, FailsBehind front text fault := by
  fun_induction Escape.decodeFrom 0 text with
  | case1 position => exact .inl ⟨[], .nil⟩
  | case2 position rest fault taken => exact .inr ⟨[], fault, [], rest, rfl, .nil, taken⟩
  | case3 position rest meant rest' taken shorter consumed =>
    rename_i inductionHypothesis
    obtain ⟨written, rfl, denotes, ended⟩ := exists_of_takeEscape taken
    rcases inductionHypothesis with ⟨decoded, behind⟩ | ⟨front, fault, fails⟩
    · exact .inl ⟨meant ++ decoded, .escape denotes ended behind⟩
    · exact .inr ⟨_, fault, fails.escape denotes ended⟩
  | case4 position c rest ordinary inductionHypothesis =>
    rcases inductionHypothesis with ⟨decoded, behind⟩ | ⟨front, fault, fails⟩
    · exact .inl ⟨c :: decoded, .plain ordinary behind⟩
    · exact .inr ⟨_, fault, fails.plain ordinary⟩

/-- Decoding fails as far into the text as the fault stands. -/
theorem FailsBehind.decodeFrom {front text : Text} {fault : EscapeFault}
    (fails : FailsBehind front text fault) (position : Nat) :
    decodeFrom position text = .error ⟨position + Text.byteLength front, fault⟩ := by
  obtain ⟨decoded, behind, rfl, written, failed⟩ := fails
  rw [written.decodeFrom_append (fun _ => not_beginsOctal_backslash behind),
    decodeFrom_fault failed]
  rfl

/-- A text is decoded to what it stands for, if that is anything. -/
theorem decode_eq_ok_iff {text decoded : Text} :
    decode text = .ok decoded ↔ Written text decoded := by
  constructor
  · intro read
    rcases written_or_failsBehind text with ⟨meant, written⟩ | ⟨front, fault, fails⟩
    · rw [decode, written.decodeFrom] at read
      exact Except.ok.inj read ▸ written
    · rw [decode, fails.decodeFrom] at read
      cases read
  · intro written
    exact written.decodeFrom 0

/-- Decoding fails at the first backslash with no escape behind it. -/
theorem decode_eq_error_iff {text : Text} {error : EscapeError} :
    decode text = .error error ↔
      ∃ front, FailsBehind front text error.fault ∧ error.position = Text.byteLength front := by
  constructor
  · intro failed
    rcases written_or_failsBehind text with ⟨meant, written⟩ | ⟨front, fault, fails⟩
    · rw [decode, written.decodeFrom] at failed
      cases failed
    · rw [decode, fails.decodeFrom, Nat.zero_add] at failed
      cases failed
      exact ⟨front, fails, rfl⟩
  · rintro ⟨front, fails, place⟩
    rw [decode, fails.decodeFrom, Nat.zero_add, ← place]

/-! ## Texts in two parts -/

/-- Two texts one behind the other stand for what each of them stands for, unless an octal escape
at the end of the first goes on in the second. -/
theorem Written.append {first second decoded more : Text} (written : Written first decoded)
    (behind : Written second more) (apart : EndsInOctal first → ¬ BeginsOctal second) :
    Written (first ++ second) (decoded ++ more) := by
  have read : decode (first ++ second) = .ok (decoded ++ more) := by
    rw [decode, written.decodeFrom_append apart, behind.decodeFrom]
    rfl
  exact decode_eq_ok_iff.mp read

/-- A text is decoded behind another one as it is on its own, and fails where it fails on its own,
unless it begins with an octal digit. A text that fails to be decoded does so at a backslash, and
can be decoded up to there. -/
theorem decode_append_located (first : Text) :
    (∀ decoded second, decode first = .ok decoded → ¬ BeginsOctal second →
      (∀ more, decode second = .ok more → decode (first ++ second) = .ok (decoded ++ more)) ∧
        ∀ error, decode second = .error error →
          decode (first ++ second) =
            .error { error with position := Text.byteLength first + error.position }) ∧
      ∀ error, decode first = .error error →
        ∃ front behind decoded, first = front ++ '\\' :: behind ∧
          Text.byteLength front = error.position ∧ decode front = .ok decoded := by
  constructor
  · intro decoded second read apart
    have written := decode_eq_ok_iff.mp read
    constructor
    · intro more readMore
      exact decode_eq_ok_iff.mpr (written.append (decode_eq_ok_iff.mp readMore) fun _ => apart)
    · intro error failed
      obtain ⟨front, fails, place⟩ := decode_eq_error_iff.mp failed
      rw [decode, written.decodeFrom_append fun _ => apart, fails.decodeFrom, place, Nat.zero_add]
      rfl
  · intro error failed
    obtain ⟨front, ⟨decoded, behind, parts, written, _⟩, place⟩ := decode_eq_error_iff.mp failed
    exact ⟨front, behind, decoded, parts, place.symm, decode_eq_ok_iff.mpr written⟩

/-- The first part takes four bytes, two of them for its first character. The hexadecimal digit
that is missing behind the second backslash is missed one byte behind them. -/
theorem decode_append_located_truncated :
    let first : Text := ['\u00e4', '\\', '1']
    let second : Text := ['8', '\\', 'x', '4']
    decode first = .ok ['\u00e4', '\x01'] ∧ ¬ BeginsOctal second ∧
      decode second = .error ⟨1, .truncated 2⟩ ∧
      decode (first ++ second) = .error ⟨5, .truncated 2⟩ ∧
      ∃ front behind decoded, first ++ second = front ++ '\\' :: behind ∧
        Text.byteLength front = 5 ∧ decode front = .ok decoded := by
  intro first second
  have numeral : Numeral 8 ['1'] 1 := (toNat?_eq_some_iff (by decide)).mp rfl
  have read : decode first = .ok ['\u00e4', '\x01'] :=
    decode_eq_ok_iff.mpr (.plain (by decide) (written_octal numeral (by decide)))
  have failed : decode second = .error ⟨1, .truncated 2⟩ :=
    decode_eq_error_iff.mpr ⟨['8'], ⟨['8'], ['x', '4'], rfl, .plain (by decide) .nil, rfl⟩, rfl⟩
  have apart : ¬ BeginsOctal second := by
    unfold second BeginsOctal IsOctal
    decide
  have joined := ((decode_append_located _).1 _ _ read apart).2 _ failed
  exact ⟨read, apart, failed, joined, (decode_append_located _).2 _ joined⟩

end HtmlTemplate.Escape
