import HtmlTemplate.Format.Error

/-!
# Format specifiers

A format specifier has nine optional fields in a fixed order: fill and alignment,
sign, `#`, `0`, width, grouping, precision and presentation. `Spec.parse` reads one,
and `Spec.pad` brings a text to the width it asks for.
-/

namespace HtmlTemplate.Format

/-- Where a text that is too short for its width stands. -/
inductive Align where
  | left
  | right
  | center
  /-- The filling goes between the sign and the digits. -/
  | afterSign
deriving DecidableEq, Repr

/-- The character that asks for an alignment. -/
def Align.char : Align → Char
  | .left => '<'
  | .right => '>'
  | .center => '^'
  | .afterSign => '='

/-- The alignment a character asks for. -/
def Align.ofChar? : Char → Option Align
  | '<' => some .left
  | '>' => some .right
  | '^' => some .center
  | '=' => some .afterSign
  | _ => none

/-- What stands in front of a number that is not negative. -/
inductive Sign where
  /-- Nothing: only negative numbers have a sign. -/
  | minus
  | plus
  | space
deriving DecidableEq, Repr

/-- The character that asks for a treatment of signs. -/
def Sign.char : Sign → Char
  | .minus => '-'
  | .plus => '+'
  | .space => ' '

/-- The fields of a format specifier. -/
structure Spec where
  /-- The character that fills up to the width. -/
  fill : Char := ' '
  align : Option Align := none
  sign : Sign := .minus
  /-- Whether a base is shown, and trailing zeros are kept. -/
  alternate : Bool := false
  /-- Whether zeros fill up to the width behind the sign. -/
  zero : Bool := false
  /-- The least number of characters. -/
  width : Option Nat := none
  /-- The character between groups of digits. -/
  grouping : Option Char := none
  precision : Option Nat := none
  /-- The presentation letter. -/
  kind : Option Char := none
deriving DecidableEq, Repr

/-- The greatest width and the greatest precision that a specifier may ask for. -/
def widthLimit : Nat := 10000

namespace Spec

/-! ## Reading -/

/-- The fill and the alignment at the beginning of a specifier: an alignment
character in second place makes the first character the fill, whatever it is. -/
def takeAlign : Text → (Char × Option Align) × Text
  | first :: second :: rest =>
    match Align.ofChar? second with
    | some align => ((first, some align), rest)
    | none =>
      match Align.ofChar? first with
      | some align => ((' ', some align), second :: rest)
      | none => ((' ', none), first :: second :: rest)
  | [first] =>
    match Align.ofChar? first with
    | some align => ((' ', some align), [])
    | none => ((' ', none), [first])
  | [] => ((' ', none), [])

/-- The treatment of signs, if the text begins with one. -/
def takeSign : Text → Sign × Text
  | '+' :: rest => (.plus, rest)
  | '-' :: rest => (.minus, rest)
  | ' ' :: rest => (.space, rest)
  | text => (.minus, text)

/-- Whether the text begins with a given flag, and the rest. -/
def takeFlag (flag : Char) : Text → Bool × Text
  | [] => (false, [])
  | c :: rest => if c = flag then (true, rest) else (false, c :: rest)

/-- The number whose decimal digits begin the text, if there are any. -/
def takeNumber (text : Text) : Option Nat × Text :=
  (Text.toNat? 10 (text.takeWhile Text.isAsciiDigit), text.dropWhile Text.isAsciiDigit)

/-- The grouping character, if the text begins with one. -/
def takeGrouping : Text → Option Char × Text
  | ',' :: rest => (some ',', rest)
  | '_' :: rest => (some '_', rest)
  | text => (none, text)

/-- The precision, if the text begins with a point. -/
def takePrecision : Text → Except SpecFault (Option Nat × Text)
  | '.' :: rest =>
    match takeNumber rest with
    | (none, _) => .error .missingPrecision
    | (some precision, rest) =>
      if widthLimit < precision then .error .precisionTooLarge
      else .ok (some precision, rest)
  | text => .ok (none, text)

/-- The fields of a specifier, or the first fault in it. -/
def read (text : Text) : Except SpecFault Spec :=
  let ((fill, align), text) := takeAlign text
  let (sign, text) := takeSign text
  let (alternate, text) := takeFlag '#' text
  let (zero, text) := takeFlag '0' text
  let (width, text) := takeNumber text
  if widthLimit < width.getD 0 then .error .widthTooLarge
  else
    let (grouping, text) := takeGrouping text
    match takePrecision text with
    | .error fault => .error fault
    | .ok (precision, text) =>
      let spec : Spec :=
        { fill, align, sign, alternate, zero, width, grouping, precision }
      match text with
      | [] => .ok spec
      | [kind] => .ok { spec with kind := some kind }
      | _ :: _ :: _ => .error .malformed

/-- The fields of a specifier; the error names the whole specifier. -/
def parse (text : Text) : Except Error Spec :=
  match read text with
  | .ok spec => .ok spec
  | .error fault => .error (.invalidSpec text fault)

/-! ## Padding -/

/-- The fill and the alignment in force: the ones asked for, else zeros behind the
sign if the zero flag is set, else the ones usual for the value. -/
def filling (spec : Spec) (usual : Align) : Char × Align :=
  match spec.align with
  | some align => (spec.fill, align)
  | none => if spec.zero then ('0', .afterSign) else (spec.fill, usual)

/-- A sign and a body with `missing` filling characters added. -/
def place (fill : Char) (align : Align) (missing : Nat) (sign body : Text) : Text :=
  let run (count : Nat) : Text := List.replicate count fill
  match align with
  | .left => sign ++ body ++ run missing
  | .right => run missing ++ sign ++ body
  | .center => run (missing / 2) ++ sign ++ body ++ run (missing - missing / 2)
  | .afterSign => sign ++ run missing ++ body

/-- A sign and a body, filled up to the width. -/
def pad (spec : Spec) (sign body : Text) (usual : Align) : Text :=
  let (fill, align) := spec.filling usual
  place fill align (spec.width.getD 0 - (sign.length + body.length)) sign body

end Spec

end HtmlTemplate.Format
