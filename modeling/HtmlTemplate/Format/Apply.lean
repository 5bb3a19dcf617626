import HtmlTemplate.Decimal.Reading
import HtmlTemplate.Format.Ascii
import HtmlTemplate.Format.Spec
import HtmlTemplate.Value.Display

/-!
# Formatted values

A value becomes text in two steps: an optional conversion takes its display or its
representation, and a format specifier lays out the result.
-/

namespace HtmlTemplate.Format

/-- What is taken of a value before it is laid out. -/
inductive Conversion where
  /-- The display of the value. -/
  | display
  /-- The representation of the value. -/
  | repr
  /-- The representation of the value, in ASCII. -/
  | ascii
deriving DecidableEq, Repr

/-- The letter that asks for a conversion. -/
def Conversion.char : Conversion → Char
  | .display => 's'
  | .repr => 'r'
  | .ascii => 'a'

/-- The conversion a letter asks for. -/
def Conversion.ofChar? : Char → Option Conversion
  | 's' => some .display
  | 'r' => some .repr
  | 'a' => some .ascii
  | _ => none

/-- The value to be laid out: the value itself, or the text a conversion makes of
it. -/
def convert (value : Value) : Option Conversion → Value
  | none => value
  | some .display => .text value.display
  | some .repr => .text value.repr
  | some .ascii => .text (Format.ascii value.repr)

/-- Digits with a separator before every group of a given size, counted from the
end. -/
def group (separator : Char) (size : Nat) : Text → Text
  | [] => []
  | [digit] => [digit]
  | digit :: rest =>
    if rest.length % size = 0 then digit :: separator :: group separator size rest
    else digit :: group separator size rest

/-- Digits with the separators that the specifier asks for. -/
def grouped (spec : Spec) (size : Nat) (digits : Text) : Text :=
  match spec.grouping with
  | some separator => group separator size digits
  | none => digits

/-- The text of a sign. -/
def signText (negative : Bool) (sign : Sign) : Text :=
  if negative then ['-']
  else
    match sign with
    | .minus => []
    | .plus => ['+']
    | .space => [' ']

/-! ## Texts -/

/-- A text, cut to the precision and filled up to the width. -/
def formatText (text : Text) (spec : Spec) : Except Error Text :=
  match spec.kind with
  | none | some 's' =>
    let body := match spec.precision with
      | some length => text.take length
      | none => text
    .ok (spec.pad [] body .left)
  | some code => .error (.unknownCode code "str")

/-! ## Floating-point numbers -/

/-- Digits less the zeros at their end, and less a point that then stands last. A
text without a point is a whole number and keeps its zeros. -/
def dropTrailingZeros (digits : Text) : Text :=
  if digits.contains '.' then
    Text.dropEndWhile (· = '.') (Text.dropEndWhile (· = '0') digits)
  else digits

/-- A magnitude with a number of significant digits: with an exponent if the first
digit counts less than `10 ^ -4` or the digits do not reach the units. Zeros at the
end are dropped unless `alternate` is set. -/
def general (x : Decimal.Binary64) (precision : Nat) (alternate : Bool) : Text :=
  let count := max precision 1
  if x.isZero then
    if alternate then x.fixed (count - 1) else ['0']
  else
    let rounded := x.rounded (count - 1)
    let text :=
      if -4 ≤ rounded.power ∧ rounded.power < count then
        x.fixed ((count : Int) - 1 - rounded.power).toNat
      else rounded.scientific
    if alternate then text
    else
      dropTrailingZeros (text.takeWhile (· ≠ 'e')) ++ text.dropWhile (· ≠ 'e')

/-- Whether a presentation letter asks for capitals. -/
def isCapitalKind (kind : Option Char) : Bool :=
  kind = some 'E' || kind = some 'F' || kind = some 'G'

/-- A finite magnitude in the presentation the specifier asks for. -/
def presentFloat (x : Decimal.Binary64) (spec : Spec) : Except Error Text :=
  let precision := spec.precision.getD 6
  match spec.kind with
  | none =>
    match spec.precision with
    | some precision => .ok (general x precision spec.alternate)
    | none => .ok x.displayMagnitude
  | some 'f' | some 'F' => .ok (x.fixed precision)
  | some 'e' | some 'E' => .ok (x.rounded precision).scientific
  | some 'g' | some 'G' => .ok (general x precision spec.alternate)
  | some '%' =>
    let hundredfold := x.scale 100
    let text := if hundredfold.isFinite then hundredfold.fixed precision else "inf".toList
    .ok (text ++ ['%'])
  | some code => .error (.unknownCode code "float")

/-- A floating-point number. Only the digits of its whole part are grouped; what is
no number has no sign of its own. -/
def formatFloat (x : Decimal.Binary64) (spec : Spec) : Except Error Text :=
  let sign := signText (x.isNegative && !x.isNaN) spec.sign
  let capitals (text : Text) : Text :=
    if isCapitalKind spec.kind then text.map Text.asciiUpper else text
  if !x.isFinite then
    .ok (spec.pad sign (capitals (if x.isNaN then "nan".toList else "inf".toList)) .right)
  else
    (presentFloat x.abs spec).map fun body =>
      let whole := body.takeWhile Text.isAsciiDigit
      let behind := body.dropWhile Text.isAsciiDigit
      spec.pad sign (grouped spec 3 whole ++ capitals behind) .right

/-! ## Integers -/

/-- Whether a presentation letter is one of those for floating-point numbers. -/
def isFloatKind (kind : Char) : Bool :=
  kind ∈ ['e', 'E', 'f', 'F', 'g', 'G', '%']

/-- The base of a presentation letter for integers, the text that announces the base,
and the size of a group of digits. -/
def integerBase? : Char → Option (Nat × Text × Nat)
  | 'd' | 'n' => some (10, [], 3)
  | 'b' => some (2, ['0', 'b'], 4)
  | 'o' => some (8, ['0', 'o'], 4)
  | 'x' => some (16, ['0', 'x'], 4)
  | 'X' => some (16, ['0', 'X'], 4)
  | _ => none

/-- The digits of a magnitude; the letter `X` asks for capitals. -/
def integerDigits (kind : Char) (base magnitude : Nat) : Text :=
  let digits := Decimal.numeral base magnitude
  if kind = 'X' then digits.map Text.asciiUpper else digits

/-- The character with a given number, if there is one. -/
def charOfCode? (code : Int) : Option Char :=
  if 0 ≤ code ∧ code.toNat.isValidChar then some (Char.ofNat code.toNat) else none

/-- An integer in the presentation the specifier asks for. -/
def formatInt (n : Int) (spec : Spec) : Except Error Text :=
  let kind := spec.kind.getD 'd'
  if isFloatKind kind then formatFloat (.ofInt n) spec
  else if spec.precision.isSome then .error .integerPrecision
  else if kind = 'c' then
    match charOfCode? n with
    | some c => .ok (spec.pad [] [c] .left)
    | none => .error (.invalidSpec ['c'] (.notACharacter n))
  else
    match integerBase? kind with
    | some (base, announced, size) =>
      let sign := signText (n < 0) spec.sign ++ (if spec.alternate then announced else [])
      .ok (spec.pad sign (grouped spec size (integerDigits kind base n.natAbs)) .right)
    | none => .error (.unknownCode kind "int")

/-! ## Values -/

/-- A value laid out by a specifier. Truth values are laid out as the numbers one
and zero; values that are neither text nor number cannot be laid out. -/
def layOut (value : Value) (spec : Spec) : Except Error Text :=
  match value with
  | .text text => formatText text spec
  | .int n => formatInt n spec
  | .bool value => formatInt (if value then 1 else 0) spec
  | .float x => formatFloat x spec
  | other => .error (.unknownCode (spec.kind.getD 's') other.kind)

/-- The text of a value under an optional conversion and an optional specifier. An
empty specifier is none. -/
def formatValue (value : Value) (conversion : Option Conversion) (spec : Option Text) :
    Except Error Text :=
  let converted := convert value conversion
  match spec.getD [] with
  | [] => .ok converted.display
  | text => (Spec.parse text).bind (layOut converted)

end HtmlTemplate.Format
