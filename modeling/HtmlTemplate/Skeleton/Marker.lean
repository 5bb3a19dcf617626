import HtmlTemplate.Decimal.Numeral
import HtmlTemplate.Text.Basic

/-!
# Markers

While markup is read, a marker stands for each interpolation: a dollar sign and the
index of the interpolation between two letters `x`. Literal text has its dollar signs
doubled first, so no literal text looks like a marker.
-/

namespace HtmlTemplate.Skeleton

/-- A text with every dollar sign doubled. -/
def protect (text : Text) : Text :=
  text.flatMap fun c => if c = '$' then ['$', '$'] else [c]

/-- A text with every two neighbouring dollar signs, from left to right, made one. -/
def restore : Text → Text
  | '$' :: '$' :: rest => '$' :: restore rest
  | c :: rest => c :: restore rest
  | [] => []

/-- The marker of an index. -/
def marker (index : Nat) : Text :=
  'x' :: '$' :: Decimal.natural index ++ ['x']

/-- The greatest index that a marker can have. -/
def markerLimit : Nat := 0xFFFFFFFFFFFFFFFF

/-- The index that the digits of a marker stand for. -/
def markerIndex? (digits : Text) : Option Nat :=
  (Text.toNat? 10 digits).filter (· ≤ markerLimit)

/-- The digits of the marker at the beginning of a text, whatever their value, and the
text behind it. -/
def takeMarker? : Text → Option (Text × Text)
  | 'x' :: '$' :: rest =>
    match rest.takeWhile Text.isAsciiDigit, rest.dropWhile Text.isAsciiDigit with
    | [], _ => none
    | digits, 'x' :: behind => some (digits, behind)
    | _, _ => none
  | _ => none

/-- The index of a text that is one marker and nothing else. -/
def wholeMarker? (text : Text) : Option Nat :=
  match takeMarker? text with
  | some (digits, []) => markerIndex? digits
  | _ => none

/-- A piece of a text with markers in it. -/
inductive Segment where
  /-- Literal text, with its dollar signs single again. -/
  | literal (text : Text)
  | marker (index : Nat)
deriving DecidableEq, Repr

/-- The literal segment of text that has been gathered in reverse, unless there is
none. -/
def gatheredLiteral (gathered : Text) : List Segment :=
  if gathered.isEmpty then [] else [.literal (restore gathered.reverse)]

/-- What is left behind a marker is shorter than the whole. -/
theorem takeMarker?_length {text digits behind : Text}
    (taken : takeMarker? text = some (digits, behind)) : behind.length < text.length := by
  simp only [takeMarker?] at taken
  split at taken
  · rename_i rest
    have shorter := (List.dropWhile_sublist Text.isAsciiDigit (l := rest)).length_le
    split at taken
    · simp at taken
    · rename_i equation _
      obtain ⟨_, rfl⟩ := Prod.mk.inj (Option.some.inj taken)
      rw [equation] at shorter
      simp only [List.length_cons] at *
      omega
    · simp at taken
  · simp at taken

/-- The segments of a text, given the literal text in front of it in reverse. Markers
are found from left to right; one whose index is too large is literal text. -/
def splitFrom (gathered text : Text) : List Segment :=
  match text with
  | [] => gatheredLiteral gathered
  | c :: rest =>
    match taken : takeMarker? (c :: rest) with
    | none => splitFrom (c :: gathered) rest
    | some (digits, behind) =>
      have := takeMarker?_length taken
      match markerIndex? digits with
      | none => splitFrom ('x' :: digits.reverse ++ '$' :: 'x' :: gathered) behind
      | some index => gatheredLiteral gathered ++ .marker index :: splitFrom [] behind
termination_by text.length
decreasing_by all_goals (simp only [List.length_cons] at *; omega)

/-- The literal texts and markers that a text consists of, in order. -/
def split (text : Text) : List Segment :=
  splitFrom [] text

/-- The text with its dollar signs single again and every marker replaced. -/
def substitute (replace : Nat → Text) (text : Text) : Text :=
  (split text).flatMap fun
    | .literal text => text
    | .marker index => replace index

end HtmlTemplate.Skeleton
