import HtmlTemplate.Template.Source
import Mathlib.Data.List.Basic
import Mathlib.Data.List.Infix

/-!
# Braces in source text

A brace is closed by the first one behind it that leaves no brace open between the two
(`untilClosed_eq_some_iff`). Braces that are meant literally are doubled, and reading every pair
of them as one gives the text back (`singleBraces_doubleBraces`).
-/

namespace HtmlTemplate.Template

/-! ## Closed braces -/

/-- The braces of a text close exactly `depth` more than they open: in no beginning of the text do
they close more than that, and in the whole text they close all. -/
structure ClosesBraces (depth : Nat) (text : Text) : Prop where
  within : ∀ front, front <+: text → front.count '}' ≤ depth + front.count '{'
  settled : text.count '}' = depth + text.count '{'

/-- The braces of a text are balanced: as many are closed as are opened, and in no beginning of
the text are more closed than opened. -/
def IsBalanced (text : Text) : Prop :=
  ClosesBraces 0 text

/-- At the end of the text no brace may be open. -/
theorem closesBraces_nil_iff {depth : Nat} : ClosesBraces depth [] ↔ depth = 0 := by
  constructor
  · intro closes
    simpa using closes.settled.symm
  · rintro rfl
    exact ⟨fun front begins => by simp [List.prefix_nil.mp begins], rfl⟩

/-- What a text closes is counted from its first character on. -/
theorem closesBraces_cons_iff {depth : Nat} {c : Char} {rest : Text} :
    ClosesBraces depth (c :: rest) ↔
      (∀ front, front <+: rest → (c :: front).count '}' ≤ depth + (c :: front).count '{') ∧
        (c :: rest).count '}' = depth + (c :: rest).count '{' := by
  constructor
  · rintro ⟨within, settled⟩
    exact ⟨fun front begins => within (c :: front) ((List.prefix_cons_inj c).mpr begins), settled⟩
  · rintro ⟨within, settled⟩
    refine ⟨fun front begins => ?_, settled⟩
    rcases List.prefix_cons_iff.mp begins with rfl | ⟨more, rfl, further⟩
    · simp
    · exact within more further

/-- An opening brace opens one more. -/
theorem closesBraces_opening {depth : Nat} {rest : Text} :
    ClosesBraces depth ('{' :: rest) ↔ ClosesBraces (depth + 1) rest := by
  have different : ('{' : Char) ≠ '}' := by decide
  simp only [closesBraces_cons_iff, List.count_cons_self, List.count_cons_of_ne different]
  constructor
  · rintro ⟨within, settled⟩
    refine ⟨fun front begins => ?_, by omega⟩
    have bound := within front begins
    omega
  · rintro ⟨within, settled⟩
    refine ⟨fun front begins => ?_, by omega⟩
    have bound := within front begins
    omega

/-- Where no brace is open none can be closed. -/
theorem not_closesBraces_closing {rest : Text} : ¬ ClosesBraces 0 ('}' :: rest) := by
  intro closes
  have bound := closes.within ['}'] (by simp)
  simp at bound

/-- A closing brace closes one. -/
theorem closesBraces_closing {depth : Nat} {rest : Text} :
    ClosesBraces (depth + 1) ('}' :: rest) ↔ ClosesBraces depth rest := by
  have different : ('}' : Char) ≠ '{' := by decide
  simp only [closesBraces_cons_iff, List.count_cons_self, List.count_cons_of_ne different]
  constructor
  · rintro ⟨within, settled⟩
    refine ⟨fun front begins => ?_, by omega⟩
    have bound := within front begins
    omega
  · rintro ⟨within, settled⟩
    refine ⟨fun front begins => ?_, by omega⟩
    have bound := within front begins
    omega

/-- Any other character opens and closes none. -/
theorem closesBraces_other {depth : Nat} {c : Char} {rest : Text} (notOpening : c ≠ '{')
    (notClosing : c ≠ '}') : ClosesBraces depth (c :: rest) ↔ ClosesBraces depth rest := by
  rw [closesBraces_cons_iff]
  simp only [List.count_cons_of_ne notOpening, List.count_cons_of_ne notClosing]
  exact ⟨fun closes => ⟨closes.1, closes.2⟩, fun closes => ⟨closes.within, closes.settled⟩⟩

/-- Text without braces does not change what is closed behind it. -/
theorem closesBraces_append {depth : Nat} {front rest : Text}
    (plain : ∀ c ∈ front, c ≠ '{' ∧ c ≠ '}') :
    ClosesBraces depth (front ++ rest) ↔ ClosesBraces depth rest := by
  induction front with
  | nil => rfl
  | cons c front inductionHypothesis =>
    obtain ⟨notOpening, notClosing⟩ := plain c (by simp)
    rw [List.cons_append, closesBraces_other notOpening notClosing]
    exact inductionHypothesis fun d member => plain d (List.mem_cons_of_mem c member)

/-- The brace in front of a text that closes nothing more than it opens is closed behind it. -/
theorem untilClosed_append {depth : Nat} {inner : Text} (closes : ClosesBraces depth inner)
    (behind : Text) : untilClosed depth (inner ++ '}' :: behind) = some (inner, behind) := by
  induction inner generalizing depth with
  | nil =>
    obtain rfl := closesBraces_nil_iff.mp closes
    simp [untilClosed]
  | cons c inner inductionHypothesis =>
    by_cases closing : c = '}'
    · subst closing
      cases depth with
      | zero => exact absurd closes not_closesBraces_closing
      | succ depth => simp [untilClosed, inductionHypothesis (closesBraces_closing.mp closes)]
    · by_cases opening : c = '{'
      · subst opening
        simp [untilClosed, inductionHypothesis (closesBraces_opening.mp closes)]
      · have later := inductionHypothesis ((closesBraces_other opening closing).mp closes)
        simp [untilClosed, closing, opening, later]

/-- A brace is closed where what stands behind it first closes more than it opens. -/
theorem untilClosed_eq_some_iff {depth : Nat} {text inner behind : Text} :
    untilClosed depth text = some (inner, behind) ↔
      text = inner ++ '}' :: behind ∧ ClosesBraces depth inner := by
  constructor
  · intro closed
    induction text generalizing depth inner with
    | nil => cases closed
    | cons c rest inductionHypothesis =>
      have onward {next : Nat}
          (step : ∀ more, ClosesBraces next more → ClosesBraces depth (c :: more))
          (closed : (untilClosed next rest).map (fun cut => (c :: cut.1, cut.2)) =
            some (inner, behind)) :
          c :: rest = inner ++ '}' :: behind ∧ ClosesBraces depth inner := by
        obtain ⟨⟨more, _⟩, found, pair⟩ := Option.map_eq_some_iff.mp closed
        obtain ⟨rfl, rfl⟩ := Prod.mk.inj pair
        obtain ⟨rfl, closes⟩ := inductionHypothesis found
        exact ⟨rfl, step more closes⟩
      simp only [untilClosed] at closed
      split at closed
      · rename_i closing
        subst closing
        split at closed
        · obtain ⟨rfl, rfl⟩ := Prod.mk.inj (Option.some.inj closed)
          exact ⟨rfl, closesBraces_nil_iff.mpr rfl⟩
        · exact onward (fun _ => closesBraces_closing.mpr) closed
      · rename_i closing
        split at closed
        · rename_i opening
          subst opening
          exact onward (fun _ => closesBraces_opening.mpr) closed
        · rename_i opening
          exact onward (fun _ => (closesBraces_other opening closing).mpr) closed
  · rintro ⟨rfl, closes⟩
    exact untilClosed_append closes behind

/-! ## Doubled braces -/

/-- A text with every brace doubled. -/
def doubleBraces (text : Text) : Text :=
  text.flatMap fun c => if c = '{' ∨ c = '}' then [c, c] else [c]

/-- A text with every two neighbouring braces of one kind, from left to right, made one. -/
def singleBraces : Text → Text
  | '{' :: '{' :: rest => '{' :: singleBraces rest
  | '}' :: '}' :: rest => '}' :: singleBraces rest
  | c :: rest => c :: singleBraces rest
  | [] => []

/-- An empty text has no braces to double. -/
@[simp] theorem doubleBraces_nil : doubleBraces [] = [] := rfl

/-- An opening brace is doubled. -/
theorem doubleBraces_opening (rest : Text) :
    doubleBraces ('{' :: rest) = '{' :: '{' :: doubleBraces rest := by
  simp [doubleBraces]

/-- A closing brace is doubled. -/
theorem doubleBraces_closing (rest : Text) :
    doubleBraces ('}' :: rest) = '}' :: '}' :: doubleBraces rest := by
  simp [doubleBraces]

/-- Any other character stays as it is. -/
theorem doubleBraces_other {c : Char} (notOpening : c ≠ '{') (notClosing : c ≠ '}')
    (rest : Text) : doubleBraces (c :: rest) = c :: doubleBraces rest := by
  simp [doubleBraces, notOpening, notClosing]

/-- Reading every pair of braces as one undoes doubling them. -/
theorem singleBraces_doubleBraces (text : Text) : singleBraces (doubleBraces text) = text := by
  induction text with
  | nil => rfl
  | cons c rest inductionHypothesis =>
    by_cases opening : c = '{'
    · subst opening
      rw [doubleBraces_opening, singleBraces, inductionHypothesis]
    · by_cases closing : c = '}'
      · subst closing
        rw [doubleBraces_closing, singleBraces, inductionHypothesis]
      · rw [doubleBraces_other opening closing, singleBraces, inductionHypothesis]
        · exact fun _ same _ => opening same
        · exact fun _ same _ => closing same

end HtmlTemplate.Template
