import HtmlTemplate.Proofs.Numerals
import HtmlTemplate.Proofs.Texts
import HtmlTemplate.Skeleton.Marker
import Mathlib.Data.List.TakeWhile

/-!
# Markers in protected text

Protected text is split into itself alone, a marker behind it is found, and what a text is
split into can be computed part by part (`flatMap_split_ampersand`).
-/

namespace HtmlTemplate.Skeleton

/-- The index of a segment, if it is a marker. -/
def Segment.indices : Segment → List Nat
  | .literal _ => []
  | .marker index => [index]

/-- The indices of the markers in a text, from left to right. -/
def markers (text : Text) : List Nat :=
  (split text).flatMap Segment.indices

/-- The markers of a text are those among its segments. -/
theorem mem_markers {text : Text} {index : Nat} :
    index ∈ markers text ↔ .marker index ∈ split text := by
  simp only [markers, List.mem_flatMap]
  constructor
  · rintro ⟨segment, member, found⟩
    cases segment with
    | literal _ => cases found
    | marker index' =>
      obtain rfl := List.mem_singleton.mp found
      exact member
  · intro member
    exact ⟨.marker index, member, List.mem_singleton.mpr rfl⟩

/-! ## Where a marker begins -/

/-- A marker is a letter, a dollar sign, digits and a letter. -/
theorem takeMarker?_eq_some_iff {text digits behind : Text} :
    takeMarker? text = some (digits, behind) ↔
      text = 'x' :: '$' :: (digits ++ 'x' :: behind) ∧ digits ≠ [] ∧
        ∀ c ∈ digits, Text.isAsciiDigit c = true := by
  constructor
  · intro taken
    unfold takeMarker? at taken
    split at taken
    · rename_i rest
      have parts := List.takeWhile_append_dropWhile (p := Text.isAsciiDigit) (l := rest)
      have kept : ∀ c ∈ rest.takeWhile Text.isAsciiDigit, Text.isAsciiDigit c = true :=
        fun c member => List.mem_takeWhile_imp member
      split at taken
      · cases taken
      · rename_i stop nonempty
        obtain ⟨rfl, rfl⟩ := Prod.mk.inj (Option.some.inj taken)
        rw [stop] at parts
        exact ⟨by rw [parts], nonempty, kept⟩
      · cases taken
    · cases taken
  · rintro ⟨rfl, nonempty, kept⟩
    have letter : Text.isAsciiDigit 'x' = false := by decide
    have taken := Text.takeWhile_append_cons kept letter behind
    have left := Text.dropWhile_append_cons kept letter behind
    simp only [takeMarker?, taken, left]

/-- No marker begins where no single dollar sign stands behind a letter. -/
theorem takeMarker?_eq_none {text : Text}
    (other : ∀ c more, text = 'x' :: '$' :: c :: more → Text.isAsciiDigit c = false) :
    takeMarker? text = none := by
  rw [Option.eq_none_iff_forall_not_mem]
  rintro ⟨digits, behind⟩ taken
  obtain ⟨rfl, nonempty, kept⟩ := takeMarker?_eq_some_iff.mp taken
  cases digits with
  | nil => exact nonempty rfl
  | cons d digits =>
    have digit := kept d (by simp)
    rw [other d _ rfl] at digit
    cases digit

/-! ## Splitting -/

/-- At the end of the text the literal text is all that is left. -/
theorem splitFrom_nil (gathered : Text) : splitFrom gathered [] = gatheredLiteral gathered := by
  rw [splitFrom]

/-- A character where no marker begins is gathered. -/
theorem splitFrom_cons {c : Char} {rest : Text} (gathered : Text)
    (other : takeMarker? (c :: rest) = none) :
    splitFrom gathered (c :: rest) = splitFrom (c :: gathered) rest := by
  rw [splitFrom]
  split <;> simp_all

/-- A marker with an index that fits ends what is gathered. -/
theorem splitFrom_of_marker {text digits behind : Text} {index : Nat} (gathered : Text)
    (taken : takeMarker? text = some (digits, behind)) (read : markerIndex? digits = some index) :
    splitFrom gathered text = gatheredLiteral gathered ++ .marker index :: splitFrom [] behind := by
  cases text with
  | nil => cases taken
  | cons c rest =>
    rw [splitFrom]
    split <;> simp_all

/-- A marker with an index that does not fit is gathered as it stands. -/
theorem splitFrom_of_overflow {text digits behind : Text} (gathered : Text)
    (taken : takeMarker? text = some (digits, behind)) (read : markerIndex? digits = none) :
    splitFrom gathered text =
      splitFrom ('x' :: digits.reverse ++ '$' :: 'x' :: gathered) behind := by
  cases text with
  | nil => cases taken
  | cons c rest =>
    rw [splitFrom]
    split <;> simp_all

/-- An empty text holds nothing to protect. -/
@[simp] theorem protect_nil : protect [] = [] := rfl

/-- Texts are protected one after the other. -/
theorem protect_append (left right : Text) :
    protect (left ++ right) = protect left ++ protect right := by
  simp [protect]

/-- A dollar sign is doubled. -/
theorem protect_dollar (rest : Text) : protect ('$' :: rest) = '$' :: '$' :: protect rest := by
  simp [protect]

/-- Any other character stays as it is. -/
theorem protect_cons {c : Char} (other : c ≠ '$') (rest : Text) :
    protect (c :: rest) = c :: protect rest := by
  simp [protect, other]

/-- A text without dollar signs stays as it is. -/
theorem protect_eq_self {text : Text} (single : '$' ∉ text) : protect text = text := by
  induction text with
  | nil => rfl
  | cons c rest inductionHypothesis =>
    simp only [List.mem_cons, not_or] at single
    rw [protect_cons (Ne.symm single.1), inductionHypothesis single.2]

/-- Two dollar signs become one. -/
theorem restore_dollars (rest : Text) : restore ('$' :: '$' :: rest) = '$' :: restore rest := by
  rw [restore]

/-- A character that is no dollar sign is restored as it is. -/
theorem restore_cons {c : Char} (other : c ≠ '$') (rest : Text) :
    restore (c :: rest) = c :: restore rest := by
  rw [restore]
  rintro _ rfl
  exact absurd rfl other

/-- Restoring undoes protecting. -/
theorem restore_protect (text : Text) : restore (protect text) = text := by
  induction text with
  | nil => rfl
  | cons c rest inductionHypothesis =>
    by_cases dollar : c = '$'
    · subst dollar
      rw [protect_dollar, restore_dollars, inductionHypothesis]
    · rw [protect_cons dollar, restore_cons dollar, inductionHypothesis]

/-- Protected text is gathered as it stands, unless a dollar sign comes next. -/
theorem splitFrom_protect (gathered text : Text) {rest : Text}
    (safe : ∀ more, rest ≠ '$' :: more) :
    splitFrom gathered (protect text ++ rest) =
      splitFrom ((protect text).reverse ++ gathered) rest := by
  induction text generalizing gathered with
  | nil => simp
  | cons c text inductionHypothesis =>
    by_cases dollar : c = '$'
    · subst dollar
      have first : takeMarker? ('$' :: '$' :: (protect text ++ rest)) = none :=
        takeMarker?_eq_none (by simp)
      have second : takeMarker? ('$' :: (protect text ++ rest)) = none :=
        takeMarker?_eq_none (by simp)
      rw [protect_dollar, List.cons_append, List.cons_append, splitFrom_cons _ first,
        splitFrom_cons _ second, inductionHypothesis]
      simp
    · have other : takeMarker? (c :: (protect text ++ rest)) = none := by
        apply takeMarker?_eq_none
        intro d more same
        obtain ⟨rfl, tail⟩ := List.cons.inj same
        cases text with
        | nil => exact (safe _ tail).elim
        | cons e text =>
          by_cases single : e = '$'
          · subst single
            rw [protect_dollar] at tail
            simp only [List.cons_append, List.cons.injEq] at tail
            rw [← tail.2.1]
            decide
          · rw [protect_cons single] at tail
            exact (single (List.cons.inj tail).1).elim
      rw [protect_cons dollar, List.cons_append, splitFrom_cons _ other, inductionHypothesis]
      simp

/-- Literal text that has been gathered is one segment. -/
theorem gatheredLiteral_of_ne_nil {gathered : Text} (nonempty : gathered ≠ []) :
    gatheredLiteral gathered = [.literal (restore gathered.reverse)] := by
  simp [gatheredLiteral, nonempty]

/-- Only an empty text is protected to one. -/
theorem protect_eq_nil_iff {text : Text} : protect text = [] ↔ text = [] := by
  cases text with
  | nil => simp
  | cons c rest => by_cases dollar : c = '$' <;> simp [protect, dollar]

/-- Protected text that is not empty is split into itself alone. -/
theorem split_protect {text : Text} (nonempty : text ≠ []) :
    split (protect text) = [.literal text] := by
  have whole : splitFrom [] (protect text ++ []) = splitFrom ((protect text).reverse ++ []) [] :=
    splitFrom_protect [] text (by simp)
  rw [List.append_nil, List.append_nil, splitFrom_nil, gatheredLiteral_of_ne_nil,
    List.reverse_reverse, restore_protect] at whole
  · exact whole
  · simp [protect_eq_nil_iff, nonempty]

/-- An empty text has no segments. -/
theorem split_nil : split [] = [] := by
  rw [split, splitFrom_nil]
  rfl

/-- Text without dollar signs that is not empty is split into itself alone. -/
theorem split_eq_self {text : Text} (nonempty : text ≠ []) (single : '$' ∉ text) :
    split text = [.literal text] := by
  have whole := split_protect nonempty
  rwa [protect_eq_self single] at whole

/-! ## Written markers -/

/-- The marker of an index that fits is read as that index. -/
theorem markerIndex?_natural {index : Nat} (fits : index ≤ markerLimit) :
    markerIndex? (Decimal.natural index) = some index := by
  have read : Text.toNat? 10 (Decimal.natural index) = some index :=
    Decimal.toNat?_numeral (by decide) (by decide) index
  rw [markerIndex?, read]
  simp [Option.filter, fits]

/-- A marker behind a text without dollar signs is found. -/
theorem split_append_marker {text : Text} (single : '$' ∉ text) {index : Nat}
    (fits : index ≤ markerLimit) :
    split (text ++ marker index) = gatheredLiteral text.reverse ++ [.marker index] := by
  have taken : takeMarker? (marker index) = some (Decimal.natural index, []) :=
    takeMarker?_eq_some_iff.mpr
      ⟨rfl, Decimal.numeral_ne_nil 10 index, Decimal.isAsciiDigit_of_mem_natural index⟩
  have behind : splitFrom [] (protect text ++ marker index) =
      splitFrom ((protect text).reverse ++ []) (marker index) :=
    splitFrom_protect [] text (by simp [marker])
  rw [protect_eq_self single] at behind
  rw [split, behind, List.append_nil, splitFrom_of_marker _ taken (markerIndex?_natural fits),
    splitFrom_nil]
  rfl

/-! ## Texts in parts -/

/-- Dollar signs in front of another character are restored on their own. -/
theorem restore_append (left : Text) {right : Text} (other : ∀ more, right ≠ '$' :: more) :
    restore (left ++ right) = restore left ++ restore right := by
  fun_induction restore left with
  | case1 rest inductionHypothesis =>
    rw [List.cons_append, List.cons_append, restore_dollars, inductionHypothesis]
    rfl
  | case2 c rest apart inductionHypothesis =>
    rw [List.cons_append, restore, inductionHypothesis]
    · rfl
    · rintro more rfl same
      cases rest with
      | nil => exact other more same
      | cons d rest =>
        obtain ⟨rfl, _⟩ := List.cons.inj same
        exact apart rest rfl rfl
  | case3 => rfl

variable {α : Type} {give : Segment → List α}

/-- Something that segments give is additive if a literal text gives what its parts give. -/
def Segment.IsAdditive (give : Segment → List α) : Prop :=
  ∀ left right, give (.literal (left ++ right)) = give (.literal left) ++ give (.literal right)

/-- Gathered text gives what its literal text gives, also if there is none. -/
theorem flatMap_gatheredLiteral (give : Segment → List α) (additive : Segment.IsAdditive give)
    (gathered : Text) :
    (gatheredLiteral gathered).flatMap give = give (.literal (restore gathered.reverse)) := by
  cases gathered with
  | nil =>
    have twice := additive [] []
    have nothing : give (.literal []) = [] := by simpa using twice
    exact nothing.symm
  | cons c gathered => simp [gatheredLiteral]

/-- What was gathered earlier adds what it gives itself, if no dollar sign comes next. -/
theorem flatMap_splitFrom_append (additive : Segment.IsAdditive give)
    (earlier gathered text : Text) (other : ∀ more, gathered.reverse ++ text ≠ '$' :: more) :
    (splitFrom (gathered ++ earlier) text).flatMap give =
      give (.literal (restore earlier.reverse)) ++ (splitFrom gathered text).flatMap give := by
  have apart (gathered text : Text) (other : ∀ more, gathered.reverse ++ text ≠ '$' :: more) :
      (gatheredLiteral (gathered ++ earlier)).flatMap give =
        give (.literal (restore earlier.reverse)) ++ (gatheredLiteral gathered).flatMap give := by
    have single : ∀ more, gathered.reverse ≠ '$' :: more := by
      intro more same
      exact other (more ++ text) (by rw [same, List.cons_append])
    rw [flatMap_gatheredLiteral give additive, flatMap_gatheredLiteral give additive,
      List.reverse_append, restore_append _ single, additive]
  fun_induction splitFrom gathered text with
  | case1 gathered =>
    rw [splitFrom_nil]
    exact apart gathered [] other
  | case2 gathered c rest unmarked inductionHypothesis =>
    rw [splitFrom_cons _ unmarked]
    exact inductionHypothesis (by simpa using other)
  | case3 gathered c rest digits behind taken _ overflow inductionHypothesis =>
    rw [splitFrom_of_overflow _ taken overflow]
    have whole := (takeMarker?_eq_some_iff.mp taken).1
    have kept := inductionHypothesis (by simpa [whole] using other)
    simpa using kept
  | case4 gathered c rest digits behind taken _ index read inductionHypothesis =>
    rw [splitFrom_of_marker _ taken read, List.flatMap_append, List.flatMap_append,
      apart gathered (c :: rest) other, List.append_assoc]

/-- No marker holds an ampersand, so that one in front of an ampersand can be taken
without what stands behind it. -/
theorem takeMarker?_append_ampersand (text behind : Text) :
    takeMarker? (text ++ '&' :: behind) =
      (takeMarker? text).map fun (digits, rest) => (digits, rest ++ '&' :: behind) := by
  cases taken : takeMarker? text with
  | some found =>
    obtain ⟨digits, rest⟩ := found
    obtain ⟨rfl, nonempty, kept⟩ := takeMarker?_eq_some_iff.mp taken
    exact takeMarker?_eq_some_iff.mpr ⟨by simp, nonempty, kept⟩
  | none =>
    rw [Option.map_none, Option.eq_none_iff_forall_not_mem]
    rintro ⟨digits, rest⟩ takenMore
    obtain ⟨whole, nonempty, kept⟩ := takeMarker?_eq_some_iff.mp takenMore
    have spelled : text ++ '&' :: behind = ('x' :: '$' :: (digits ++ ['x'])) ++ rest := by
      simpa using whole
    have absent : '&' ∉ 'x' :: '$' :: (digits ++ ['x']) := by
      intro member
      have digit : '&' ∈ digits := by simpa using member
      exact absurd (kept '&' digit) (by decide)
    have inside (front : Text) : text ≠ 'x' :: '$' :: (digits ++ ['x']) ++ front := by
      rintro rfl
      have found : takeMarker? ('x' :: '$' :: (digits ++ ['x']) ++ front) = some (digits, front) :=
        takeMarker?_eq_some_iff.mpr ⟨by simp, nonempty, kept⟩
      rw [found] at taken
      cases taken
    rcases List.append_eq_append_iff.mp spelled with ⟨front, more, rest⟩ | ⟨front, more, _⟩
    · cases front with
      | nil => exact inside [] (by simpa using more.symm)
      | cons c front =>
        obtain ⟨rfl, _⟩ := List.cons.inj rest
        exact absent (by simp [more])
    · exact inside front more

/-- No marker goes over an ampersand, so the text can be split there. -/
theorem flatMap_splitFrom_ampersand (additive : Segment.IsAdditive give)
    (gathered text behind : Text) :
    (splitFrom gathered (text ++ '&' :: behind)).flatMap give =
      (splitFrom gathered text).flatMap give ++ (split ('&' :: behind)).flatMap give := by
  fun_induction splitFrom gathered text with
  | case1 gathered =>
    have apart := flatMap_splitFrom_append additive gathered [] ('&' :: behind) (by simp)
    rw [List.nil_append] at apart
    rw [flatMap_gatheredLiteral give additive, List.nil_append, apart, split]
  | case2 gathered c rest unmarked inductionHypothesis =>
    have unmarkedMore : takeMarker? (c :: (rest ++ '&' :: behind)) = none := by
      rw [← List.cons_append, takeMarker?_append_ampersand, unmarked]
      rfl
    rw [List.cons_append, splitFrom_cons _ unmarkedMore]
    exact inductionHypothesis
  | case3 gathered c rest digits rest' taken _ overflow inductionHypothesis =>
    have takenMore := takeMarker?_append_ampersand (c :: rest) behind
    rw [taken] at takenMore
    rw [splitFrom_of_overflow _ takenMore overflow]
    exact inductionHypothesis
  | case4 gathered c rest digits rest' taken _ index read inductionHypothesis =>
    have takenMore := takeMarker?_append_ampersand (c :: rest) behind
    rw [taken] at takenMore
    rw [splitFrom_of_marker _ takenMore read]
    simp [inductionHypothesis]

/-- What stands in front of an ampersand and what stands behind it give what they give
themselves. -/
theorem flatMap_split_ampersand (additive : Segment.IsAdditive give) (text behind : Text) :
    (split (text ++ '&' :: behind)).flatMap give =
      (split text).flatMap give ++ (split ('&' :: behind)).flatMap give :=
  flatMap_splitFrom_ampersand additive [] text behind

/-! ## Replaced markers -/

/-- The text of a segment, where markers are replaced. -/
def Segment.replaced (replace : Nat → Text) : Segment → Text
  | .literal text => text
  | .marker index => replace index

/-- Substituting replaces the segments one by one. -/
theorem substitute_eq_flatMap (replace : Nat → Text) (text : Text) :
    substitute replace text = (split text).flatMap (Segment.replaced replace) := by
  rw [substitute]
  congr 1

/-- Without markers a text is restored whole. -/
theorem flatMap_splitFrom_of_unmarked (replace : Nat → Text) {gathered text : Text}
    (unmarked : (splitFrom gathered text).flatMap Segment.indices = []) :
    (splitFrom gathered text).flatMap (Segment.replaced replace) =
      restore (gathered.reverse ++ text) := by
  fun_induction splitFrom gathered text with
  | case1 gathered =>
    rw [flatMap_gatheredLiteral _ (fun _ _ => rfl), List.append_nil]
    rfl
  | case2 gathered c rest _ inductionHypothesis => simpa using inductionHypothesis unmarked
  | case3 gathered c rest digits behind taken _ _ inductionHypothesis =>
    rw [(takeMarker?_eq_some_iff.mp taken).1]
    simpa using inductionHypothesis unmarked
  | case4 gathered c rest digits behind taken _ index _ _ =>
    simp [Segment.indices] at unmarked

/-- A text without markers is one segment, unless it is empty. -/
theorem split_of_unmarked {text : Text} (unmarked : markers text = []) :
    split text = gatheredLiteral text.reverse := by
  have whole (gathered text : Text)
      (unmarked : (splitFrom gathered text).flatMap Segment.indices = []) :
      splitFrom gathered text = gatheredLiteral (text.reverse ++ gathered) := by
    fun_induction splitFrom gathered text with
    | case1 gathered => rfl
    | case2 gathered c rest _ inductionHypothesis => simpa using inductionHypothesis unmarked
    | case3 gathered c rest digits behind taken _ _ inductionHypothesis =>
      rw [(takeMarker?_eq_some_iff.mp taken).1]
      simpa using inductionHypothesis unmarked
    | case4 gathered c rest digits behind taken _ index _ _ =>
      simp [Segment.indices] at unmarked
  rw [split, whole [] text unmarked, List.append_nil]

/-- Restoring leaves no dollar sign only if there was none, and then nothing changes. -/
theorem restore_eq_self {text : Text} (single : '$' ∉ restore text) : restore text = text := by
  fun_induction restore text with
  | case1 rest _ => simp at single
  | case2 c rest _ inductionHypothesis =>
    rw [inductionHypothesis fun member => single (List.mem_cons_of_mem c member)]
  | case3 => rfl

/-- Only an empty text is restored to one. -/
theorem restore_eq_nil_iff {text : Text} : restore text = [] ↔ text = [] := by
  fun_cases restore text <;> simp

/-- A text without markers gives its restored form alone. -/
theorem substitute_of_unmarked (replace : Nat → Text) {text : Text} (unmarked : markers text = []) :
    substitute replace text = restore text := by
  rw [substitute_eq_flatMap]
  exact flatMap_splitFrom_of_unmarked replace unmarked

/-- A marker is restored with its letters, and its dollar sign is not doubled. -/
theorem restore_append_marker (before digits behind : Text) :
    restore (before ++ 'x' :: '$' :: (digits ++ 'x' :: behind)) =
      restore before ++ 'x' :: (restore ('$' :: digits) ++ 'x' :: restore behind) := by
  have letter : ('x' : Char) ≠ '$' := by decide
  rw [restore_append _ (by simp), restore_cons letter, ← List.cons_append,
    restore_append _ (by simp), restore_cons letter]

/-- A text is at least as long as its literal text and the number of its markers. -/
theorem length_flatMap_splitFrom_le (gathered text : Text) :
    ((splitFrom gathered text).flatMap (Segment.replaced fun _ => [])).length +
        ((splitFrom gathered text).flatMap Segment.indices).length ≤
      (restore (gathered.reverse ++ text)).length := by
  fun_induction splitFrom gathered text with
  | case1 gathered =>
    rw [flatMap_gatheredLiteral _ (fun _ _ => rfl), flatMap_gatheredLiteral _ (fun _ _ => rfl),
      List.append_nil]
    exact Nat.le_refl _
  | case2 gathered c rest _ inductionHypothesis => simpa using inductionHypothesis
  | case3 gathered c rest digits behind taken _ _ inductionHypothesis =>
    rw [(takeMarker?_eq_some_iff.mp taken).1]
    simpa using inductionHypothesis
  | case4 gathered c rest digits behind taken _ index _ inductionHypothesis =>
    rw [(takeMarker?_eq_some_iff.mp taken).1, restore_append_marker]
    simp only [List.flatMap_append, List.flatMap_cons, List.length_append, List.length_cons,
      flatMap_gatheredLiteral Segment.indices (fun _ _ => rfl),
      flatMap_gatheredLiteral (Segment.replaced fun _ => []) (fun _ _ => rfl),
      Segment.indices, Segment.replaced, List.length_nil] at inductionHypothesis ⊢
    simp only [List.reverse_nil, List.nil_append] at inductionHypothesis
    omega

/-- Every marker that is left out makes a text shorter than its restored form. -/
theorem length_substitute_le (text : Text) :
    (substitute (fun _ => []) text).length + (markers text).length ≤ (restore text).length := by
  rw [substitute_eq_flatMap]
  exact length_flatMap_splitFrom_le [] text

end HtmlTemplate.Skeleton
