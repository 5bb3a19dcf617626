import HtmlTemplate.Proofs.Markers

/-!
# Segments are read back

Segments are written one behind the other, each literal text protected and each marker as it
is. `split_writtenSegments` reads them back, but for what cannot be seen in the text: where one
literal text ends and the next begins, and where there is an empty one.
-/

namespace HtmlTemplate.Skeleton

/-- A segment as it is written among others. -/
def Segment.written : Segment → Text
  | .literal text => protect text
  | .marker index => Skeleton.marker index

/-- A literal text in front of some segments. It is left out if it is empty, and becomes one
with a literal text that comes next. -/
def consLiteral (text : Text) : List Segment → List Segment
  | .literal next :: rest => .literal (text ++ next) :: rest
  | segments => if text.isEmpty then segments else .literal text :: segments

/-- Segments with neighbouring literal texts joined and empty ones left out. -/
def joinLiterals : List Segment → List Segment
  | [] => []
  | .literal text :: rest => consLiteral text (joinLiterals rest)
  | .marker index :: rest => .marker index :: joinLiterals rest

/-! ## Joined literal texts -/

/-- An empty literal is no segment. -/
@[simp] theorem consLiteral_nil (segments : List Segment) : consLiteral [] segments = segments := by
  fun_cases consLiteral [] segments <;> simp_all

/-- Two literal texts in front of some segments are one. -/
theorem consLiteral_consLiteral (first second : Text) (segments : List Segment) :
    consLiteral first (consLiteral second segments) = consLiteral (first ++ second) segments := by
  cases second with
  | nil => rw [consLiteral_nil, List.append_nil]
  | cons c second =>
    cases segments with
    | nil => simp [consLiteral]
    | cons segment rest => cases segment <;> simp [consLiteral]

/-- In front of a marker a literal text is what has been gathered of it. -/
theorem consLiteral_marker (text : Text) (index : Nat) (rest : List Segment) :
    consLiteral text (.marker index :: rest) =
      gatheredLiteral (protect text).reverse ++ .marker index :: rest := by
  by_cases empty : text = []
  · subst empty
    rfl
  · rw [gatheredLiteral_of_ne_nil (by simpa [protect_eq_nil_iff] using empty),
      List.reverse_reverse, restore_protect]
    simp [consLiteral, empty]

/-- What segments give does not depend on where their literal texts are cut. -/
theorem flatMap_joinLiterals {α : Type} {give : Segment → List α}
    (additive : Segment.IsAdditive give) (segments : List Segment) :
    (joinLiterals segments).flatMap give = segments.flatMap give := by
  have nothing : give (.literal []) = [] := by simpa using additive [] []
  have front (text : Text) (segments : List Segment) :
      (consLiteral text segments).flatMap give = give (.literal text) ++ segments.flatMap give := by
    fun_cases consLiteral text segments with
    | case1 next rest => simp [additive text next]
    | case2 =>
      rename_i empty _
      simp [List.isEmpty_iff.mp empty, nothing]
    | case3 => simp
  induction segments with
  | nil => rfl
  | cons segment rest inductionHypothesis =>
    cases segment with
    | literal text => rw [joinLiterals, front, inductionHypothesis, List.flatMap_cons]
    | marker index =>
      rw [joinLiterals, List.flatMap_cons, inductionHypothesis, List.flatMap_cons]

/-! ## Reading back -/

/-- A marker that fits ends what is gathered in front of it. -/
theorem splitFrom_marker {index : Nat} (fits : index ≤ markerLimit) (gathered behind : Text) :
    splitFrom gathered (marker index ++ behind) =
      gatheredLiteral gathered ++ .marker index :: split behind := by
  have taken : takeMarker? (marker index ++ behind) = some (Decimal.natural index, behind) :=
    takeMarker?_eq_some_iff.mpr
      ⟨by simp [marker], Decimal.numeral_ne_nil 10 index, Decimal.isAsciiDigit_of_mem_natural index⟩
  rw [splitFrom_of_marker gathered taken (markerIndex?_natural fits), split]

/-- Protected text in front of written segments is a literal text in front of them. The
neighbouring literal texts are taken together first: a text that ends with a letter `x` is
protected alone, but the dollar sign of the next one stands behind the letter. -/
theorem split_protect_append (text : Text) {segments : List Segment}
    (fit : ∀ index, .marker index ∈ segments → index ≤ markerLimit) :
    split (protect text ++ segments.flatMap Segment.written) =
      consLiteral text (joinLiterals segments) := by
  induction segments generalizing text with
  | nil =>
    by_cases empty : text = []
    · subst empty
      exact split_nil
    · simp [joinLiterals, consLiteral, empty, split_protect empty]
  | cons segment rest inductionHypothesis =>
    have fitRest : ∀ index, .marker index ∈ rest → index ≤ markerLimit :=
      fun index member => fit index (List.mem_cons_of_mem segment member)
    cases segment with
    | literal next =>
      rw [List.flatMap_cons, Segment.written, ← List.append_assoc, ← protect_append,
        inductionHypothesis (text ++ next) fitRest, joinLiterals, consLiteral_consLiteral]
    | marker index =>
      have behind := inductionHypothesis [] fitRest
      rw [protect_nil, List.nil_append, consLiteral_nil] at behind
      rw [List.flatMap_cons, Segment.written, split,
        splitFrom_protect [] text (by simp [marker]), splitFrom_marker (fit index (by simp)),
        behind, List.append_nil, joinLiterals, consLiteral_marker]

/-- Segments that are written are found again, with neighbouring literals as one. -/
theorem split_flatMap_written {segments : List Segment}
    (fit : ∀ index, .marker index ∈ segments → index ≤ markerLimit) :
    split (segments.flatMap Segment.written) = joinLiterals segments := by
  have front := split_protect_append [] fit
  rwa [protect_nil, List.nil_append, consLiteral_nil] at front

/-- In segments that are written exactly their markers are replaced. -/
theorem substitute_flatMap_written {segments : List Segment}
    (fit : ∀ index, .marker index ∈ segments → index ≤ markerLimit) (replace : Nat → Text) :
    substitute replace (segments.flatMap Segment.written) =
      segments.flatMap (Segment.replaced replace) := by
  have additive : Segment.IsAdditive (Segment.replaced replace) := fun _ _ => rfl
  rw [substitute_eq_flatMap, split_flatMap_written fit, flatMap_joinLiterals additive]

/-- Written segments are read back with neighbouring literal texts joined and empty ones left
out, and replacing the markers in what is written replaces the markers among the segments. -/
theorem split_writtenSegments (segments : List Segment)
    (fit : ∀ index, .marker index ∈ segments → index ≤ markerLimit) :
    split (segments.flatMap Segment.written) = joinLiterals segments ∧
      ∀ replace : Nat → Text, substitute replace (segments.flatMap Segment.written) =
        segments.flatMap fun
          | .literal text => text
          | .marker index => replace index := by
  refine ⟨split_flatMap_written fit, fun replace => ?_⟩
  rw [substitute_flatMap_written fit replace]
  congr 1

/-- A literal text that looks like a marker, written in two parts, is not taken for one, also
where it stands beside two markers that touch. -/
theorem split_writtenSegments_lookalike :
    let segments : List Segment :=
      [.literal ['x'], .literal ['$', '1', 'x'], .marker 7, .literal [], .marker markerLimit]
    (∀ index, .marker index ∈ segments → index ≤ markerLimit) ∧
      split (segments.flatMap Segment.written) =
        [.literal ['x', '$', '1', 'x'], .marker 7, .marker markerLimit] ∧
      substitute (fun _ => ['y']) (segments.flatMap Segment.written) =
        ['x', '$', '1', 'x', 'y', 'y'] := by
  intro segments
  have fit : ∀ index, .marker index ∈ segments → index ≤ markerLimit := by
    simp [segments, markerLimit]
  obtain ⟨back, replaced⟩ := split_writtenSegments segments fit
  exact ⟨fit, back, replaced fun _ => ['y']⟩

end HtmlTemplate.Skeleton
