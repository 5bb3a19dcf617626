import HtmlTemplate.Proofs.Braces
import Mathlib.Tactic.Common

/-!
# Sites in source text

A source text that is read without a fault consists of literal text, with its braces doubled,
and of sites between it: interpolations in braces. `parse_eq_ok_iff` says so, together with the
template that the parts are read as. In any other source there are faults between such parts
(`hasFaults_scanFrom`).
-/

namespace HtmlTemplate.Template

/-- An interpolation in a source, and the literal text up to the next one. -/
structure Site where
  /-- What stands between the braces. -/
  inner : Text
  interpolation : Interpolation
  /-- The literal text behind the braces, as it is meant. -/
  behind : Text

/-- The interpolation of a site as it stands in the source. -/
def Site.written (site : Site) : Text :=
  '{' :: site.inner ++ ['}']

/-- What stands between the braces of a site is read as its interpolation. -/
structure Site.ReadsIn (context : Dictionary Value) (site : Site) : Prop where
  /-- Two opening braces would be a literal one. -/
  single : ∀ more, site.inner ≠ '{' :: more
  balanced : IsBalanced site.inner
  read : readInterpolation context site.inner = .ok site.interpolation

/-- The source of a literal text and the sites behind it. -/
def sourceOf (text : Text) : List Site → Text
  | [] => doubleBraces text
  | site :: sites => doubleBraces text ++ site.written ++ sourceOf site.behind sites

/-- The items of a literal text and the sites behind it, with their places in a source that they
begin in at a given byte. -/
def layout (position : Nat) (text : Text) : List Site → List (Item × Span)
  | [] =>
    [(.text (.ofText text), ⟨position, position + Text.byteLength (doubleBraces text)⟩)]
  | site :: sites =>
    let start := position + Text.byteLength (doubleBraces text)
    let stop := start + Text.byteLength site.written
    (.text (.ofText text), ⟨position, start⟩) ::
      (.interpolation site.interpolation, ⟨start, stop⟩) :: layout stop site.behind sites

/-- The template of a literal text and the sites behind it. -/
def templateOf (text : Text) (sites : List Site) : Template where
  first := .ofText text
  rest := sites.map fun site => (site.interpolation, .ofText site.behind)
  spans := (layout 0 text sites).map Prod.snd

/-! ## What the parts are read as -/

section Scanning

variable (context : Dictionary Value) (position start : Nat) (gathered : Text)

theorem scanFrom_other {c : Char} (notOpening : c ≠ '{') (notClosing : c ≠ '}') (rest : Text) :
    scanFrom context position start gathered (c :: rest) =
      scanFrom context (position + c.utf8Size) start (c :: gathered) rest := by
  rw [scanFrom]
  all_goals simp [notOpening, notClosing]

/-- Literal text with its braces doubled is gathered as it is meant. -/
theorem scanFrom_doubleBraces (text rest : Text) :
    scanFrom context position start gathered (doubleBraces text ++ rest) =
      scanFrom context (position + Text.byteLength (doubleBraces text)) start
        (text.reverse ++ gathered) rest := by
  have opening : Char.utf8Size '{' = 1 := by decide
  have closing : Char.utf8Size '}' = 1 := by decide
  induction text generalizing position gathered with
  | nil => rfl
  | cons c text inductionHypothesis =>
    by_cases isOpening : c = '{'
    · subst isOpening
      rw [doubleBraces_opening, List.cons_append, List.cons_append, scanFrom, inductionHypothesis]
      simp only [Text.byteLength_cons, opening, List.reverse_cons, List.append_assoc,
        List.singleton_append]
      congr 1
      omega
    · by_cases isClosing : c = '}'
      · subst isClosing
        rw [doubleBraces_closing, List.cons_append, List.cons_append, scanFrom,
          inductionHypothesis]
        simp only [Text.byteLength_cons, closing, List.reverse_cons, List.append_assoc,
          List.singleton_append]
        congr 1
        omega
      · rw [doubleBraces_other isOpening isClosing, List.cons_append,
          scanFrom_other _ _ _ _ isOpening isClosing, inductionHypothesis]
        simp [Nat.add_assoc]

theorem byteLength_braces (inner : Text) :
    Text.byteLength ('{' :: inner ++ ['}']) = Text.byteLength inner + 2 := by
  have opening : Char.utf8Size '{' = 1 := by decide
  have closing : Char.utf8Size '}' = 1 := by decide
  simp only [Text.byteLength_cons, Text.byteLength_append, Text.byteLength_nil,
    List.cons_append, opening, closing]
  omega

/-- Balanced braces end the literal text in front of them. What stands between them is read as an
interpolation, or it is a fault. -/
theorem scanFrom_braces {inner : Text} (single : ∀ more, inner ≠ '{' :: more)
    (balanced : IsBalanced inner) (rest : Text) :
    scanFrom context position start gathered ('{' :: inner ++ ['}'] ++ rest) =
      let stop := position + Text.byteLength ('{' :: inner ++ ['}'])
      gatheredText gathered ⟨start, position⟩ ++
        (match readInterpolation context inner with
          | .ok interpolation => .interpolation interpolation ⟨position, stop⟩
          | .error fault => .fault ⟨fault, ⟨position, stop⟩⟩) ::
          scanFrom context stop stop [] rest := by
  have closed : untilClosed 0 (inner ++ '}' :: rest) = some (inner, rest) :=
    untilClosed_append balanced rest
  have whole : '{' :: inner ++ ['}'] ++ rest = '{' :: (inner ++ '}' :: rest) := by simp
  rw [whole, scanFrom]
  · congr 1
    split
    · rename_i unclosed
      rw [closed] at unclosed
      cases unclosed
    · rename_i inner behind found
      rw [closed] at found
      obtain ⟨rfl, rfl⟩ := Prod.mk.inj (Option.some.inj found)
      cases readInterpolation context inner <;> simp only [byteLength_braces, Nat.add_assoc]
  · intro more same
    cases begins : inner with
    | nil =>
      rw [begins] at same
      cases same
    | cons c inner =>
      rw [begins, List.cons_append] at same
      exact single inner (by rw [begins, (List.cons.inj same).1])

/-- A site that is read ends the literal text in front of it. -/
theorem scanFrom_site {site : Site} (reads : site.ReadsIn context) (rest : Text) :
    scanFrom context position start gathered (site.written ++ rest) =
      gatheredText gathered ⟨start, position⟩ ++
        .interpolation site.interpolation ⟨position, position + Text.byteLength site.written⟩ ::
          scanFrom context (position + Text.byteLength site.written)
            (position + Text.byteLength site.written) [] rest := by
  rw [Site.written, scanFrom_braces _ _ _ _ reads.single reads.balanced, reads.read]

end Scanning

theorem faults_append (pieces more : List Piece) :
    faults (pieces ++ more) = faults pieces ++ faults more := by
  simp [faults]

@[simp] theorem faults_gatheredText (gathered : Text) (span : Span) :
    faults (gatheredText gathered span) = [] := by
  unfold gatheredText
  split <;> rfl

@[simp] theorem faults_interpolation (interpolation : Interpolation) (span : Span)
    (pieces : List Piece) : faults (.interpolation interpolation span :: pieces) = faults pieces :=
  rfl

/-- The source of sites that are read holds no fault, and its pieces alternate between the literal
texts and the interpolations. -/
theorem alternate_scanFrom {context : Dictionary Value} (position : Nat) (text : Text)
    {sites : List Site} (read : ∀ site ∈ sites, site.ReadsIn context) :
    faults (scanFrom context position position [] (sourceOf text sites)) = [] ∧
      alternate position (scanFrom context position position [] (sourceOf text sites)) =
        layout position text sites := by
  induction sites generalizing position text with
  | nil =>
    have whole := scanFrom_doubleBraces context position position [] text []
    rw [List.append_nil, List.append_nil, scanFrom] at whole
    rw [sourceOf, whole]
    refine ⟨faults_gatheredText _ _, ?_⟩
    cases text with
    | nil => rfl
    | cons c text => simp [gatheredText, alternate, layout]
  | cons site sites inductionHypothesis =>
    have readFirst := read site (by simp)
    obtain ⟨faultless, alternates⟩ := inductionHypothesis
      (position + Text.byteLength (doubleBraces text) + Text.byteLength site.written) site.behind
      fun other member => read other (List.mem_cons_of_mem site member)
    rw [sourceOf, List.append_assoc, scanFrom_doubleBraces, scanFrom_site _ _ _ _ readFirst,
      List.append_nil]
    refine ⟨by simp [faults_append, faultless], ?_⟩
    cases text with
    | nil => simpa [gatheredText, alternate, layout, Chunk.ofText] using alternates
    | cons c text => simp [gatheredText, alternate, layout, alternates]

/-! ## The template of the parts -/

theorem ofItems_layout (position : Nat) (text : Text) (sites : List Site) :
    ofItems ((layout position text sites).map Prod.fst) =
      { first := .ofText text
        rest := sites.map fun site => (site.interpolation, .ofText site.behind) } := by
  induction sites generalizing position text with
  | nil => simp [layout, ofItems, Chunk.append, Chunk.ofText]
  | cons site sites inductionHypothesis =>
    simp [layout, ofItems, inductionHypothesis, Chunk.append, Chunk.ofText]

theorem items_templateOf (text : Text) (sites : List Site) :
    (templateOf text sites).items = (layout 0 text sites).map Prod.fst := by
  have all (position : Nat) :
      .text (.ofText text) :: sites.flatMap (fun site =>
        [.interpolation site.interpolation, .text (.ofText site.behind)]) =
        (layout position text sites).map Prod.fst := by
    induction sites generalizing position text with
    | nil => rfl
    | cons site sites inductionHypothesis =>
      simp [layout, ← inductionHypothesis]
  rw [← all 0]
  simp [items, templateOf, List.flatMap_map]

/-- The source of sites that are read is read as their template. -/
theorem parse_sourceOf {context : Dictionary Value} (text : Text) {sites : List Site}
    (read : ∀ site ∈ sites, site.ReadsIn context) :
    parse context (sourceOf text sites) = .ok (templateOf text sites) := by
  obtain ⟨faultless, alternates⟩ := alternate_scanFrom 0 text read
  have counted : ((layout 0 text sites).map Prod.snd).length =
      (templateOf text sites).items.length := by
    rw [items_templateOf, List.length_map, List.length_map]
  simp only [parse, scan, faultless, List.isEmpty_nil, if_true, alternates, ofItems_layout]
  exact congrArg Except.ok (if_pos counted)

/-! ## The parts of a source -/

/-- Literal text in front of a source stands in it with its braces doubled. -/
theorem sourceOf_append (front text : Text) (sites : List Site) :
    sourceOf (front ++ text) sites = doubleBraces front ++ sourceOf text sites := by
  cases sites <;> simp [sourceOf, doubleBraces]

/-- A source text consists of literal text and of sites that are read. -/
def Readable (context : Dictionary Value) (source : Text) : Prop :=
  ∃ text sites, source = sourceOf text sites ∧ ∀ site ∈ sites, site.ReadsIn context

/-- A part of a source text that is a fault in front of the text behind it. -/
inductive FaultAt (context : Dictionary Value) : Text → Text → SourceFault → Prop where
  /-- Two closing braces would be a literal one. -/
  | stray {rest : Text} (single : ∀ more, rest ≠ '}' :: more) :
    FaultAt context ['}'] rest .strayBrace
  /-- An interpolation that cannot be read. -/
  | unread {inner rest : Text} {fault : SourceFault} (single : ∀ more, inner ≠ '{' :: more)
    (balanced : IsBalanced inner) (read : readInterpolation context inner = .error fault) :
    FaultAt context ('{' :: inner ++ ['}']) rest fault
  /-- An interpolation that is not closed goes to the end of the source. -/
  | unclosed {inner : Text} (single : ∀ more, inner ≠ '{' :: more)
    (endless : untilClosed 0 inner = none) : FaultAt context ('{' :: inner) [] .unclosedBrace

/-- A source text from a given byte on, and the faults in it with their places: parts that are
read, and between them the faults. -/
inductive HasFaults (context : Dictionary Value) : Nat → Text → List SourceError → Prop where
  | nil {position : Nat} {source : Text} (readable : Readable context source) :
    HasFaults context position source []
  | cons {position : Nat} {front part rest : Text} {fault : SourceFault}
    {errors : List SourceError} (readable : Readable context front)
    (here : FaultAt context part rest fault)
    (behind : HasFaults context (position + Text.byteLength front + Text.byteLength part) rest
      errors) :
    HasFaults context position (front ++ part ++ rest)
      (⟨fault, ⟨position + Text.byteLength front,
        position + Text.byteLength front + Text.byteLength part⟩⟩ :: errors)

section Parts

variable {context : Dictionary Value} {part rest : Text} {fault : SourceFault} {position : Nat}
  {source : Text} {errors : List SourceError}

theorem readable_nil : Readable context [] :=
  ⟨[], [], rfl, by simp⟩

theorem Readable.literal (readable : Readable context rest) (text : Text) :
    Readable context (doubleBraces text ++ rest) := by
  obtain ⟨behind, sites, rfl, read⟩ := readable
  exact ⟨text ++ behind, sites, (sourceOf_append text behind sites).symm, read⟩

theorem Readable.site (readable : Readable context rest) {site : Site}
    (reads : site.ReadsIn context) : Readable context (site.written ++ rest) := by
  obtain ⟨behind, sites, rfl, read⟩ := readable
  refine ⟨[], { site with behind } :: sites, rfl, ?_⟩
  rintro other (_ | ⟨_, member⟩)
  · exact ⟨reads.single, reads.balanced, reads.read⟩
  · exact read other member

theorem Readable.append {front : Text} (first : Readable context front)
    (readable : Readable context rest) : Readable context (front ++ rest) := by
  obtain ⟨text, sites, rfl, read⟩ := first
  induction sites generalizing text with
  | nil => exact readable.literal text
  | cons site sites inductionHypothesis =>
    have behind := inductionHypothesis site.behind fun other member =>
      read other (List.mem_cons_of_mem site member)
    rw [sourceOf, List.append_assoc, List.append_assoc]
    exact (behind.site (read site (by simp))).literal text

/-- Text that is read stands in front of a fault or of more text that is read. -/
theorem HasFaults.prepend {front : Text} (readable : Readable context front)
    (behind : HasFaults context (position + Text.byteLength front) source errors) :
    HasFaults context position (front ++ source) errors := by
  -- In front of the first fault there is more text that is read, which takes up this one.
  generalize place : position + Text.byteLength front = next at behind
  cases behind with
  | nil further => exact .nil (readable.append further)
  | @cons _ more part rest fault errors further here behind =>
    have size : next + Text.byteLength more = position + Text.byteLength (front ++ more) := by
      rw [Text.byteLength_append, ← place, Nat.add_assoc]
    rw [size] at behind ⊢
    rw [← List.append_assoc, ← List.append_assoc]
    exact .cons (readable.append further) here behind

/-- The first fault can stand at the beginning of a source. -/
theorem FaultAt.hasFaults (here : FaultAt context part rest fault)
    (behind : HasFaults context (position + Text.byteLength part) rest errors) :
    HasFaults context position (part ++ rest)
      (⟨fault, ⟨position, position + Text.byteLength part⟩⟩ :: errors) :=
  .cons readable_nil here behind

/-- A source has the faults that are found in it. -/
theorem hasFaults_scanFrom (position start : Nat) (gathered source : Text) :
    HasFaults context position source
      (faults (scanFrom context position start gathered source)) := by
  fun_induction scanFrom context position start gathered source with
  | case1 =>
    rw [faults_gatheredText]
    exact .nil readable_nil
  | case2 position start gathered rest inductionHypothesis =>
    exact .prepend (readable_nil.literal ['{']) inductionHypothesis
  | case3 position start gathered rest inductionHypothesis =>
    exact .prepend (readable_nil.literal ['}']) inductionHypothesis
  | case4 position start gathered rest single inductionHypothesis =>
    rw [faults_append, faults_gatheredText, List.nil_append]
    split
    · rename_i endless
      have here : FaultAt context ('{' :: rest) [] .unclosedBrace := .unclosed single endless
      have whole : HasFaults context position ('{' :: rest ++ []) _ :=
        here.hasFaults (.nil readable_nil)
      rwa [List.append_nil] at whole
    · rename_i inner behind closed
      obtain ⟨parts, balanced⟩ := untilClosed_eq_some_iff.mp closed
      have unlike : ∀ more, inner ≠ '{' :: more := by
        rintro more rfl
        exact single _ parts
      have whole : '{' :: rest = '{' :: inner ++ ['}'] ++ behind := by simp [parts]
      have later := inductionHypothesis inner behind closed
      simp only [Nat.add_assoc, ← byteLength_braces] at later ⊢
      rw [whole]
      cases read : readInterpolation context inner with
      | ok interpolation =>
        let site : Site := ⟨inner, interpolation, []⟩
        have first : Readable context site.written := by
          simpa using readable_nil.site (show site.ReadsIn context from ⟨unlike, balanced, read⟩)
        exact .prepend first later
      | error fault =>
        exact FaultAt.hasFaults (.unread unlike balanced read) later
  | case5 position start gathered rest single inductionHypothesis =>
    exact FaultAt.hasFaults (.stray single) inductionHypothesis
  | case6 position start gathered c rest _ _ notOpening notClosing inductionHypothesis =>
    have first : Readable context [c] := by
      simpa [doubleBraces_other notOpening notClosing] using readable_nil.literal [c]
    exact .prepend first inductionHypothesis

/-- A source without faults is read. -/
theorem readable_of_faults_eq_nil {start : Nat} {gathered : Text}
    (faultless : faults (scanFrom context position start gathered source) = []) :
    Readable context source := by
  have parts : HasFaults context position source [] := by
    rw [← faultless]
    exact hasFaults_scanFrom position start gathered source
  cases parts with
  | nil readable => exact readable

end Parts

/-- A source is read as a template exactly if it consists of literal text and sites that are read,
and then as their template. -/
theorem parse_eq_ok_iff {context : Dictionary Value} {source : Text} {template : Template} :
    parse context source = .ok template ↔
      ∃ text sites, source = sourceOf text sites ∧ (∀ site ∈ sites, site.ReadsIn context) ∧
        template = templateOf text sites := by
  constructor
  · intro parsed
    have faultless : faults (scanFrom context 0 0 [] source) = [] := by
      by_contra faulty
      simp only [parse, scan, List.isEmpty_iff, if_neg faulty] at parsed
      cases parsed
    obtain ⟨text, sites, rfl, read⟩ := readable_of_faults_eq_nil faultless
    rw [parse_sourceOf text read] at parsed
    exact ⟨text, sites, rfl, read, (Except.ok.inj parsed).symm⟩
  · rintro ⟨text, sites, rfl, read, rfl⟩
    exact parse_sourceOf text read

end HtmlTemplate.Template
