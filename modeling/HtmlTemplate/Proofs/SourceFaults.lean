import HtmlTemplate.Proofs.Spans

/-!
# Faults in source text

A source text that cannot be read consists of parts that can be read and of faults between them
(`parse_eq_error_iff`). So every fault is found, each at its own place, and none of them changes
what the text in front of it or behind it is read as (`faultsApart_of_parse`).
-/

namespace HtmlTemplate.Template

/-! ## What is found in a source -/

section Faults

variable {context : Dictionary Value} {part rest : Text} {fault : SourceFault} {position : Nat}
  {source : Text} {errors : List SourceError}

theorem exists_parse_iff :
    (∃ template, parse context source = .ok template) ↔ Readable context source := by
  constructor
  · rintro ⟨template, parsed⟩
    obtain ⟨text, sites, parts, read, -⟩ := parse_eq_ok_iff.mp parsed
    exact ⟨text, sites, parts, read⟩
  · rintro ⟨text, sites, parts, read⟩
    exact ⟨_, parse_eq_ok_iff.mpr ⟨text, sites, parts, read, rfl⟩⟩

/-- Text that is read holds no fault, whatever stands behind it. -/
theorem Readable.faults_scanFrom {front : Text} (readable : Readable context front)
    (position start : Nat) (gathered rest : Text) :
    ∃ start' gathered', faults (scanFrom context position start gathered (front ++ rest)) =
      faults (scanFrom context (position + Text.byteLength front) start' gathered' rest) := by
  obtain ⟨text, sites, rfl, read⟩ := readable
  induction sites generalizing position start gathered text with
  | nil => exact ⟨_, _, by rw [sourceOf, scanFrom_doubleBraces]⟩
  | cons site sites inductionHypothesis =>
    obtain ⟨start', gathered', behind⟩ := inductionHypothesis
      (position + Text.byteLength (doubleBraces text) + Text.byteLength site.written)
      (position + Text.byteLength (doubleBraces text) + Text.byteLength site.written) []
      site.behind fun other member => read other (List.mem_cons_of_mem site member)
    refine ⟨start', gathered', ?_⟩
    rw [sourceOf, List.append_assoc, List.append_assoc, scanFrom_doubleBraces,
      scanFrom_site _ _ _ _ (read site (by simp)), faults_append, faults_gatheredText,
      List.nil_append, faults_interpolation, behind]
    simp only [Text.byteLength_append, Nat.add_assoc]

/-- A fault is one also if nothing stands behind it. -/
theorem FaultAt.alone (here : FaultAt context part rest fault) : FaultAt context part [] fault := by
  cases here with
  | stray single => exact .stray fun more same => nomatch same
  | unread single balanced read => exact .unread single balanced read
  | unclosed single endless => exact .unclosed single endless

theorem FaultAt.byteLength_pos (here : FaultAt context part rest fault) :
    0 < Text.byteLength part := by
  cases here <;> exact Nat.add_pos_left (Char.utf8Size_pos _) _

/-- What is wrong between two braces is never that they are not closed. -/
theorem ne_unclosedBrace_of_readInterpolation {inner : Text}
    (read : readInterpolation context inner = .error fault) : fault ≠ .unclosedBrace := by
  rintro rfl
  unfold readInterpolation at read
  split at read
  rename_i head spec _
  cases front : readHead head with
  | error fault =>
    rw [front] at read
    cases read
    unfold readHead at front
    split at front
    · cases front
    · split at front <;> cases front
  | ok pair =>
    rw [front] at read
    simp only at read
    split at read
    · cases read
    · split at read <;> cases read

/-- Nothing stands behind an interpolation that is not closed. -/
theorem FaultAt.eq_nil (here : FaultAt context part rest .unclosedBrace) : rest = [] := by
  cases here with
  | unread single balanced read => exact absurd rfl (ne_unclosedBrace_of_readInterpolation read)
  | unclosed single endless => rfl

/-- A fault is found where it stands, and reading goes on behind it. -/
theorem FaultAt.faults_scanFrom (here : FaultAt context part rest fault) (position start : Nat)
    (gathered : Text) :
    ∃ start' gathered', faults (scanFrom context position start gathered (part ++ rest)) =
      ⟨fault, ⟨position, position + Text.byteLength part⟩⟩ ::
        faults (scanFrom context (position + Text.byteLength part) start' gathered' rest) := by
  cases here with
  | stray single =>
    refine ⟨start, gathered, ?_⟩
    rw [List.singleton_append, scanFrom]
    · rfl
    · exact fun more same => single more same
  | @unread inner _ _ single balanced read =>
    refine ⟨position + Text.byteLength ('{' :: inner ++ ['}']), [], ?_⟩
    rw [scanFrom_braces _ _ _ _ single balanced, read, faults_append, faults_gatheredText]
    rfl
  | @unclosed inner single endless =>
    have pieces : scanFrom context position start gathered ('{' :: inner) =
        gatheredText gathered ⟨start, position⟩ ++
          [.fault ⟨.unclosedBrace, ⟨position, position + Text.byteLength ('{' :: inner)⟩⟩] := by
      rw [scanFrom]
      · congr 1
        split
        · rfl
        · rename_i closed
          rw [endless] at closed
          cases closed
      · exact fun more same => single more same
    refine ⟨start, [], ?_⟩
    rw [List.append_nil, pieces, faults_append, faults_gatheredText, scanFrom,
      faults_gatheredText]
    rfl

/-- The faults that a source has are found in it. -/
theorem HasFaults.faults_scanFrom (faulty : HasFaults context position source errors)
    (start : Nat) (gathered : Text) :
    faults (scanFrom context position start gathered source) = errors := by
  induction faulty generalizing start gathered with
  | @nil position source readable =>
    obtain ⟨start', gathered', found⟩ := readable.faults_scanFrom position start gathered []
    rw [List.append_nil, scanFrom, faults_gatheredText] at found
    exact found
  | @cons position front part rest fault errors readable here behind inductionHypothesis =>
    obtain ⟨_, _, found⟩ := readable.faults_scanFrom position start gathered (part ++ rest)
    obtain ⟨_, _, foundHere⟩ := here.faults_scanFrom (position + Text.byteLength front) _ _
    rw [List.append_assoc, found, foundHere, inductionHypothesis]

/-- A source cannot be read exactly if it has faults, and all of them are reported. -/
theorem parse_eq_error_iff :
    parse context source = .error errors ↔ errors ≠ [] ∧ HasFaults context 0 source errors := by
  have reported : parse context source = .error errors ↔
      errors ≠ [] ∧ faults (scanFrom context 0 0 [] source) = errors := by
    simp only [parse, scan, List.isEmpty_iff]
    split
    · rename_i faultless
      rw [faultless]
      simp
    · rename_i faulty
      constructor
      · intro parsed
        obtain rfl := Except.error.inj parsed
        exact ⟨faulty, rfl⟩
      · rintro ⟨-, rfl⟩
        rfl
  rw [reported]
  constructor
  · rintro ⟨nonempty, rfl⟩
    exact ⟨nonempty, hasFaults_scanFrom 0 0 [] source⟩
  · rintro ⟨nonempty, faulty⟩
    exact ⟨nonempty, faulty.faults_scanFrom 0 []⟩

/-! ## Faults on their own -/

/-- A place holds a part of a source that begins at a given byte. -/
def PartAt (position : Nat) (source : Text) (span : Span) (part : Text) : Prop :=
  ∃ front rest, source = front ++ part ++ rest ∧
    span = ⟨position + Text.byteLength front,
      position + Text.byteLength front + Text.byteLength part⟩

theorem PartAt.slice? {span : Span} (holds : PartAt 0 source span part) :
    span.slice? source = some part := by
  obtain ⟨front, rest, rfl, rfl⟩ := holds
  rw [Nat.zero_add]
  exact Span.slice?_append front part rest

theorem PartAt.within {span : Span} (holds : PartAt position source span part) :
    position ≤ span.start ∧ span.stop = span.start + Text.byteLength part ∧
      span.stop ≤ position + Text.byteLength source := by
  obtain ⟨front, rest, rfl, rfl⟩ := holds
  simp only [Text.byteLength_append, true_and]
  omega

/-- What is behind two parts of a source stays where it is in the whole source. -/
theorem PartAt.behind {span : Span} {front middle : Text}
    (holds : PartAt (position + Text.byteLength front + Text.byteLength middle) source span part) :
    PartAt position (front ++ middle ++ source) span part := by
  obtain ⟨more, rest, rfl, rfl⟩ := holds
  refine ⟨front ++ middle ++ more, rest, by simp, ?_⟩
  simp only [Text.byteLength_append, Nat.add_assoc]

/-- The places in front of the given ones, between them and behind them, from one byte to
another. -/
def gaps (start : Nat) (spans : List Span) (stop : Nat) : List Span :=
  match spans with
  | [] => [⟨start, stop⟩]
  | span :: more => ⟨start, span.start⟩ :: gaps span.stop more stop

/-- Every fault stands where it is reported. -/
theorem HasFaults.partAt (faulty : HasFaults context position source errors) :
    ∀ error ∈ errors, ∃ part rest, PartAt position source error.span part ∧
      FaultAt context part rest error.fault := by
  induction faulty with
  | nil readable => simp
  | @cons position front part rest fault errors readable here behind inductionHypothesis =>
    intro error member
    rcases List.mem_cons.mp member with rfl | member
    · exact ⟨part, rest, ⟨front, rest, rfl, rfl⟩, here⟩
    · obtain ⟨later, further, holds, fault⟩ := inductionHypothesis error member
      exact ⟨later, further, holds.behind, fault⟩

/-- What stands between the faults is read. -/
theorem HasFaults.readable_gaps (faulty : HasFaults context position source errors) :
    ∀ span ∈ gaps position (errors.map SourceError.span) (position + Text.byteLength source),
      ∃ part, PartAt position source span part ∧ Readable context part := by
  induction faulty with
  | @nil position source readable =>
    intro span member
    rw [List.mem_singleton.mp member]
    exact ⟨source, ⟨[], [], by simp, rfl⟩, readable⟩
  | @cons position front part rest fault errors readable here behind inductionHypothesis =>
    intro span member
    rcases List.mem_cons.mp member with rfl | member
    · exact ⟨front, ⟨[], part ++ rest, by simp, rfl⟩, readable⟩
    · rw [Text.byteLength_append, Text.byteLength_append, ← Nat.add_assoc, ← Nat.add_assoc] at member
      obtain ⟨later, holds, read⟩ := inductionHypothesis span member
      exact ⟨later, holds.behind, read⟩

/-- Alone in a source, a fault is the only one. -/
theorem FaultAt.parse_part (here : FaultAt context part rest fault) :
    parse context part = .error [⟨fault, ⟨0, Text.byteLength part⟩⟩] := by
  have whole : HasFaults context 0 (part ++ []) _ := here.alone.hasFaults (.nil readable_nil)
  rw [List.append_nil, Nat.zero_add] at whole
  exact parse_eq_error_iff.mpr ⟨List.cons_ne_nil _ _, whole⟩

/-- The faults of a source stand one behind the other. -/
theorem HasFaults.pairwise (faulty : HasFaults context position source errors) :
    errors.Pairwise fun error later => error.span.stop ≤ later.span.start := by
  induction faulty with
  | nil readable => exact .nil
  | cons readable here behind inductionHypothesis =>
    refine .cons (fun later member => ?_) inductionHypothesis
    obtain ⟨_, _, holds, _⟩ := behind.partAt later member
    exact holds.within.1

/-- Only the last fault can be an interpolation that is not closed, which goes to the end of the
source. -/
theorem HasFaults.unclosed (faulty : HasFaults context position source errors) :
    ∀ index error, errors[index]? = some error → error.fault = .unclosedBrace →
      index + 1 = errors.length ∧ error.span.stop = position + Text.byteLength source := by
  induction faulty with
  | nil readable => simp
  | @cons position front part rest fault errors readable here behind inductionHypothesis =>
    rintro (_ | index) error found unclosed
    · obtain rfl := Option.some.inj found
      obtain rfl : fault = .unclosedBrace := unclosed
      obtain rfl := here.eq_nil
      have last : errors = [] := by
        rw [← behind.faults_scanFrom 0 [], scanFrom, faults_gatheredText]
      rw [last]
      exact ⟨rfl, by simp [Nat.add_assoc]⟩
    · obtain ⟨last, stop⟩ := inductionHypothesis index error found unclosed
      exact ⟨by rw [List.length_cons, last], by simp [stop, Nat.add_assoc]⟩

end Faults

/-- The faults that are reported for a source are all that it has, and have nothing to do with one
another. -/
structure FaultsApart (context : Dictionary Value) (source : Text) (errors : List SourceError) :
    Prop where
  nonempty : errors ≠ []
  within : ∀ error ∈ errors,
    error.span.start < error.span.stop ∧ error.span.stop ≤ Text.byteLength source
  apart : errors.Pairwise fun error later => error.span.stop ≤ later.span.start
  /-- Only the last fault can be an interpolation that is not closed. -/
  unclosed : ∀ index error, errors[index]? = some error → error.fault = .unclosedBrace →
    index + 1 = errors.length ∧ error.span.stop = Text.byteLength source
  /-- What stands between the faults can be read. -/
  between : ∀ span ∈ gaps 0 (errors.map SourceError.span) (Text.byteLength source),
    ∃ part, span.slice? source = some part ∧ ∃ template, parse context part = .ok template
  /-- Alone in a source, every fault is the only one. -/
  alone : ∀ error ∈ errors, ∃ part, error.span.slice? source = some part ∧
    parse context part = .error [{ error with span := ⟨0, error.span.stop - error.span.start⟩ }]

/-- If a source cannot be read, all its faults are reported, each one as if it stood alone. -/
theorem faultsApart_of_parse {context : Dictionary Value} {source : Text}
    {errors : List SourceError} (parsed : parse context source = .error errors) :
    FaultsApart context source errors := by
  obtain ⟨nonempty, faulty⟩ := parse_eq_error_iff.mp parsed
  constructor
  case nonempty => exact nonempty
  case within =>
    intro error member
    obtain ⟨part, rest, holds, here⟩ := faulty.partAt error member
    obtain ⟨-, size, inside⟩ := holds.within
    have positive := here.byteLength_pos
    omega
  case apart => exact faulty.pairwise
  case unclosed => simpa only [Nat.zero_add] using faulty.unclosed
  case between =>
    intro span member
    rw [← Nat.zero_add (Text.byteLength source)] at member
    obtain ⟨part, holds, readable⟩ := faulty.readable_gaps span member
    exact ⟨part, holds.slice?, exists_parse_iff.mpr readable⟩
  case alone =>
    intro error member
    obtain ⟨part, rest, holds, here⟩ := faulty.partAt error member
    obtain ⟨-, size, -⟩ := holds.within
    refine ⟨part, holds.slice?, ?_⟩
    rw [here.parse_part, size, Nat.add_sub_cancel_left]

/-- Doubled braces touch a stray one and an interpolation without a value, and the last brace is
not closed; the first character takes two bytes. -/
theorem faultsApart_of_parse_touching :
    let context : Dictionary Value := [(['n'], .int 7)]
    let source : Text :=
      ['\u00e4', '}', '}', '}', '{', '{', '{', 'x', '}', '{', 'n', '}', '{']
    let errors : List SourceError := [⟨.strayBrace, ⟨4, 5⟩⟩,
      ⟨.undefinedVariable ['x'], ⟨7, 10⟩⟩, ⟨.unclosedBrace, ⟨13, 14⟩⟩]
    parse context source = .error errors ∧ FaultsApart context source errors := by
  intro context source errors
  have letter : ∀ c, c ≠ '{' → c ≠ '}' → IsBalanced [c] := fun c notOpening notClosing =>
    (closesBraces_other notOpening notClosing).mpr (closesBraces_nil_iff.mpr rfl)
  let value : Site := ⟨['n'], { expr := ['n'], source := .held (.int 7) }, []⟩
  have stray : FaultAt context ['}'] (source.drop 4) .strayBrace := .stray (by simp [source])
  have unread : FaultAt context ['{', 'x', '}'] (source.drop 9) (.undefinedVariable ['x']) :=
    .unread (by simp) (letter 'x' (by decide) (by decide)) rfl
  have unclosed : FaultAt context ['{'] [] .unclosedBrace := .unclosed (by simp) rfl
  have read : value.ReadsIn context := ⟨by simp [value], letter 'n' (by decide) (by decide), rfl⟩
  have faulty : HasFaults context 0 source errors :=
    .cons (readable_nil.literal ['\u00e4', '}']) stray <|
      .cons (readable_nil.literal ['{']) unread <|
        .cons (readable_nil.site read) unclosed (.nil readable_nil)
  have parsed := parse_eq_error_iff.mpr ⟨List.cons_ne_nil _ _, faulty⟩
  exact ⟨parsed, faultsApart_of_parse parsed⟩

end HtmlTemplate.Template
