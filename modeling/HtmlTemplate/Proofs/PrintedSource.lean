import HtmlTemplate.Proofs.Sites
import HtmlTemplate.Proofs.Texts

/-!
# Printed templates are read back

A template is printed as source text: the braces of its texts are doubled, and every interpolation
is written in braces. `parse_printed` reads the source back, provided that the interpolations
hold what their paths lead to and that no specifier closes a brace of its interpolation.
-/

namespace HtmlTemplate

namespace Template

/-- The source that a template is printed as. -/
def printed (template : Template) : Text :=
  doubleBraces template.first.decoded ++
    template.rest.flatMap fun (interpolation, chunk) =>
      interpolation.written ++ doubleBraces chunk.decoded

/-! ## Paths -/

/-- Whether a character can stand in a dotted path. -/
def isPathChar (c : Char) : Bool :=
  Text.isAlphanumeric c || Text.isAsciiDigit c || c = '_' || c = '.'

theorem isPathChar_of_isName {name : Text} (valid : isName name = true) :
    ∀ c ∈ name, isPathChar c = true := by
  cases name with
  | nil => cases valid
  | cons first rest =>
    simp only [isName, Bool.and_eq_true, Bool.or_eq_true, decide_eq_true_eq,
      List.all_eq_true] at valid
    intro c member
    simp only [isPathChar, Bool.or_eq_true, decide_eq_true_eq]
    rcases List.mem_cons.mp member with rfl | member
    · rcases valid.1 with letter | underscore
      · have alphanumeric : Text.isAlphanumeric c = true := by
          rw [Text.isAlphanumeric, Bool.or_eq_true]
          exact .inl letter
        exact .inl (.inl (.inl alphanumeric))
      · exact .inl (.inr underscore)
    · rcases valid.2 c member with alphanumeric | underscore
      · exact .inl (.inl (.inl alphanumeric))
      · exact .inl (.inr underscore)

theorem isPathChar_of_isIndex {segment : Text} (valid : isIndex segment = true) :
    ∀ c ∈ segment, isPathChar c = true := by
  simp only [isIndex, Bool.and_eq_true, List.all_eq_true] at valid
  intro c member
  simp [isPathChar, valid.2 c member]

/-- A dotted path consists of characters of a path, and there is one. -/
theorem of_isPath {path : Text} (valid : isPath path = true) :
    path ≠ [] ∧ ∀ c ∈ path, isPathChar c = true := by
  constructor
  · rintro rfl
    cases valid
  · intro c member
    unfold isPath at valid
    split at valid
    · cases valid
    · rename_i first rest pieces
      simp only [Bool.and_eq_true, List.all_eq_true, Bool.or_eq_true] at valid
      have located : c = '.' ∨ ∃ piece ∈ Text.splitOn '.' path, c ∈ piece :=
        Text.eq_or_exists_mem_splitOn member
      rcases located with rfl | ⟨piece, among, within⟩
      · decide
      · rw [pieces] at among
        rcases List.mem_cons.mp among with rfl | among
        · exact isPathChar_of_isName valid.1 c within
        · rcases valid.2 piece among with name | index
          · exact isPathChar_of_isName name c within
          · exact isPathChar_of_isIndex index c within

/-- The signs that an interpolation is written with stand in no path. -/
theorem not_mem_of_isPath {path : Text} (valid : isPath path = true) :
    ∀ mark ∈ ['{', '}', ':', '!'], mark ∉ path := by
  have foreign : ['{', '}', ':', '!'].all (fun mark => !isPathChar mark) = true := by
    decide
  intro mark sign member
  have apart := List.all_eq_true.mp foreign mark sign
  rw [(of_isPath valid).2 mark member] at apart
  cases apart

/-- A path is left as it is when it is trimmed. -/
theorem trim_of_isPath {path : Text} (valid : isPath path = true) : Text.trim path = path :=
  Text.trim_eq_self fun c member =>
    Text.isBlank_of_forall (by decide +kernel) ((of_isPath valid).2 c member)

/-! ## Interpolations -/

/-- A conversion as it is written behind a path. -/
def writtenConversion : Option Format.Conversion → Text
  | some conversion => ['!', conversion.char]
  | none => []

/-- A specifier as it is written behind a path and a conversion. -/
def writtenSpec : Option Text → Text
  | some spec => ':' :: spec
  | none => []

theorem written_eq (interpolation : Interpolation) :
    interpolation.written = '{' :: (interpolation.expr ++
      writtenConversion interpolation.conversion ++ writtenSpec interpolation.spec) ++ ['}'] := by
  rcases interpolation with ⟨expr, source, _ | conversion, _ | spec⟩ <;>
    simp [Interpolation.written, writtenConversion, writtenSpec]

/-- A path and a conversion behind it are read back. -/
theorem readHead_written {path : Text} (valid : isPath path = true)
    (conversion : Option Format.Conversion) :
    readHead (path ++ writtenConversion conversion) = .ok (path, conversion) := by
  have absent : '!' ∉ path := not_mem_of_isPath valid '!' (by simp)
  cases conversion with
  | none =>
    have alone : Text.splitOnce '!' path = none := Text.splitOnce_eq_none_iff.mpr absent
    simp [readHead, writtenConversion, alone, trim_of_isPath valid]
  | some conversion =>
    have parts : Text.splitOnce '!' (path ++ ['!', conversion.char]) =
        some (path, [conversion.char]) :=
      Text.splitOnce_eq_some_iff.mpr ⟨rfl, absent⟩
    have read : readConversion? [conversion.char] = some conversion := by
      cases conversion <;> decide
    simp [readHead, writtenConversion, parts, read, trim_of_isPath valid]

/-- What an interpolation with a path is written as is read as that interpolation, holding what
the path leads to. -/
theorem readInterpolation_written {context : Dictionary Value} {path : Text} {value : Value}
    (valid : isPath path = true) (found : lookup? context path = some value)
    (conversion : Option Format.Conversion) (spec : Option Text) :
    readInterpolation context
        (path ++ writtenConversion conversion ++ writtenSpec spec) =
      .ok { expr := path, source := .held value, conversion, spec } := by
  have absent : ':' ∉ path ++ writtenConversion conversion := by
    have outside : ':' ∉ path := not_mem_of_isPath valid ':' (by simp)
    rcases conversion with _ | _ | _ | _ <;>
      simpa [writtenConversion, Format.Conversion.char] using outside
  cases spec with
  | none =>
    have alone := Text.splitOnce_eq_none_iff.mpr absent
    simp [readInterpolation, writtenSpec, alone, readHead_written valid, valid, found]
  | some spec =>
    have parts : Text.splitOnce ':' (path ++ writtenConversion conversion ++ ':' :: spec) =
        some (path ++ writtenConversion conversion, spec) :=
      Text.splitOnce_eq_some_iff.mpr ⟨rfl, absent⟩
    simp only [readInterpolation, writtenSpec, parts, readHead_written valid, valid, found]
    rfl

/-- Only the specifier of an interpolation with a path can hold braces. -/
theorem isBalanced_written {path : Text} (valid : isPath path = true)
    (conversion : Option Format.Conversion) {spec : Option Text}
    (balanced : ∀ text, spec = some text → IsBalanced text) :
    IsBalanced (path ++ writtenConversion conversion ++ writtenSpec spec) := by
  have signs := not_mem_of_isPath valid
  have plain : ∀ c ∈ path ++ writtenConversion conversion, c ≠ '{' ∧ c ≠ '}' := by
    intro c member
    rcases List.mem_append.mp member with member | member
    · exact ⟨fun same => signs '{' (by simp) (same ▸ member),
        fun same => signs '}' (by simp) (same ▸ member)⟩
    · have all : ∀ conversion : Option Format.Conversion,
          ∀ c ∈ writtenConversion conversion, c ≠ '{' ∧ c ≠ '}' := by
        rintro (_ | _ | _ | _) <;> simp [writtenConversion, Format.Conversion.char]
      exact all conversion c member
  rw [IsBalanced, closesBraces_append plain]
  cases spec with
  | none => exact closesBraces_nil_iff.mpr rfl
  | some text =>
    exact (closesBraces_other (by decide) (by decide)).mpr (balanced text rfl)

/-! ## Templates -/

variable {σ : Type} (host : Host σ) (state : σ)

/-- An interpolation of a template and the text behind it, as they stand in the printed source.
The interpolation holds the value that it has now. -/
def siteOf (place : Interpolation × Chunk) : Site where
  inner := place.1.expr ++ writtenConversion place.1.conversion ++ writtenSpec place.1.spec
  interpolation := (place.1.snapshot host state).1
  behind := place.2.decoded

theorem printed_eq (template : Template) :
    template.printed = sourceOf template.first.decoded (template.rest.map (siteOf host state)) := by
  obtain ⟨first, rest, spans⟩ := template
  simp only [printed]
  induction rest generalizing first with
  | nil => simp [sourceOf]
  | cons place rest inductionHypothesis =>
    have later := inductionHypothesis place.2
    simp only [List.map_cons, sourceOf, List.flatMap_cons, written_eq, Site.written,
      siteOf] at later ⊢
    rw [← later]
    simp

/-- An interpolation that holds what its path leads to is read back. -/
theorem siteOf_readsIn {context : Dictionary Value} {place : Interpolation × Chunk}
    (valid : isPath place.1.expr = true)
    (found : lookup? context place.1.expr = some (place.1.value host state).1)
    (balanced : ∀ text, place.1.spec = some text → IsBalanced text) :
    (siteOf host state place).ReadsIn context where
  single := by
    intro more begins
    have nonempty := (of_isPath valid).1
    have absent := not_mem_of_isPath valid '{' (by simp)
    cases path : place.1.expr with
    | nil => exact nonempty path
    | cons c rest =>
      simp only [siteOf, path, List.cons_append, List.cons.injEq] at begins
      rw [path, begins.1] at absent
      simp at absent
  balanced := isBalanced_written valid place.1.conversion balanced
  read := readInterpolation_written valid found place.1.conversion place.1.spec

/-- A printed template is read back: the texts are the same, and so are the interpolations, which
hold the values that they had. -/
theorem parse_printed {context : Dictionary Value} (template : Template)
    (found : ∀ interpolation ∈ template.interpolations, isPath interpolation.expr = true ∧
      lookup? context interpolation.expr = some (interpolation.value host state).1)
    (balanced : ∀ interpolation ∈ template.interpolations, ∀ spec,
      interpolation.spec = some spec → IsBalanced spec) :
    ∃ parsed, parse context template.printed = .ok parsed ∧
      parsed.chunks = template.chunks.map (fun chunk => .ofText chunk.decoded) ∧
      parsed.interpolations =
        template.interpolations.map fun interpolation => (interpolation.snapshot host state).1 := by
  have read : ∀ site ∈ template.rest.map (siteOf host state), site.ReadsIn context := by
    intro site member
    obtain ⟨place, among, rfl⟩ := List.mem_map.mp member
    have listed : place.1 ∈ template.interpolations := List.mem_map_of_mem among
    exact siteOf_readsIn host state (found _ listed).1 (found _ listed).2 (balanced _ listed)
  refine ⟨_, by rw [printed_eq host state]; exact parse_sourceOf _ read, ?_, ?_⟩
  · simp [chunks, templateOf, siteOf]
  · simp [interpolations, templateOf, siteOf]

/-- Doubled braces stand beside the braces of an interpolation with braces in its specifier. -/
theorem parse_printed_nested :
    let context : Dictionary Value := [(['n'], .int 7), (['u'], .map [(['a'], .text ['x'])])]
    let first : Interpolation :=
      { expr := ['n'], source := .held (.int 7), conversion := some .repr
        spec := some ['{', '>', '}'] }
    let second : Interpolation :=
      { expr := ['u', '.', 'a'], source := .held (.text ['x']), spec := some [] }
    let template : Template :=
      { first := .ofText ['{'], rest := [(first, .ofText ['}']), (second, {})] }
    (∀ interpolation ∈ template.interpolations, isPath interpolation.expr = true ∧
        lookup? context interpolation.expr = some (interpolation.value Host.none ()).1) ∧
      (∀ interpolation ∈ template.interpolations, ∀ spec,
        interpolation.spec = some spec → IsBalanced spec) ∧
      ∃ parsed, parse context ['{', '{', '{', 'n', '!', 'r', ':', '{', '>', '}', '}', '}', '}',
          '{', 'u', '.', 'a', ':', '}'] = .ok parsed ∧
        parsed.chunks = [.ofText ['{'], .ofText ['}'], {}] ∧
        parsed.interpolations = [first, second] := by
  intro context first second template
  have found : ∀ interpolation ∈ template.interpolations, isPath interpolation.expr = true ∧
      lookup? context interpolation.expr = some (interpolation.value Host.none ()).1 := by
    rintro interpolation (_ | ⟨_, _ | ⟨_, ⟨⟩⟩⟩)
    · exact ⟨by decide, rfl⟩
    · exact ⟨by decide, rfl⟩
  have balanced : ∀ interpolation ∈ template.interpolations, ∀ spec,
      interpolation.spec = some spec → IsBalanced spec := by
    have braces : IsBalanced ['{', '>', '}'] := by
      rw [IsBalanced, closesBraces_opening, closesBraces_other (by decide) (by decide),
        closesBraces_closing]
      exact closesBraces_nil_iff.mpr rfl
    rintro interpolation (_ | ⟨_, _ | ⟨_, ⟨⟩⟩⟩) spec ⟨⟩
    · exact braces
    · exact closesBraces_nil_iff.mpr rfl
  obtain ⟨parsed, read, chunks, interpolations⟩ :=
    parse_printed Host.none () template found balanced
  exact ⟨found, balanced, parsed, read, chunks, interpolations⟩

end Template

end HtmlTemplate
