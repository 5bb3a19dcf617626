import HtmlTemplate.Proofs.PrintedSource

/-!
# Source texts of templates

The source text of a template holds its texts as they are, with single braces, and its
interpolations without the blanks that they may have been written with. Reading it reconstructs a
template that was read from a source exactly if there is no brace in the texts
(`parse_sourceText_eq_iff`).
-/

namespace HtmlTemplate.Template

/-! ## Interpolations as they were read -/

/-- Trimming takes no braces away. -/
theorem plain_of_trim {text : Text} (plain : ∀ c ∈ Text.trim text, c ≠ '{' ∧ c ≠ '}') :
    ∀ c ∈ text, c ≠ '{' ∧ c ≠ '}' := by
  have visible : Text.isBlank '{' = false ∧ Text.isBlank '}' = false := by decide
  obtain ⟨front, back, parts, around⟩ := Text.exists_of_trim text
  intro c member
  rw [parts, List.mem_append, List.mem_append] at member
  by_cases inside : c ∈ Text.trim text
  · exact plain c inside
  · have blank : Text.isBlank c = true := by
      refine around c (List.mem_append.mpr ?_)
      simpa [inside] using member
    constructor
    · rintro rfl
      simp [visible.1] at blank
    · rintro rfl
      simp [visible.2] at blank

/-- The conversion that is read from a text is a single character between blanks. -/
theorem trim_of_readConversion? {written : Text} {conversion : Format.Conversion}
    (read : readConversion? written = some conversion) :
    Text.trim written = [conversion.char] := by
  unfold readConversion? at read
  split at read
  · rename_i c alone
    unfold Format.Conversion.ofChar? at read
    split at read <;> cases read <;> exact alone
  · cases read

/-- A path and a conversion are written with blanks around them, or without any. -/
theorem length_le_of_readHead {head path : Text} {conversion : Option Format.Conversion}
    (read : readHead head = .ok (path, conversion)) :
    path.length + (writtenConversion conversion).length ≤ head.length := by
  unfold readHead at read
  split at read
  · cases read
    exact Text.length_trim_le head
  · rename_i before written found
    obtain ⟨rfl, -⟩ := Text.splitOnce_eq_some_iff.mp found
    split at read
    · cases read
    · rename_i letter converted
      cases read
      have path := Text.length_trim_le before
      have sign := Text.length_trim_le written
      rw [trim_of_readConversion? converted] at sign
      simp only [writtenConversion, List.length_append, List.length_cons, List.length_nil] at *
      omega

/-- No braces stand in front of the specifier of an interpolation. -/
theorem plain_of_readHead {head path : Text} {conversion : Option Format.Conversion}
    (read : readHead head = .ok (path, conversion)) (valid : isPath path = true) :
    ∀ c ∈ head, c ≠ '{' ∧ c ≠ '}' := by
  have plainPath : ∀ c ∈ path, c ≠ '{' ∧ c ≠ '}' := fun c member =>
    ⟨fun same => not_mem_of_isPath valid '{' (by simp) (same ▸ member),
      fun same => not_mem_of_isPath valid '}' (by simp) (same ▸ member)⟩
  unfold readHead at read
  split at read
  · cases read
    exact plain_of_trim plainPath
  · rename_i before written found
    obtain ⟨rfl, -⟩ := Text.splitOnce_eq_some_iff.mp found
    split at read
    · cases read
    · rename_i letter converted
      cases read
      have plainSign : ∀ c ∈ Text.trim written, c ≠ '{' ∧ c ≠ '}' := by
        rw [trim_of_readConversion? converted]
        cases letter <;> simp [Format.Conversion.char]
      intro c member
      rcases List.mem_append.mp member with member | member
      · exact plain_of_trim plainPath c member
      · rcases List.mem_cons.mp member with rfl | member
        · decide
        · exact plain_of_trim plainSign c member

/-- What an interpolation was read from: a path with a conversion, possibly among blanks, and a
specifier as it is. The interpolation holds what the path leads to. -/
theorem of_readInterpolation {context : Dictionary Value} {inner : Text}
    {interpolation : Interpolation} (read : readInterpolation context inner = .ok interpolation) :
    isPath interpolation.expr = true ∧
      (∃ value, interpolation.source = .held value ∧
        lookup? context interpolation.expr = some value) ∧
      ∃ head, inner = head ++ writtenSpec interpolation.spec ∧
        readHead head = .ok (interpolation.expr, interpolation.conversion) := by
  unfold readInterpolation at read
  split at read
  rename_i head spec cut
  have whole : inner = head ++ writtenSpec spec := by
    split at cut
    · rename_i before behind found
      cases cut
      exact (Text.splitOnce_eq_some_iff.mp found).1
    · cases cut
      simp [writtenSpec]
  split at read
  · cases read
  · rename_i path conversion readFront
    split at read
    · cases read
    · rename_i valid
      split at read
      · cases read
      · rename_i value found
        cases read
        exact ⟨by simpa using valid, ⟨value, rfl, found⟩, head, whole, readFront⟩

/-- An interpolation needs no more characters than it was written with. -/
theorem Site.ReadsIn.length_written_le {context : Dictionary Value} {site : Site}
    (reads : site.ReadsIn context) :
    site.interpolation.written.length ≤ site.written.length := by
  obtain ⟨_, _, head, whole, readFront⟩ := of_readInterpolation reads.read
  have front := length_le_of_readHead readFront
  rw [written_eq, Site.written, whole]
  simp only [List.cons_append, List.length_cons, List.length_append]
  omega

/-- A site is still read if its interpolation is written without blanks. -/
theorem Site.ReadsIn.siteOf {context : Dictionary Value} {site : Site}
    (reads : site.ReadsIn context) :
    (siteOf Host.none () (site.interpolation, .ofText site.behind)).ReadsIn context := by
  obtain ⟨valid, ⟨value, held, found⟩, head, whole, readFront⟩ := of_readInterpolation reads.read
  refine siteOf_readsIn Host.none () valid ?_ fun spec given => ?_
  · rw [Interpolation.value, held]
    exact found
  · have balanced := reads.balanced
    rw [IsBalanced, whole, closesBraces_append (plain_of_readHead readFront valid)] at balanced
    rw [given] at balanced
    exact (closesBraces_other (by decide) (by decide)).mp balanced

/-! ## Braces in texts -/

theorem length_doubleBraces (text : Text) :
    (doubleBraces text).length = text.length + (text.count '{' + text.count '}') := by
  have different : ('{' : Char) ≠ '}' := by decide
  induction text with
  | nil => rfl
  | cons c rest inductionHypothesis =>
    by_cases opening : c = '{'
    · subst opening
      simp only [doubleBraces_opening, List.length_cons, inductionHypothesis,
        List.count_cons_self, List.count_cons_of_ne different]
      omega
    · by_cases closing : c = '}'
      · subst closing
        simp only [doubleBraces_closing, List.length_cons, inductionHypothesis,
          List.count_cons_self, List.count_cons_of_ne different.symm]
        omega
      · simp only [doubleBraces_other opening closing, List.length_cons, inductionHypothesis,
          List.count_cons_of_ne opening, List.count_cons_of_ne closing]
        omega

/-- A text without braces has none to be doubled. -/
theorem doubleBraces_eq_self {text : Text} (plain : '{' ∉ text ∧ '}' ∉ text) :
    doubleBraces text = text := by
  induction text with
  | nil => rfl
  | cons c rest inductionHypothesis =>
    simp only [List.mem_cons, not_or] at plain
    rw [doubleBraces_other (Ne.symm plain.1.1) (Ne.symm plain.2.1),
      inductionHypothesis ⟨plain.1.2, plain.2.2⟩]

/-- The number of braces in the texts of a template. -/
def braces (template : Template) : Nat :=
  (template.chunks.flatMap Chunk.raw).count '{' + (template.chunks.flatMap Chunk.raw).count '}'

theorem braces_eq_zero_iff {template : Template} :
    template.braces = 0 ↔ ∀ chunk ∈ template.chunks, '{' ∉ chunk.raw ∧ '}' ∉ chunk.raw := by
  simp only [braces, Nat.add_eq_zero_iff, List.count_eq_zero, List.mem_flatMap, not_exists, not_and,
    ← forall_and]

/-! ## Source texts -/

/-- The source text of a template is made of its texts and interpolations alone. -/
theorem sourceText_congr {template other : Template} (chunks : template.chunks = other.chunks)
    (interpolations : template.interpolations = other.interpolations) :
    template.sourceText = other.sourceText := by
  obtain ⟨first, rest, _⟩ := template
  obtain ⟨first', rest', _⟩ := other
  obtain ⟨rfl, behind⟩ := List.cons.inj chunks
  have same : rest = rest' := by
    rw [← List.zip_unzip rest, ← List.zip_unzip rest']
    simp only [List.unzip_eq_map]
    rw [behind]
    exact congrArg (List.zip · _) interpolations
  rw [sourceText, sourceText, same]

/-- A source is at least as long as the source text of the template that it is read as, and longer
by every brace in the texts, which the source holds twice. -/
theorem length_sourceText_add_braces_le {context : Dictionary Value} {source : Text}
    {template : Template} (parsed : parse context source = .ok template) :
    template.sourceText.length + template.braces ≤ source.length := by
  obtain ⟨text, sites, rfl, read, rfl⟩ := parse_eq_ok_iff.mp parsed
  clear parsed
  induction sites generalizing text with
  | nil =>
    rw [sourceOf, length_doubleBraces]
    simp [sourceText, braces, chunks, templateOf, Chunk.ofText]
  | cons site sites inductionHypothesis =>
    have written := (read site (by simp)).length_written_le
    have later := inductionHypothesis site.behind fun other member =>
      read other (List.mem_cons_of_mem site member)
    simp only [sourceText, braces, chunks, templateOf, Chunk.ofText, sourceOf, List.map_cons,
      List.flatMap_cons, List.count_append, List.length_append, length_doubleBraces] at later ⊢
    omega

/-- Without braces in its texts a template has the source text that it is printed as. -/
theorem sourceText_eq_printed {text : Text} {sites : List Site}
    (plain : (templateOf text sites).braces = 0) :
    (templateOf text sites).sourceText = (templateOf text sites).printed := by
  have single := braces_eq_zero_iff.mp plain
  have first : doubleBraces text = text :=
    doubleBraces_eq_self (single (.ofText text) (by simp [chunks, templateOf]))
  have behind : ∀ site ∈ sites, doubleBraces site.behind = site.behind := by
    intro site among
    refine doubleBraces_eq_self (single (.ofText site.behind) ?_)
    simp only [chunks, templateOf, List.map_map, List.mem_cons, List.mem_map]
    exact .inr ⟨site, among, rfl⟩
  simp only [sourceText, printed, templateOf, Chunk.ofText, List.flatMap_map, first]
  congr 1
  exact List.flatMap_congr fun site among => by rw [behind site among]

/-- The source text of a template that was read from a source is read as a template with the same
texts and the same interpolations, which hold the same values, exactly if there is no brace in the
texts. -/
theorem parse_sourceText_eq_iff {context : Dictionary Value} {source : Text} {template : Template}
    (parsed : parse context source = .ok template) :
    (∃ again, parse context template.sourceText = .ok again ∧ again.chunks = template.chunks ∧
        again.interpolations = template.interpolations) ↔
      ∀ chunk ∈ template.chunks, '{' ∉ chunk.raw ∧ '}' ∉ chunk.raw := by
  rw [← braces_eq_zero_iff]
  constructor
  · rintro ⟨again, readAgain, chunks, interpolations⟩
    have length := length_sourceText_add_braces_le readAgain
    rw [sourceText_congr chunks interpolations, braces, chunks, ← braces] at length
    omega
  · intro plain
    obtain ⟨text, sites, rfl, read, rfl⟩ := parse_eq_ok_iff.mp parsed
    have readAgain : ∀ site ∈ (templateOf text sites).rest.map (siteOf Host.none ()),
        site.ReadsIn context := by
      intro site member
      simp only [templateOf, List.map_map, List.mem_map] at member
      obtain ⟨site, among, rfl⟩ := member
      exact (read site among).siteOf
    refine ⟨_, by rw [sourceText_eq_printed plain, printed_eq Host.none ()]
                  exact parse_sourceOf _ readAgain, ?_, ?_⟩
    · simp [chunks, templateOf, siteOf, Chunk.ofText]
    · simp only [interpolations, templateOf, List.map_map]
      refine List.map_congr_left fun site among => ?_
      obtain ⟨_, ⟨value, held, _⟩, _⟩ := of_readInterpolation (read site among).read
      simp only [siteOf, Function.comp_apply, Interpolation.snapshot, Interpolation.value, held]
      rw [← held]

/-- Blanks in front of a conversion are not written again, braces in a specifier are. -/
theorem parse_sourceText_nested :
    let context : Dictionary Value := [(['n'], .int 7)]
    let source : Text := ['a', '{', ' ', 'n', ' ', '!', 'r', ' ', ':', '{', '>', '}', '}', 'b']
    ∃ template, parse context source = .ok template ∧
      template.sourceText = ['a', '{', 'n', '!', 'r', ':', '{', '>', '}', '}', 'b'] ∧
      ∃ again, parse context template.sourceText = .ok again ∧
        again.chunks = template.chunks ∧ again.interpolations = template.interpolations := by
  intro context source
  let site : Site :=
    { inner := [' ', 'n', ' ', '!', 'r', ' ', ':', '{', '>', '}']
      interpolation := { expr := ['n'], source := .held (.int 7), conversion := some .repr
                         spec := some ['{', '>', '}'] }
      behind := ['b'] }
  have reads : site.ReadsIn context := by
    refine ⟨fun _ begins => (nomatch begins), ?_, rfl⟩
    have front : ∀ c ∈ [' ', 'n', ' ', '!', 'r', ' ', ':'], c ≠ '{' ∧ c ≠ '}' := by simp
    exact (closesBraces_append front).mpr (closesBraces_opening.mpr
      ((closesBraces_other (by decide) (by decide)).mpr
        (closesBraces_closing.mpr (closesBraces_nil_iff.mpr rfl))))
  have parsed : parse context source = .ok (templateOf ['a'] [site]) :=
    parse_sourceOf ['a'] (List.forall_mem_singleton.mpr reads)
  refine ⟨templateOf ['a'] [site], parsed, rfl, (parse_sourceText_eq_iff parsed).mpr ?_⟩
  simp [chunks, templateOf, site, Chunk.ofText]

/-- Braces that are meant literally come back as those of an interpolation. -/
theorem not_parse_sourceText_literal :
    let context : Dictionary Value := [(['n'], .int 7)]
    ∃ template, parse context ['{', '{', 'n', '}', '}'] = .ok template ∧
      template.chunks = [.ofText ['{', 'n', '}']] ∧
      ¬ ∃ again, parse context template.sourceText = .ok again ∧
        again.chunks = template.chunks ∧ again.interpolations = template.interpolations := by
  intro context
  let site : Site :=
    { inner := ['n'], interpolation := { expr := ['n'], source := .held (.int 7) }, behind := [] }
  have reads : site.ReadsIn context := by
    refine ⟨fun _ begins => (nomatch begins), ?_, rfl⟩
    exact (closesBraces_other (by decide) (by decide)).mpr (closesBraces_nil_iff.mpr rfl)
  have parsed : parse context ['{', '{', 'n', '}', '}'] = .ok (templateOf ['{', 'n', '}'] []) :=
    parse_sourceOf ['{', 'n', '}'] (List.forall_mem_nil _)
  have readAgain : parse context ['{', 'n', '}'] = .ok (templateOf [] [site]) :=
    parse_sourceOf [] (List.forall_mem_singleton.mpr reads)
  refine ⟨_, parsed, rfl, ?_⟩
  rintro ⟨again, read, chunks, -⟩
  cases readAgain.symm.trans read
  cases chunks

end HtmlTemplate.Template
