import HtmlTemplate.Proofs.Sites
import Mathlib.Data.List.Chain

/-!
# Places in source text

The places of the items of a template that was read from a source lie in it one behind the other,
without gaps, from its beginning to its end, and each holds what its item was read from
(`spansTile_of_parse`).
-/

namespace HtmlTemplate

/-! ## Parts of a text by bytes -/

/-- The text in front of a given number of bytes and the text behind them, if no character lies
across. -/
def Text.splitBytes? : Nat → Text → Option (Text × Text)
  | 0, text => some ([], text)
  | _ + 1, [] => none
  | bytes + 1, c :: rest =>
    if c.utf8Size ≤ bytes + 1 then
      (splitBytes? (bytes + 1 - c.utf8Size) rest).map fun (front, behind) => (c :: front, behind)
    else none

/-- The part of a source at a given place, if the place begins and ends between characters. -/
def Span.slice? (source : Text) (span : Span) : Option Text :=
  (Text.splitBytes? span.stop source).bind fun (front, _) =>
    (Text.splitBytes? span.start front).map Prod.snd

/-- A text is split behind the bytes of its beginning. -/
theorem Text.splitBytes?_append (front behind : Text) :
    Text.splitBytes? (Text.byteLength front) (front ++ behind) = some (front, behind) := by
  induction front with
  | nil => simp [Text.splitBytes?]
  | cons c front inductionHypothesis =>
    have positive : 0 < c.utf8Size := c.utf8Size_pos
    obtain ⟨bytes, size⟩ : ∃ bytes, Text.byteLength (c :: front) = bytes + 1 :=
      ⟨Text.byteLength (c :: front) - 1, by simp only [Text.byteLength_cons]; omega⟩
    have rest : bytes + 1 - c.utf8Size = Text.byteLength front := by
      simp only [Text.byteLength_cons] at size
      omega
    have fits : c.utf8Size ≤ bytes + 1 := by
      simp only [Text.byteLength_cons] at size
      omega
    rw [size, List.cons_append, Text.splitBytes?, if_pos fits, rest, inductionHypothesis]
    rfl

theorem Span.slice?_append (before part behind : Text) :
    Span.slice? (before ++ part ++ behind)
      ⟨Text.byteLength before, Text.byteLength before + Text.byteLength part⟩ = some part := by
  simp only [Span.slice?, ← Text.byteLength_append, Text.splitBytes?_append, Option.bind_some,
    Option.map_some]

namespace Template

/-! ## Places of items -/

/-- A place in a source holds what an item was read from: the text of a chunk with its braces
doubled, or an interpolation between a brace and the one that closes it, which is read as that
interpolation also on its own. -/
def Covers (context : Dictionary Value) (source : Text) (span : Span) : Item → Prop
  | .text chunk =>
    ∃ part, span.slice? source = some part ∧ singleBraces part = chunk.decoded
  | .interpolation interpolation =>
    ∃ inner, span.slice? source = some ('{' :: inner ++ ['}']) ∧ IsBalanced inner ∧
      ∃ alone, parse context ('{' :: inner ++ ['}']) = .ok alone ∧
        alone.items = [.text {}, .interpolation interpolation, .text {}]

/-- The places of the items of a template cover a source from its beginning to its end, one behind
the other. -/
structure SpansTile (context : Dictionary Value) (source : Text) (template : Template) : Prop where
  begins : (template.span? 0).map Span.start = some 0
  touches : ∀ index span next, template.span? index = some span →
    template.span? (index + 1) = some next → next.start = span.stop
  ends : (template.span? (template.items.length - 1)).map Span.stop =
    some (Text.byteLength source)
  covers : ∀ index item, template.items[index]? = some item →
    ∃ span, template.span? index = some span ∧ Covers context source span item

/-! ## The layout of sites -/

theorem head?_layout (position : Nat) (text : Text) (sites : List Site) :
    ((layout position text sites).map Prod.snd).head?.map Span.start = some position := by
  cases sites <;> rfl

/-- Every item begins where the one in front of it ends. -/
theorem isChain_layout (position : Nat) (text : Text) (sites : List Site) :
    ((layout position text sites).map Prod.snd).IsChain
      fun span next => next.start = span.stop := by
  induction sites generalizing position text with
  | nil => simp [layout]
  | cons site sites inductionHypothesis =>
    simp only [layout, List.map_cons, List.isChain_cons_cons, true_and]
    rw [List.isChain_cons]
    refine ⟨fun span first => ?_, inductionHypothesis _ _⟩
    have start := head?_layout (position + Text.byteLength (doubleBraces text) +
      Text.byteLength site.written) site.behind sites
    rw [Option.mem_def.mp first] at start
    exact Option.some.inj start

/-- The last item ends where the source does. -/
theorem getLast?_layout (position : Nat) (text : Text) (sites : List Site) :
    ((layout position text sites).map Prod.snd).getLast?.map Span.stop =
      some (position + Text.byteLength (sourceOf text sites)) := by
  induction sites generalizing position text with
  | nil => rfl
  | cons site sites inductionHypothesis =>
    have last := inductionHypothesis (position + Text.byteLength (doubleBraces text) +
      Text.byteLength site.written) site.behind
    obtain ⟨span, found, stop⟩ := Option.map_eq_some_iff.mp last
    simp only [layout, List.map_cons, List.getLast?_cons, found, Option.getD_some,
      Option.map_some, stop, sourceOf, Text.byteLength_append]
    congr 1
    omega

/-- Alone in a source, a site is read as its interpolation between two empty texts. -/
theorem parse_written {context : Dictionary Value} {site : Site} (reads : site.ReadsIn context) :
    ∃ alone, parse context site.written = .ok alone ∧
      alone.items = [.text {}, .interpolation site.interpolation, .text {}] := by
  let single : Site := { site with behind := [] }
  have readsSingle : ∀ other ∈ [single], other.ReadsIn context := by
    intro other member
    rw [List.mem_singleton.mp member]
    exact ⟨reads.single, reads.balanced, reads.read⟩
  have read := parse_sourceOf [] readsSingle
  have source : sourceOf [] [single] = site.written := by simp [sourceOf, single, Site.written]
  rw [source] at read
  exact ⟨_, read, rfl⟩

/-- Every item of a layout is read from its place in the source. -/
theorem covers_layout {context : Dictionary Value} (before text : Text) {sites : List Site}
    (read : ∀ site ∈ sites, site.ReadsIn context) :
    ∀ entry ∈ layout (Text.byteLength before) text sites,
      Covers context (before ++ sourceOf text sites) entry.2 entry.1 := by
  induction sites generalizing before text with
  | nil =>
    intro entry member
    rw [List.mem_singleton.mp member]
    have part := Span.slice?_append before (doubleBraces text) []
    rw [List.append_nil] at part
    exact ⟨doubleBraces text, part, singleBraces_doubleBraces text⟩
  | cons site sites inductionHypothesis =>
    have readFirst := read site (by simp)
    intro entry member
    rcases List.mem_cons.mp member with rfl | member
    · have part := Span.slice?_append before (doubleBraces text)
        (site.written ++ sourceOf site.behind sites)
      refine ⟨doubleBraces text, ?_, singleBraces_doubleBraces text⟩
      simpa [sourceOf] using part
    rcases List.mem_cons.mp member with rfl | member
    · have part := Span.slice?_append (before ++ doubleBraces text) site.written
        (sourceOf site.behind sites)
      refine ⟨site.inner, ?_, readFirst.balanced, parse_written readFirst⟩
      simpa [sourceOf, Site.written] using part
    · have later := inductionHypothesis (before ++ doubleBraces text ++ site.written) site.behind
        (fun other among => read other (List.mem_cons_of_mem site among)) entry
        (by rwa [Text.byteLength_append, Text.byteLength_append])
      simpa [sourceOf] using later

/-! ## Templates -/

/-- The items of a template that was read from a source have places that cover the source, each
holding what its item was read from. -/
theorem spansTile_of_parse {context : Dictionary Value} {source : Text} {template : Template}
    (parsed : parse context source = .ok template) : template.SpansTile context source := by
  obtain ⟨text, sites, rfl, read, rfl⟩ := parse_eq_ok_iff.mp parsed
  have items := items_templateOf text sites
  have counted : (templateOf text sites).items.length =
      ((layout 0 text sites).map Prod.snd).length := by
    rw [items, List.length_map, List.length_map]
  constructor
  case begins =>
    have first := head?_layout 0 text sites
    rwa [List.head?_eq_getElem?] at first
  case touches =>
    intro index span next found foundNext
    have chain := List.isChain_iff_getElem.mp (isChain_layout 0 text sites)
    obtain ⟨inside, rfl⟩ := List.getElem?_eq_some_iff.mp found
    obtain ⟨insideNext, rfl⟩ := List.getElem?_eq_some_iff.mp foundNext
    exact chain index insideNext
  case ends =>
    have last := getLast?_layout 0 text sites
    rw [List.getLast?_eq_getElem?, ← counted, Nat.zero_add] at last
    exact last
  case covers =>
    intro index item found
    rw [items, List.getElem?_map] at found
    obtain ⟨⟨item, span⟩, entry, rfl⟩ := Option.map_eq_some_iff.mp found
    have placed : (templateOf text sites).span? index = some span := by
      simp [span?, templateOf, List.getElem?_map, entry]
    have covered := covers_layout [] text read (item, span) (List.mem_of_getElem? entry)
    exact ⟨span, placed, covered⟩

/-- A literal brace stands beside an interpolation, which another one touches; the first character
takes two bytes. -/
theorem spansTile_of_parse_touching :
    let context : Dictionary Value := [(['n'], .int 7)]
    let source : Text := ['\u00e4', '{', '{', '{', 'n', '}', '{', 'n', ':', '{', '}', '}']
    ∃ template, parse context source = .ok template ∧
      template.spans = [⟨0, 4⟩, ⟨4, 7⟩, ⟨7, 7⟩, ⟨7, 13⟩, ⟨13, 13⟩] ∧
      template.SpansTile context source := by
  intro context source
  let plain : Interpolation := { expr := ['n'], source := .held (.int 7) }
  let sites : List Site :=
    [⟨['n'], plain, []⟩, ⟨['n', ':', '{', '}'], { plain with spec := some ['{', '}'] }, []⟩]
  have balanced : IsBalanced ['{', '}'] := by
    rw [IsBalanced, closesBraces_opening, closesBraces_closing]
    exact closesBraces_nil_iff.mpr rfl
  have letter : ∀ rest, IsBalanced rest → IsBalanced ('n' :: rest) := fun rest =>
    (closesBraces_other (by decide) (by decide)).mpr
  have colon : ∀ rest, IsBalanced rest → IsBalanced (':' :: rest) := fun rest =>
    (closesBraces_other (by decide) (by decide)).mpr
  have read : ∀ site ∈ sites, site.ReadsIn context := by
    intro site member
    simp only [sites, List.mem_cons, List.not_mem_nil, or_false] at member
    rcases member with rfl | rfl
    · exact ⟨by simp, letter [] (closesBraces_nil_iff.mpr rfl), rfl⟩
    · exact ⟨by simp, letter _ (colon _ balanced), rfl⟩
  have parsed : parse context source = .ok (templateOf ['\u00e4', '{'] sites) :=
    parse_sourceOf ['\u00e4', '{'] read
  exact ⟨_, parsed, by decide, spansTile_of_parse parsed⟩

end Template

end HtmlTemplate
