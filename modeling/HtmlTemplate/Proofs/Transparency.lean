import HtmlTemplate.Proofs.Filling
import HtmlTemplate.Proofs.LiteralSkeleton

/-!
# Templates of literal text

A template without less-than signs in its texts, whose interpolations hold texts, shows the
decoded texts and the escaped values in order, whatever the values are, exactly if every text
is transparent on its own. In the one direction all markers stand for interpolations
(`finds_textsOf`). In the other direction nothing is put between the texts, and then none of
them can have lost a character (`Skeleton.transparent_of_length_le`).
-/

namespace HtmlTemplate

/-! ## Templates that hold texts -/

/-- The text that an interpolation holds. -/
def Interpolation.heldText (interpolation : Interpolation) : Text :=
  match interpolation.source with
  | .held (.text text) => text
  | _ => []

theorem Interpolation.HoldsText.heldText_eq {interpolation : Interpolation} {text : Text}
    (holds : interpolation.HoldsText text) : interpolation.heldText = text := by
  rw [heldText, holds.source]

/-- The interpolations of a template hold some texts. -/
def Template.HoldsTexts (template : Template) (values : List Text) : Prop :=
  List.Forall₂ Interpolation.HoldsText template.interpolations values

/-- The decoded texts of some chunks, with escaped values between them. -/
def literalContent (values : List Text) : List Chunk → Text
  | [] => []
  | first :: chunks =>
    Markup.decodeReferences first.decoded ++
      (List.zipWith
        (fun value chunk => Markup.escape value ++ Markup.decodeReferences chunk.decoded)
        values chunks).flatten

namespace Resolve

open Markup (Child Node decodeReferences escape textContentOf)
open Skeleton (Part Segment Transparent givenFrom itemsOf markers split substitute textsOf)

variable {σ : Type}

/-! ## Filled texts -/

namespace Filling

variable (filling : Filling σ)

/-- All interpolations of a filling hold texts, and `shown` has these texts escaped, by the
index of the interpolation. -/
def Shows (shown : Nat → Text) : Prop :=
  ∀ index interpolation, filling.interpolation? index = some interpolation →
    ∃ value, interpolation.HoldsText value ∧ shown index = escape value

/-- All markers of a text stand for interpolations. -/
def Finds (text : Text) : Prop :=
  ∀ index ∈ markers text, ∃ interpolation, filling.interpolation? index = some interpolation

theorem fillChild_gives {shown : Nat → Text} (shows : filling.Shows shown) {text : Text}
    (finds : filling.Finds text) :
    ∃ children, Gives (filling.fillChild text) children ∧
      textContentOf children = substitute shown text := by
  have gives : Gives (filling.fillChild text)
      ((split text).map (fragmentOf .text fun index => .text (shown index))) := by
    apply filling.fill_gives
    intro index member
    obtain ⟨interpolation, found⟩ := finds index member
    obtain ⟨value, holds, escaped⟩ := shows index interpolation found
    refine ⟨interpolation, value, found, holds, ?_⟩
    rw [escaped]
    exact convertChild_gives filling.host value
  refine ⟨_, gives, ?_⟩
  rw [Skeleton.substitute_eq_flatMap]
  induction split text with
  | nil => rfl
  | cons segment segments inductionHypothesis =>
    rw [List.map_cons, textContentOf, inductionHypothesis, List.flatMap_cons]
    cases segment <;> rfl

theorem textContentOf_append (children more : List Child) :
    textContentOf (children ++ more) = textContentOf children ++ textContentOf more := by
  induction children with
  | nil => rfl
  | cons child children inductionHypothesis =>
    rw [List.cons_append, textContentOf, textContentOf, inductionHypothesis, List.append_assoc]

theorem fillParts_texts_gives {shown : Nat → Text} (shows : filling.Shows shown)
    {texts : List Text} (finds : ∀ text ∈ texts, filling.Finds text) :
    ∃ children, Gives (filling.fillParts (texts.map .text)) children ∧
      textContentOf children = texts.flatMap (substitute shown) := by
  induction texts with
  | nil =>
    refine ⟨[], ?_, rfl⟩
    rw [List.map_nil, fillParts]
    exact .pure []
  | cons text texts inductionHypothesis =>
    obtain ⟨first, gives, content⟩ := filling.fillChild_gives shows (finds text (by simp))
    obtain ⟨more, givesMore, contentMore⟩ := inductionHypothesis fun other member =>
      finds other (List.mem_cons_of_mem text member)
    refine ⟨first ++ more, ?_, ?_⟩
    · rw [List.map_cons, fillParts, fillPart]
      exact gives.bind (givesMore.bind (.pure _))
    · rw [textContentOf_append, content, contentMore, List.flatMap_cons]

/-- A filled text has no marker but those of interpolations. -/
theorem finds_of_fillChild {text : Text} {children : List Child} {session session' : Session σ}
    (ran : filling.fillChild text session = .ok children session') : filling.Finds text :=
  filling.exists_of_fill ran

theorem finds_of_fillParts {texts : List Text} {children : List Child}
    {session session' : Session σ}
    (ran : filling.fillParts (texts.map .text) session = .ok children session') :
    ∀ text ∈ texts, filling.Finds text := by
  induction texts generalizing children session session' with
  | nil => simp
  | cons text texts inductionHypothesis =>
    rw [List.map_cons, fillParts, fillPart] at ran
    obtain ⟨first, between, ranFirst, ranRest⟩ := exists_of_bind_eq_ok ran
    obtain ⟨more, after, ranMore, _⟩ := exists_of_bind_eq_ok ranRest
    intro other member
    rcases List.mem_cons.mp member with rfl | member
    · exact filling.finds_of_fillChild ranFirst
    · exact inductionHypothesis ranMore other member

/-- What is shown in the place of an interpolation that holds a text. -/
def escapedAt (index : Nat) : Text :=
  (filling.interpolation? index).elim [] fun interpolation => escape interpolation.heldText

theorem escapedAt_of_some {index : Nat} {interpolation : Interpolation}
    (found : filling.interpolation? index = some interpolation) :
    filling.escapedAt index = escape interpolation.heldText := by
  rw [escapedAt, found, Option.elim_some]

end Filling

/-! ## Literal templates -/

/-- What a root of texts is resolved to. -/
theorem render_of_texts (host : Host σ) (policy : MergePolicy) {items : List Item}
    {texts : List Text}
    (built : Skeleton.ofItems items = .ok { children := texts.map .text }) :
    render host items policy =
      (Filling.fillParts { host, items, policy } (texts.map .text) >>= fun children =>
        pure (Node.fragment children)) := by
  simp only [render, built]
  rfl

/-- The markers that stand between transparent chunks are those of the interpolations. -/
theorem finds_of_transparent {front : List Item} {rest : List (Interpolation × Chunk)}
    (transparent : ∀ chunk ∈ rest.map Prod.snd, Transparent chunk.decoded) :
    ∀ index ∈ givenFrom Segment.indices front.length (rest.map Prod.snd),
      ∃ interpolation,
        (front ++ itemsOf rest)[index]?.bind Item.interpolation? = some interpolation := by
  induction rest generalizing front with
  | nil => simp [givenFrom]
  | cons place rest inductionHypothesis =>
    obtain ⟨interpolation, chunk⟩ := place
    have unmarked : (split (Skeleton.builtText chunk.decoded)).flatMap Segment.indices = [] :=
      (transparent chunk (by simp)).unmarked
    intro index member
    rw [List.map_cons, givenFrom, unmarked, List.nil_append, List.mem_append] at member
    rcases member with here | later
    · obtain rfl : index = front.length := List.mem_singleton.mp here
      exact ⟨interpolation, by simp [itemsOf, Item.interpolation?]⟩
    · have further := @inductionHypothesis (front ++ [.interpolation interpolation, .text chunk])
        (fun other member => transparent other (List.mem_cons_of_mem _ member)) index
        (by simpa using later)
      simpa [itemsOf] using further

/-- What markers and transparent chunks give, if the markers are replaced by the escaped texts
of their interpolations. -/
theorem givenFrom_of_transparent {front : List Item} {rest : List (Interpolation × Chunk)}
    {values : List Text} {shown : Nat → Text}
    (holds : List.Forall₂ Interpolation.HoldsText (rest.map Prod.fst) values)
    (shows : ∀ index interpolation,
      (front ++ itemsOf rest)[index]?.bind Item.interpolation? = some interpolation →
        shown index = escape interpolation.heldText)
    (transparent : ∀ chunk ∈ rest.map Prod.snd, Transparent chunk.decoded) :
    givenFrom (Segment.replaced shown) front.length (rest.map Prod.snd) =
      (List.zipWith (fun value chunk => escape value ++ decodeReferences chunk.decoded) values
        (rest.map Prod.snd)).flatten := by
  induction rest generalizing front values with
  | nil => simp [givenFrom]
  | cons place rest inductionHypothesis =>
    obtain ⟨interpolation, chunk⟩ := place
    cases holds with
    | @cons _ value _ values first others =>
      have here : shown front.length = escape value := by
        rw [shows front.length interpolation (by simp [itemsOf, Item.interpolation?]),
          first.heldText_eq]
      have whole := (transparent chunk (by simp)).substitute shown
      rw [Skeleton.substitute_eq_flatMap] at whole
      have later := @inductionHypothesis (front ++ [.interpolation interpolation, .text chunk])
        values others
        (by simpa [itemsOf] using shows)
        (fun other member => transparent other (List.mem_cons_of_mem _ member))
      rw [List.length_append] at later
      rw [List.map_cons, givenFrom, whole, List.zipWith_cons_cons, List.flatten_cons,
        List.append_assoc, ← later, Segment.replaced, here]
      rfl

/-- Every interpolation of a template that holds texts holds one of them. -/
theorem holdsText_of_found {template : Template} {values : List Text}
    (holds : template.HoldsTexts values) {index : Nat} {interpolation : Interpolation}
    (found : template.items[index]?.bind Item.interpolation? = some interpolation) :
    ∃ value ∈ values, interpolation.HoldsText value := by
  obtain ⟨item, place, taken⟩ := Option.bind_eq_some_iff.mp found
  have among : item ∈ template.items := List.mem_of_getElem? place
  have member : interpolation ∈ template.interpolations := by
    simp only [Template.items, List.mem_cons, List.mem_flatMap, List.not_mem_nil, or_false] at among
    rcases among with rfl | ⟨⟨other, chunk⟩, within, rfl | rfl⟩
    · cases taken
    · obtain rfl : other = interpolation := Option.some.inj taken
      exact List.mem_map_of_mem within
    · cases taken
  exact exists_of_forall₂ holds member

section Literal

variable (host : Host σ) (policy : MergePolicy) (session : Session σ)

/-- A template of literal text shows its decoded texts with the escaped values between them. -/
def ShowsLiteral (template : Template) (values : List Text) : Prop :=
  ∃ node session', render host template.items policy session = .ok node session' ∧
    node.textContent = literalContent values template.chunks

variable {host policy session} {first : Chunk} {rest : List (Interpolation × Chunk)}

/-- The texts of a literal template give what its chunks and markers give. -/
theorem flatMap_substitute_textsOf {chunks : List Chunk}
    (fits : 2 * (first :: chunks).length ≤ Skeleton.markerLimit) (shown : Nat → Text) :
    (textsOf first chunks).flatMap (substitute shown) =
      substitute shown (Skeleton.builtText first.decoded) ++
        givenFrom (Segment.replaced shown) 1 chunks := by
  rw [List.length_cons] at fits
  have given := @Skeleton.flatMap_textsOf Char (Segment.replaced shown) (fun _ _ => rfl) first
    chunks (by omega)
  simpa only [← Skeleton.substitute_eq_flatMap] using given

/-- All markers of a transparent template stand for interpolations. -/
theorem finds_textsOf (filling : Filling σ) (source : filling.items = .text first :: itemsOf rest)
    (fits : 2 * (first :: rest.map Prod.snd).length ≤ Skeleton.markerLimit)
    (transparentFirst : Transparent first.decoded)
    (transparent : ∀ chunk ∈ rest.map Prod.snd, Transparent chunk.decoded) :
    ∀ text ∈ textsOf first (rest.map Prod.snd), filling.Finds text := by
  rw [List.length_cons] at fits
  intro text member index marked
  have given := @Skeleton.flatMap_textsOf Nat Segment.indices (fun _ _ => rfl) first
    (rest.map Prod.snd) (by omega)
  have among : index ∈ (textsOf first (rest.map Prod.snd)).flatMap
      fun text => (split text).flatMap Segment.indices :=
    List.mem_flatMap.mpr ⟨text, member, marked⟩
  rw [given, show (split _).flatMap Segment.indices = [] from transparentFirst.unmarked,
    List.nil_append] at among
  obtain ⟨interpolation, found⟩ :=
    @finds_of_transparent [.text first] rest transparent index among
  refine ⟨interpolation, ?_⟩
  rw [Filling.interpolation?, source]
  exact found

/-- Transparent texts are shown, whatever stands between them. -/
theorem showsLiteral_of_transparent {template : Template} {values : List Text}
    (run : ∀ chunk ∈ template.chunks, '<' ∉ chunk.decoded)
    (shows : template.rest.map Prod.snd ≠ [] ∨ template.first.decoded ≠ [])
    (fits : 2 * template.chunks.length ≤ Skeleton.markerLimit)
    (holds : template.HoldsTexts values)
    (transparent : ∀ chunk ∈ template.chunks, Transparent chunk.decoded) :
    ShowsLiteral host policy session template values := by
  obtain ⟨first, rest, spans⟩ := template
  simp only [Template.chunks, List.forall_mem_cons] at run fits transparent
  let filling : Filling σ := { host, items := .text first :: itemsOf rest, policy }
  have shows' : filling.Shows filling.escapedAt := by
    intro index interpolation found
    obtain ⟨value, _, held⟩ := holdsText_of_found holds found
    exact ⟨value, held, by rw [filling.escapedAt_of_some found, held.heldText_eq]⟩
  have built := Skeleton.ofItems_itemsOf run.1 run.2 shows
  obtain ⟨children, gives, content⟩ := filling.fillParts_texts_gives shows'
    (finds_textsOf filling rfl fits transparent.1 transparent.2)
  have rendered : Gives (render host (.text first :: itemsOf rest) policy)
      (Node.fragment children) := by
    rw [render_of_texts host policy built]
    exact gives.bind (.pure _)
  have given := @givenFrom_of_transparent [.text first] rest values filling.escapedAt holds
    (fun _ _ found => filling.escapedAt_of_some found) transparent.2
  obtain ⟨session', ran⟩ := rendered session
  refine ⟨Node.fragment children, session', ran, ?_⟩
  rw [Node.textContent, Node.fragment, content, flatMap_substitute_textsOf fits,
    transparent.1.substitute]
  exact congrArg (_ ++ ·) given

/-- With nothing in place of the interpolations, the decoded chunks are left. -/
theorem literalContent_of_empty {values : List Text}
    (empty : ∀ value ∈ values, value = []) (first : Chunk) {chunks : List Chunk}
    (lengths : values.length = chunks.length) :
    literalContent values (first :: chunks) =
      decodeReferences first.decoded ++
        chunks.flatMap fun chunk => decodeReferences chunk.decoded := by
  rw [literalContent]
  congr 1
  induction chunks generalizing values with
  | nil => simp
  | cons chunk chunks inductionHypothesis =>
    cases values with
    | nil => cases lengths
    | cons value values =>
      obtain rfl : value = [] := empty value (by simp)
      have later := inductionHypothesis
        (fun other member => empty other (List.mem_cons_of_mem _ member))
        (Nat.succ.inj lengths)
      rw [List.zipWith_cons_cons, List.flatten_cons, later]
      rfl

/-- If texts are shown although nothing stands between them, they are transparent. -/
theorem transparent_of_showsLiteral {template : Template} {values : List Text}
    (run : ∀ chunk ∈ template.chunks, '<' ∉ chunk.decoded)
    (shows : template.rest.map Prod.snd ≠ [] ∨ template.first.decoded ≠ [])
    (fits : 2 * template.chunks.length ≤ Skeleton.markerLimit)
    (holds : template.HoldsTexts values) (empty : ∀ value ∈ values, value = [])
    (shown : ShowsLiteral host policy session template values) :
    ∀ chunk ∈ template.chunks, Transparent chunk.decoded := by
  obtain ⟨first, rest, spans⟩ := template
  obtain ⟨node, session', ran, content⟩ := shown
  simp only [Template.chunks, List.forall_mem_cons] at run fits content ⊢
  let filling : Filling σ := { host, items := .text first :: itemsOf rest, policy }
  have shows' : filling.Shows fun _ => [] := by
    intro index interpolation found
    obtain ⟨value, among, held⟩ := holdsText_of_found holds found
    obtain rfl := empty value among
    exact ⟨[], held, rfl⟩
  have ranTexts := ran
  rw [Template.items, show rest.flatMap _ = itemsOf rest from rfl,
    render_of_texts host policy (Skeleton.ofItems_itemsOf run.1 run.2 shows)] at ranTexts
  obtain ⟨children, between, ranParts, ranRest⟩ := exists_of_bind_eq_ok ranTexts
  obtain ⟨children', gives, content'⟩ := filling.fillParts_texts_gives shows'
    (filling.finds_of_fillParts ranParts)
  obtain ⟨_, ran'⟩ := gives session
  have same : children = children' := by
    rw [ran'] at ranParts
    cases ranParts
    rfl
  have fragment : Node.fragment children = node := by
    cases ranRest
    rfl
  have lengths : values.length = (rest.map Prod.snd).length := by
    have pairs := List.Forall₂.length_eq holds
    simpa [Template.interpolations] using pairs.symm
  have whole : literalContent values (first :: rest.map Prod.snd) =
      substitute (fun _ => []) (Skeleton.builtText first.decoded) ++
        givenFrom (Segment.replaced fun _ => []) 1 (rest.map Prod.snd) := by
    rw [← content, ← fragment, Node.textContent, Node.fragment, same, content',
      flatMap_substitute_textsOf fits]
  rw [literalContent_of_empty empty first lengths] at whole
  have total := congrArg List.length whole
  have firstLe := Skeleton.length_substitute_builtText_le first.decoded
  have restLe := Skeleton.length_givenFrom_le 1 (rest.map Prod.snd)
  rw [List.length_append, List.length_append] at total
  exact ⟨.of_length_le (by omega), @Skeleton.transparent_of_length_le 1 _ (by omega)⟩

/-- For given texts without less-than signs, every template of these texts that holds texts
between them shows all of them exactly if each text is transparent on its own. -/
theorem showsLiteral_iff_transparent {chunks : List Chunk}
    (run : ∀ chunk ∈ chunks, '<' ∉ chunk.decoded)
    (shows : 1 < chunks.length ∨ ∃ chunk ∈ chunks, chunk.decoded ≠ [])
    (fits : 2 * chunks.length ≤ Skeleton.markerLimit) :
    (∀ template values, template.chunks = chunks → template.HoldsTexts values →
        ShowsLiteral host policy session template values) ↔
      ∀ chunk ∈ chunks, Transparent chunk.decoded := by
  have nonempty (template : Template) (same : template.chunks = chunks) :
      template.rest.map Prod.snd ≠ [] ∨ template.first.decoded ≠ [] := by
    subst same
    simp only [Template.chunks, List.length_cons, List.mem_cons] at shows
    rcases shows with several | ⟨chunk, rfl | member, visible⟩
    · exact .inl (List.ne_nil_of_length_pos (by omega))
    · exact .inr visible
    · exact .inl (List.ne_nil_of_mem member)
  constructor
  · intro shown
    cases chunks with
    | nil => simp
    | cons first others =>
      let hollow : Interpolation := { expr := [], source := .held (.text []) }
      let template : Template := { first, rest := others.map fun chunk => (hollow, chunk) }
      have same : template.chunks = first :: others := by
        simp [template, Template.chunks, Function.comp_def]
      have holds : template.HoldsTexts (others.map fun _ => []) := by
        simp only [Template.HoldsTexts, Template.interpolations, template, List.map_map,
          List.forall₂_map_left_iff, List.forall₂_map_right_iff]
        exact List.forall₂_same.mpr fun _ _ => ⟨rfl, rfl, rfl⟩
      have transparent := transparent_of_showsLiteral (by rwa [same]) (nonempty template same)
        (by rwa [same]) holds (by simp) (shown template _ same holds)
      rwa [same] at transparent
  · rintro transparent template values rfl holds
    exact showsLiteral_of_transparent run (nonempty template rfl) fits holds transparent

end Literal

/-- Dollar signs, markers and references between two interpolations are shown, and so is a
single reference to a dollar sign. -/
theorem showsLiteral_dollars_and_markers :
    let chunks : List Chunk := [.ofText "$$ x$1x &#36;5".toList, .ofText "&lt;b&#36;x $".toList]
    (∀ chunk ∈ chunks, '<' ∉ chunk.decoded) ∧
      ∀ template values, template.chunks = chunks → template.HoldsTexts values →
        ShowsLiteral Host.none .nodeWins { state := () } template values := by
  intro chunks
  have run : ∀ chunk ∈ chunks, '<' ∉ chunk.decoded := by decide
  have transparent : ∀ chunk ∈ chunks, Transparent chunk.decoded := by decide +kernel
  exact ⟨run, (showsLiteral_iff_transparent run (.inl (by decide)) (by decide)).mpr transparent⟩

/-- A reference to a dollar sign is decoded behind the protection of literal text, so that what
it spells out can be a marker, and one that stands for nothing. -/
theorem not_showsLiteral_dollar_reference :
    '<' ∉ (Chunk.ofText "x&#36;0x".toList).decoded ∧
      ¬ ShowsLiteral Host.none .nodeWins { state := () }
        { first := .ofText "x&#36;0x".toList } [] := by
  refine ⟨by decide, ?_⟩
  rintro ⟨node, session', ran, _⟩
  have failed : seen (render Host.none (Template.items { first := .ofText "x&#36;0x".toList })
      .nodeWins { state := () }) = (.error (.danglingMarker 0), []) := by decide +kernel
  rw [ran] at failed
  cases failed

end Resolve

end HtmlTemplate
