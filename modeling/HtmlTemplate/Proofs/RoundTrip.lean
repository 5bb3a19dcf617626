import HtmlTemplate.Proofs.Building
import HtmlTemplate.Proofs.Dictionaries
import HtmlTemplate.Proofs.Filling
import HtmlTemplate.Proofs.Spelling

/-!
# Rendered trees come back

The markup of a tree whose names can be read back, given as the only text of a template,
resolves to the settled form of that tree.
-/

namespace HtmlTemplate

open Markup

namespace Markup

/-- The node with some children outside of all elements: a single element is the node itself,
and anything else comes under a fragment. -/
def nodeOf : List Child → Node
  | [.element tag attributes children] => { tag, attributes, children }
  | children => Node.fragment children

end Markup

namespace Skeleton

/-! ## Spelled trees are built -/

mutual

/-- The part of a skeleton that a settled child is built as. -/
def partOf : Child → Part
  | .text content => .text (protect content)
  | .element tag attributes children =>
    .element (some tag) (protectedAttributes attributes) (partsOf children)

/-- The parts of a skeleton that settled children are built as. -/
def partsOf : List Child → List Part
  | [] => []
  | child :: rest => partOf child :: partsOf rest

end

namespace Builder

theorem protectedAttributes_settled (attributes : Attributes) :
    protectedAttributes (settledAttributes attributes) = protectedAttributes attributes := by
  simp only [protectedAttributes, settledAttributes, List.map_map]
  apply List.map_congr_left
  rintro ⟨key, value⟩ _
  cases value <;> rfl

/-- The tokens of a tree add the tree's parts. -/
theorem handleAll_spelledBy {children : List Child} {tokens : List Token}
    (spells : SpelledBy children tokens) (builder : Builder) (item : Nat) (more : List Token) :
    builder.handleAll item (tokens ++ more) =
      (builder.appendAll (partsOf children)).handleAll item more := by
  induction spells generalizing builder more with
  | nil => rfl
  | text _ _ inductionHypothesis =>
    rw [List.cons_append, handleAll_of_ok rfl, inductionHypothesis]
    rfl
  | closed _ _ _ inductionHypothesis =>
    rw [List.cons_append, handleAll_of_ok rfl, inductionHypothesis, partsOf, appendAll_cons, partOf,
      protectedAttributes_settled]
    rfl
  | @element tag attributes inside children _ tokens _ _ _ _ within inductionHypothesis =>
    let element : OpenElement :=
      { tag, attributes := protectedAttributes attributes, children := partsOf inside, item }
    let opened : Builder := { builder with opened := element :: builder.opened }
    have ended : opened.handle (.endTag element.tag) item =
        .ok (opened.finish element builder.opened) := handle_endTag rfl item
    rw [List.cons_append, handleAll_of_ok rfl, List.append_assoc, within, appendAll_opened,
      List.cons_append, List.nil_append, handleAll_of_ok ended, inductionHypothesis, partsOf,
      appendAll_cons, partOf, protectedAttributes_settled]
    rfl

end Builder

/-- A text that is read as some children has a skeleton with their parts. -/
theorem ofItems_of_reads {children : List Child} (nonempty : children ≠ []) {chunk : Chunk}
    (reads : ReadsAsInside (protect chunk.decoded) children) :
    ofItems [.text chunk] = .ok (treeOf (partsOf children)) := by
  obtain ⟨tokens, spells, scanned⟩ := reads false [] (.inl rfl)
  rw [List.append_nil, scan_nil, List.append_nil] at scanned
  have fed : ({} : Builder).feed (.text chunk) =
      (.ok (), { roots := partsOf children, index := 1 }) := by
    have handled := Builder.handleAll_spelledBy spells { index := 1 } 0 []
    rw [List.append_nil, Builder.appendAll_roots _ rfl] at handled
    simp only [Builder.feed, Tokenizer.feed, marked, List.nil_append, Item.interpolation?, scanned]
    exact handled
  simp only [ofItems, Builder.feedAll, fed]
  simp only [Except.bind, Builder.result, Tokenizer.close, scan_nil, Builder.handleAll]
  rcases children with _ | ⟨_ | _, _ | ⟨_, _⟩⟩
  · exact absurd rfl nonempty
  all_goals rfl

theorem ReadsAs.inside {text : Text} {children : List Child} (reads : ReadsAs text children) :
    ReadsAsInside text children :=
  fun atEnd rest _ => reads atEnd rest

/-- The skeleton of a rendered tree has that tree's parts. -/
theorem ofItems_render {node : Node} (readable : node.Readable) {chunk : Chunk}
    (rendered : chunk.decoded = node.render) :
    ofItems [.text chunk] =
      .ok { tag := some node.tag
            attributes := protectedAttributes node.attributes
            children := partsOf (settledChildren node.children) } := by
  have readBack : ReadsAs (protect chunk.decoded) [node.settled.toChild] := by
    rw [rendered]
    exact readsBack_of_readable readable
  rw [ofItems_of_reads (by simp) readBack.inside, ← Builder.protectedAttributes_settled]
  rfl

end Skeleton

namespace Resolve

open Skeleton (protect split protectedAttributes partOf partsOf SpelledBy)

namespace Filling

variable {σ : Type} (filling : Filling σ)

/-! ## Spelled trees are filled -/

/-- The fragments of a protected text are that text, unless it is empty. -/
theorem fill_protect {α : Type} {ofLiteral : Text → α}
    {convert : Value → Resolution σ (Converted α)} {text : Text} (nonempty : text ≠ []) :
    Gives (filling.fill ofLiteral convert (protect text)) [ofLiteral text] :=
  filling.fill_gives_literal (Skeleton.split_protect nonempty)

theorem attributeName_gives {name : Text} (valid : isAttributeName name = true) :
    Gives (attributeName name : Resolution σ Text) name := by
  rw [attributeName, if_pos valid]
  exact .pure name

theorem fillAttribute_gives {key : Text} (valid : isAttributeName key = true)
    (value : Attribute) :
    Gives (filling.fillAttribute key (value.value?.map protect)) [(key, value.settled)] := by
  have nonempty : key ≠ [] := isAttributeName_ne_nil valid
  have single : split key = [.literal key] :=
    Skeleton.split_eq_self nonempty (not_mem_of_isAttributeName '$' valid (by decide))
  have name := attributeName_gives (σ := σ) valid
  cases valued : value.value? with
  | none =>
    have settled : value.settled = .flag true := by
      cases value <;> first | rfl | cases valued
    have alone : Gives (filling.fillAttributeValue key) [.text key] :=
      filling.fill_gives_literal single
    rw [settled]
    exact alone.bind ((Gives.pure _).bind (name.bind (.pure _)))
  | some text =>
    have settled : value.settled = .text text := by
      cases value <;> cases valued <;> rfl
    have alone : Gives (filling.fillAttributeKey key) [key] := filling.fill_gives_literal single
    rw [settled]
    refine alone.bind ((Gives.pure _).bind (name.bind ?_))
    by_cases empty : text = []
    · subst empty
      have nothing : Gives (filling.fillAttributeValue []) [] :=
        filling.fill_gives_nil AttributePart.text convertAttributeValue
      exact nothing.bind (.pure _)
    · have whole : Gives (filling.fillAttributeValue (protect text)) [.text text] :=
        filling.fill_protect empty
      exact whole.bind (.pure _)

theorem fillAttributes_gives {attributes : Attributes} (keyed : ReadableKeys attributes) :
    Gives (filling.fillAttributes (protectedAttributes attributes))
      (settledAttributes attributes) := by
  have each : List.Forall₂
      (fun written result => Gives (filling.fillAttribute written.1 written.2) result)
      (protectedAttributes attributes)
      ((settledAttributes attributes).map fun entry => [entry]) := by
    simp only [protectedAttributes, settledAttributes, List.map_map, List.forall₂_map_left_iff,
      List.forall₂_map_right_iff]
    rw [List.forall₂_same]
    intro entry member
    exact filling.fillAttribute_gives (keyed.valid entry member) entry.2
  have distinct : (Dictionary.keys (settledAttributes attributes)).Nodup := by
    have same : Dictionary.keys (settledAttributes attributes) = Dictionary.keys attributes := by
      simp [Dictionary.keys, settledAttributes]
    rw [same]
    exact keyed.distinct
  have entered :
      ((settledAttributes attributes).map fun entry => [entry]).foldl Dictionary.extend [] =
        settledAttributes attributes :=
    Dictionary.foldl_extend_singleton (by rwa [List.nil_append])
  have gives : Gives (filling.fillAttributes (protectedAttributes attributes))
      (((settledAttributes attributes).map fun entry => [entry]).foldl Dictionary.extend []) :=
    (Gives.mapM each).bind (.pure _)
  rwa [entered] at gives

theorem fillAttributes_gives_nil : Gives (filling.fillAttributes []) [] := by
  have keyed : ReadableKeys [] := ⟨by simp, by simp, .nil⟩
  exact filling.fillAttributes_gives keyed

theorem fillTag_gives_of_isTagName {tag : Text} (valid : isTagName tag = true)
    (attributes : Attributes) (children : List Child) :
    Gives (filling.fillTag (some tag) attributes children) { tag, attributes, children } := by
  have single : split tag = [.literal tag] :=
    Skeleton.split_eq_self (of_isTagName valid).1
      (not_mem_sign_of_isTagName valid '$' (by decide))
  have alone : Gives (filling.fillName tag) [.text tag] := filling.fill_gives_literal single
  have text : nameText? [.text tag] = some tag := by simp [nameText?]
  refine alone.bind ?_
  simp only [text, valid, if_true]
  exact .pure _

theorem fillTag_gives {tag : Text} (named : ReadableTag tag) (attributes : Attributes)
    (children : List Child) :
    Gives (filling.fillTag (some tag) attributes children) { tag, attributes, children } :=
  filling.fillTag_gives_of_isTagName named.valid attributes children

/-- An element is filled to itself if what stands inside it is. -/
theorem fillPart_element_gives {tag : Text} {attributes : Attributes} {children : List Child}
    (named : SettledTag tag) (keyed : ReadableKeys attributes)
    (inside : Gives (filling.fillParts (partsOf children)) children) :
    Gives (filling.fillPart (partOf (.element tag (settledAttributes attributes) children)))
      [.element tag (settledAttributes attributes) children] := by
  rw [partOf, fillPart, Skeleton.Builder.protectedAttributes_settled]
  exact inside.bind ((filling.fillAttributes_gives keyed).bind
    ((filling.fillTag_gives_of_isTagName named.valid _ _).bind (.pure _)))

/-- A spelled tree is filled to itself. -/
theorem fillParts_gives {children : List Child} {tokens : List Token}
    (spells : SpelledBy children tokens) :
    Gives (filling.fillParts (partsOf children)) children := by
  induction spells with
  | nil =>
    rw [partsOf, fillParts]
    exact .pure []
  | @text content _ _ nonempty _ inductionHypothesis =>
    have first : Gives (filling.fillChild (protect content)) [.text content] :=
      filling.fill_protect nonempty
    rw [partsOf, fillParts, partOf, fillPart]
    exact first.bind (inductionHypothesis.bind (.pure _))
  | closed named keyed _ inductionHypothesis =>
    rw [partsOf, fillParts]
    have inside : Gives (filling.fillParts (partsOf [])) [] := by
      rw [partsOf, fillParts]
      exact .pure []
    exact (filling.fillPart_element_gives named keyed inside).bind
      (inductionHypothesis.bind (.pure _))
  | element named keyed _ _ inside inductionHypothesis =>
    rw [partsOf, fillParts]
    exact (filling.fillPart_element_gives named keyed inside).bind
      (inductionHypothesis.bind (.pure _))

/-- The skeleton of a spelled tree is filled to that tree. -/
theorem fillTree_gives {children : List Child} {tokens : List Token}
    (spells : SpelledBy children tokens) :
    Gives (filling.fillTree (Skeleton.treeOf (partsOf children))) (nodeOf children) := by
  have grouped : Gives (filling.fillTree { children := partsOf children })
      (Node.fragment children) := by
    exact (filling.fillParts_gives spells).bind (filling.fillAttributes_gives_nil.bind (.pure _))
  have alone {tag : Text} {attributes : Attributes} {inside : List Child}
      {tokensInside : List Token} (named : SettledTag tag) (keyed : ReadableKeys attributes)
      (within : SpelledBy inside tokensInside) :
      Gives
        (filling.fillTree
          (Skeleton.treeOf (partsOf [.element tag (settledAttributes attributes) inside])))
        (nodeOf [.element tag (settledAttributes attributes) inside]) := by
    have keys := filling.fillAttributes_gives keyed
    rw [← Skeleton.Builder.protectedAttributes_settled] at keys
    exact (filling.fillParts_gives within).bind
      (keys.bind (filling.fillTag_gives_of_isTagName named.valid _ _))
  rcases children with _ | ⟨_ | _, _ | ⟨_, _⟩⟩
  · exact grouped
  · exact grouped
  · exact grouped
  · cases spells with
    | closed named keyed _ => exact alone named keyed .nil
    | element named keyed within _ => exact alone named keyed within
  · exact grouped

end Filling

/-- A text that is read as some children resolves to the node with these children. -/
theorem render_of_reads {σ : Type} (host : Host σ) (policy : MergePolicy) {children : List Child}
    (nonempty : children ≠ []) {chunk : Chunk}
    (reads : Skeleton.ReadsAsInside (protect chunk.decoded) children) :
    Gives (render host [.text chunk] policy) (nodeOf children) := by
  obtain ⟨tokens, spells, _⟩ := reads false [] (.inl rfl)
  simp only [render, Skeleton.ofItems_of_reads nonempty reads]
  exact Filling.fillTree_gives { host, items := [.text chunk], policy } spells

/-- The markup of a node whose names can be read back resolves to the settled form of that
node, whatever its texts and values hold. -/
theorem render_text_render {σ : Type} (host : Host σ) (policy : MergePolicy) {node : Node}
    (readable : node.Readable) {chunk : Chunk} (rendered : chunk.decoded = node.render) :
    Gives (render host [.text chunk] policy) node.settled := by
  let filling : Filling σ := { host, items := [.text chunk], policy }
  have built := Skeleton.ofItems_render readable rendered
  have readBack : Skeleton.ReadsAs _ _ := Skeleton.readsBack_of_readable readable
  obtain ⟨tokens, spells, _⟩ := readBack false []
  obtain ⟨tokensInside, within⟩ := spells.inside
  obtain ⟨tag, attributes, children⟩ := node
  cases readable with
  | element named keyed _ =>
    have filled : Gives
        (filling.fillTree
          { tag := some tag
            attributes := protectedAttributes attributes
            children := partsOf (settledChildren children) })
        (Node.settled { tag, attributes, children }) :=
      (filling.fillParts_gives within).bind
        ((filling.fillAttributes_gives keyed).bind (filling.fillTag_gives named _ _))
    simp only [render, built]
    exact filled

/-- A paragraph whose texts and values look like markers, references and quotes comes back
with its texts and its declarations joined. -/
theorem render_text_render_paragraph :
    Gives
      (render Host.none
        [.text (.ofText
          ("<p title=\"x$0x&quot;\" n=\"-3\" style=\"color: red; width: 1px\" hidden>".toList ++
            "&amp;x$1x&lt;<b></b></p>".toList))]
        .nodeWins)
      { tag := "p".toList
        attributes :=
          [("title".toList, .text "x$0x\"".toList), ("n".toList, .text "-3".toList),
            ("style".toList, .text "color: red; width: 1px".toList),
            ("hidden".toList, .flag true)]
        children := [.text "&x$1x<".toList, .element "b".toList [] []] } := by
  have bold : Child.Readable (.element "b".toList [] [.text []]) :=
    .element ⟨by decide, by decide, by decide, by decide⟩
      ⟨by decide, by decide, by decide⟩ (by simpa using .text [])
  let node : Node :=
    { tag := "p".toList
      attributes :=
        [("title".toList, .text "x$0x\"".toList), ("n".toList, .number (-3)),
          ("style".toList,
            .declarations
              [("color".toList, "red".toList), ("width".toList, "1px".toList)]),
          ("hidden".toList, .flag false)]
      children := [.text "&x".toList, .text "$1x<".toList, .element "b".toList [] [.text []]] }
  have readable : node.Readable := by
    refine .element ⟨by decide, by decide, by decide, by decide⟩
      ⟨by decide, by decide, by decide⟩ ?_
    intro child member
    simp only [node, List.mem_cons, List.not_mem_nil, or_false] at member
    rcases member with rfl | rfl | rfl
    · exact .text _
    · exact .text _
    · exact bold
  have settled : node.settled =
      { tag := "p".toList
        attributes :=
          [("title".toList, .text "x$0x\"".toList), ("n".toList, .text "-3".toList),
            ("style".toList, .text "color: red; width: 1px".toList),
            ("hidden".toList, .flag true)]
        children := [.text "&x$1x<".toList, .element "b".toList [] []] } := by
    have number : (Attribute.number (-3)).settled = .text "-3".toList :=
      congrArg Attribute.text (by decide +kernel)
    simp only [node, Node.settled, settledAttributes, List.map_cons, List.map_nil, number]
    rfl
  rw [← settled]
  refine render_text_render Host.none .nodeWins readable ?_
  decide +kernel

end Resolve

end HtmlTemplate
