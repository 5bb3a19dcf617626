import HtmlTemplate.Proofs.Dictionaries
import HtmlTemplate.Proofs.FirstTags
import HtmlTemplate.Proofs.RoundTrip

/-!
# Attributes at the place of a node

A node that is put in the place of a tag's name takes over the attributes that stand there, under
either policy. They are in the tree, but they are written only if the node has a tag: of a
fragment nothing is written but what stands inside it, so its attributes get lost
(`fillTag_carries_iff`).
-/

namespace HtmlTemplate

namespace Markup

/-! ## Nodes with and without a tag -/

/-- A node with a tag is itself what is written first. -/
theorem first?_toChild_of_tagged {node : Node} (tagged : node.isFragment = false) :
    node.toChild.first? = some node.toChild := by
  have named : node.tag.isEmpty = false := tagged
  simp [Node.toChild, Child.first?, named]

/-- Of a fragment it is what is written first inside. -/
theorem first?_toChild_of_isFragment {node : Node} (untagged : node.isFragment = true) :
    node.toChild.first? = firstOf? node.children := by
  have empty : node.tag.isEmpty = true := untagged
  simp [Node.toChild, Child.first?, empty]

/-- The markup of a node that has some keys begins with a start tag that has them, unless it is a
fragment: then what is written first inside has to have them. -/
theorem beginsWithTag_render_node_iff {node : Node} (plain : node.toChild.PlainFirst)
    {keys : List Text} (held : keys ⊆ Dictionary.keys node.attributes) :
    BeginsWithTag keys node.render ↔
      (node.isFragment = true → FirstCarries keys node.children) := by
  have alone : firstOf? [node.toChild] = node.toChild.first? := by simp [firstOf?]
  rw [Node.render, Child.beginsWithTag_render_iff plain, FirstCarries, alone]
  cases untagged : node.isFragment with
  | false =>
    rw [first?_toChild_of_tagged untagged]
    exact iff_of_true ⟨_, _, _, rfl, held⟩ (by simp)
  | true =>
    rw [first?_toChild_of_isFragment untagged, FirstCarries]
    simp

/-- A node with valid names is written with its own start tag first. -/
theorem isStartTag_render_of_valid {node : Node} (valid : Resolve.isTagName node.tag = true)
    (keyed : ∀ entry ∈ node.attributes, Resolve.isAttributeName entry.1 = true) :
    IsStartTag node.tag (Dictionary.keys node.attributes) node.render := by
  have tagged : node.isFragment = false := by
    simpa [Node.isFragment] using (Resolve.of_isTagName valid).1
  exact (Child.isStartTag_render_iff (first?_toChild_of_tagged tagged)).mpr (.of_valid valid keyed)

/-- Of a fragment only what stands inside is written. -/
theorem render_of_isFragment {node : Node} (untagged : node.isFragment = true) :
    node.render = renderChildren node.children := by
  have empty : node.tag.isEmpty = true := untagged
  simp [Node.render, Node.toChild, Child.render, renderElement, empty]

/-- The start tag of a node with valid names is read back with all of its keys. -/
theorem exists_readMarkup_render {node : Node} (valid : Resolve.isTagName node.tag = true)
    (keyed : ∀ entry ∈ node.attributes, Resolve.isAttributeName entry.1 = true)
    (letter : beginsWithLetter node.tag = true) :
    ∃ text closing behind, node.render = '<' :: text ∧
      readMarkup text =
        .token (.startTag (Text.lowercase node.tag) (writtenAttributes node.attributes) closing)
          behind := by
  have nonempty : node.tag ≠ [] := (Resolve.of_isTagName valid).1
  obtain ⟨closing, rest, rendered⟩ := exists_render_tagEnd nonempty node.attributes node.children
  refine ⟨_, closing, rest, rendered, ?_⟩
  rw [← readStartTag_render valid keyed closing rest]
  cases tag : node.tag with
  | nil => exact absurd tag nonempty
  | cons c more =>
    rw [tag] at letter
    exact readMarkup_letter (by simpa [beginsWithLetter] using letter) _

end Markup

namespace Resolve

open Markup

variable {σ : Type}

/-! ## Merging -/

/-- Under either policy a merged node has the keys of both. -/
theorem mem_keys_merge {policy : MergePolicy} {html : Node} {attributes : Attributes}
    {children : List Child} {key : Text} :
    key ∈ Dictionary.keys (merge policy html attributes children).attributes ↔
      key ∈ Dictionary.keys html.attributes ∨ key ∈ Dictionary.keys attributes := by
  cases policy with
  | nodeWins => exact Dictionary.mem_keys_extendNew
  | callSiteWins => exact Dictionary.mem_keys_extend

/-- A fragment that is merged is written the same, whatever attributes stand at its place. -/
theorem render_merge_of_isFragment {policy : MergePolicy} {html : Node}
    (untagged : html.isFragment = true) (attributes : Attributes) (children : List Child) :
    (merge policy html attributes children).render = renderChildren (html.children ++ children) :=
  render_of_isFragment untagged

namespace Filling

variable {filling : Filling σ} {tag : Text} {attributes : Attributes} {children : List Child}
  {session session' : Session σ} {node : Node}

/-- No attribute at the place of a tag gets lost in the tree. -/
theorem keys_subset_of_fillTag
    (filled : filling.fillTag (some tag) attributes children session = .ok node session') :
    Dictionary.keys attributes ⊆ Dictionary.keys node.attributes := by
  rw [fillTag_eq_bind] at filled
  obtain ⟨parts, between, _, placed⟩ := exists_of_bind_eq_ok filled
  intro key member
  obtain ⟨_, ⟨html, _, rfl⟩ | ⟨name, _, rfl⟩⟩ := placeName_eq_ok placed
  · exact mem_keys_merge.mpr (.inr member)
  · exact member

/-- A tag is filled to a fragment only if a fragment takes its place, and that is written the
same with any other attributes. -/
theorem exists_fillTag_of_isFragment
    (filled : filling.fillTag (some tag) attributes children session = .ok node session')
    (untagged : node.isFragment = true) (others : Attributes) :
    ∃ other, filling.fillTag (some tag) others children session = .ok other session' ∧
      other.render = node.render := by
  rw [fillTag_eq_bind] at filled
  obtain ⟨parts, between, named, placed⟩ := exists_of_bind_eq_ok filled
  obtain ⟨rfl, ⟨html, rfl, rfl⟩ | ⟨name, valid, rfl⟩⟩ := placeName_eq_ok placed
  · refine ⟨merge filling.policy html others children, ?_, ?_⟩
    · rw [fillTag_eq_bind]
      simp only [Bind.bind, EStateM.bind, named]
      rfl
    · have within : html.isFragment = true := untagged
      rw [render_merge_of_isFragment within, render_merge_of_isFragment within]
  · exact absurd (List.isEmpty_iff.mp untagged) (of_isTagName valid).1

/-- No attribute at the place of a tag gets lost in the tree. If the names of what is written
first are plain, the markup begins with a start tag that carries every key, unless the node is a
fragment: then it carries the keys only if the first element inside happens to have them. Valid
names are plain, and every key is read back from them; of names that are not plain no start tag is
written at all. Of a fragment all attributes get lost: its markup is the same with any others. -/
theorem fillTag_carries_iff
    (filled : filling.fillTag (some tag) attributes children session = .ok node session') :
    Dictionary.keys attributes ⊆ Dictionary.keys node.attributes ∧
      (node.toChild.PlainFirst →
        (BeginsWithTag (Dictionary.keys attributes) node.render ↔
          (node.isFragment = true → FirstCarries (Dictionary.keys attributes) node.children))) ∧
      (∀ first held inside, node.toChild.first? = some (.element first held inside) →
        (IsStartTag first (Dictionary.keys held) node.render ↔ PlainNames first held)) ∧
      (isTagName node.tag = true →
        (∀ entry ∈ node.attributes, isAttributeName entry.1 = true) →
        BeginsWithTag (Dictionary.keys attributes) node.render ∧
          (beginsWithLetter node.tag = true →
            ∃ text written closing behind, node.render = '<' :: text ∧
              readMarkup text =
                .token (.startTag (Text.lowercase node.tag) written closing) behind ∧
              ∀ key ∈ Dictionary.keys attributes, Text.lowercase key ∈ written.map Prod.fst)) ∧
      (node.isFragment = true → ∀ others, ∃ other,
        filling.fillTag (some tag) others children session = .ok other session' ∧
          other.render = node.render) := by
  have held := keys_subset_of_fillTag filled
  refine ⟨held, fun plain => beginsWithTag_render_node_iff plain held,
    fun first held inside found => Child.isStartTag_render_iff found, fun valid keyed => ⟨?_, ?_⟩,
    exists_fillTag_of_isFragment filled⟩
  · have start := isStartTag_render_of_valid valid keyed
    exact start.beginsWithTag_iff.mpr held
  · intro letter
    obtain ⟨text, closing, behind, rendered, read⟩ := exists_readMarkup_render valid keyed letter
    refine ⟨text, _, closing, behind, rendered, read, fun key member => ?_⟩
    obtain ⟨entry, within, rfl⟩ := List.mem_map.mp (held member)
    exact List.mem_map.mpr ⟨_, List.mem_map_of_mem within, rfl⟩

/-- A paragraph that takes the place of a tag carries the attribute there beside its own, in the
value of which the key stands as a word. -/
theorem fillTag_carries_paragraph :
    let paragraph : Node :=
      { tag := ['p'], attributes := [("title".toList, .text "a k b".toList)] }
    ∃ node session',
      (ofNode paragraph).fillTag (some (Skeleton.marker 0)) [(['k'], .text ['v'])] []
          { state := () } = .ok node session' ∧
        node.render = "<p title=\"a k b\" k=\"v\"/>".toList ∧
        BeginsWithTag [['k']] node.render ∧
        IsStartTag ['p'] ["title".toList, ['k']] node.render := by
  intro paragraph
  obtain ⟨session', filled⟩ :=
    ofNode_gives paragraph [(['k'], .text ['v'])] [] { state := () }
  let node : Node :=
    { tag := ['p'], attributes := [("title".toList, .text "a k b".toList), (['k'], .text ['v'])] }
  have merged : merge .nodeWins paragraph [(['k'], .text ['v'])] [] = node := rfl
  rw [merged] at filled
  have valid : isTagName node.tag = true := by decide
  have keyed : ∀ entry ∈ node.attributes, isAttributeName entry.1 = true := by decide
  obtain ⟨_, _, start, carries, _⟩ := fillTag_carries_iff filled
  exact ⟨node, session', filled, by decide, (carries valid keyed).1,
    (start _ _ _ rfl).mpr (.of_valid valid keyed)⟩

/-- A fragment in the place of the tag loses its attribute. -/
theorem not_fillTag_carries_fragment :
    ∃ node session',
      (ofNode (.fragment [.text "hi".toList])).fillTag (some (Skeleton.marker 0))
          [(['k'], .text ['v'])] [] { state := () } = .ok node session' ∧
        node.render = "hi".toList ∧ ¬ BeginsWithTag [['k']] node.render := by
  obtain ⟨session', filled⟩ :=
    ofNode_gives (.fragment [.text "hi".toList]) [(['k'], .text ['v'])] [] { state := () }
  refine ⟨_, session', filled, by decide, ?_⟩
  exact Child.not_beginsWithTag_render (by rintro _ _ _ ⟨⟩) _

end Filling

end Resolve

end HtmlTemplate
