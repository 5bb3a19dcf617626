import HtmlTemplate.Proofs.CallSite
import HtmlTemplate.Proofs.SourceTokens

/-!
# Tags named by a value

The name of an element is checked when the tree is filled, and markup is read by a rule of its own:
a tag begins only where a letter stands behind the less-than sign, but a name may begin with any
word character or a hyphen as well. So an element whose name comes from a value is read back as the
same tag exactly if the name begins with a letter; if not, its markup is read as text
(`tokenize_render_closedTagOf`).
-/

namespace HtmlTemplate

open Markup

/-- A template of one tag that closes itself, with an interpolation for its name, as items. -/
def closedTagOf (interpolation : Interpolation) : List Item :=
  [.text (.ofText ['<']), .interpolation interpolation, .text (.ofText ['/', '>'])]

namespace Markup

theorem tokenize_singleton (text : Text) : tokenize [text] = tokensOfSource none text := by
  simp [tokenize, Tokenizer.feedAll, Tokenizer.feed, Tokenizer.close, tokensOfSource, tokensOf]

/-- Behind a less-than sign a valid name begins a tag if it begins with a letter; if not, the sign
is a literal one. -/
theorem readMarkup_closedTag {name : Text} (valid : Resolve.isTagName name = true) :
    readMarkup (name ++ ['/', '>']) =
      if beginsWithLetter name then .token (.startTag (Text.lowercase name) [] true) []
      else .literal := by
  obtain ⟨nonempty, _⟩ := Resolve.of_isTagName valid
  rcases name with _ | ⟨c, name⟩
  · exact absurd rfl nonempty
  cases letter : Text.isAsciiLetter c with
  | true =>
    have keyed : ∀ entry ∈ ([] : Attributes), Resolve.isAttributeName entry.1 = true := by simp
    have read : readStartTag (c :: name ++ ['/', '>']) =
        .token (.startTag (Text.lowercase (c :: name)) [] true) [] :=
      readStartTag_render valid keyed true []
    have begins : beginsWithLetter (c :: name) = true := letter
    rw [if_pos begins, ← read]
    exact readMarkup_letter letter _
  | false =>
    have foreign : ['!', '?', '/'].all
        (fun mark => !Text.isWordChar mark && mark ≠ '-') = true := by
      decide
    have other : c ∉ ['!', '?', '/'] := by
      intro sign
      have apart := List.all_eq_true.mp foreign c sign
      simp only [Bool.and_eq_true, Bool.not_eq_true', decide_eq_true_eq] at apart
      exact Resolve.not_mem_of_isTagName c valid apart.1 apart.2 (by simp)
    have begins : ¬ beginsWithLetter (c :: name) = true := by simp [beginsWithLetter, letter]
    rw [if_neg begins]
    exact readMarkup_literal letter other _

/-- A tag that closes itself is read back with its name in small letters if that begins with a
letter, and is all text if not. -/
theorem tokenize_closedTag {name : Text} (valid : Resolve.isTagName name = true) :
    tokenize ['<' :: (name ++ ['/', '>'])] =
      [if beginsWithLetter name then .startTag (Text.lowercase name) [] true
        else .text ('<' :: (name ++ ['/', '>']))] := by
  have sign := Resolve.not_mem_sign_of_isTagName valid
  have read := readMarkup_closedTag valid
  rw [tokenize_singleton]
  split at read
  · rename_i letter
    rw [tokensOfSource_of_forward (scanStep_token read false), if_pos letter]
    simp [tokensOfSource, rawElementAfter]
  · rename_i letter
    have run : '<' ∉ name ++ ['/', '>'] := by simpa using sign '<' (by decide)
    have plain : '&' ∉ '<' :: (name ++ ['/', '>']) := by simpa using sign '&' (by decide)
    have whole := takeWhile_append_of_notMem run []
    rw [List.append_nil] at whole
    rw [tokensOfSource_of_forward (scanStep_literal read false), if_neg letter, whole.1, whole.2]
    simp [tokensOfSource, textToken, decodeReferences_eq_self plain]

end Markup

namespace Skeleton

/-- The skeleton of a tag with an interpolation for its name is the element with the marker of that
interpolation for its name. -/
theorem ofItems_closedTagOf (interpolation : Interpolation) :
    ofItems (closedTagOf interpolation) = .ok { tag := some (marker 1) } := by
  let opened : Builder := { tokenizer := { pending := ['<'] }, index := 1 }
  let named : Builder :=
    { tokenizer := { pending := '<' :: marker 1 }, index := 2, exprs := [(1, interpolation.expr)] }
  let closed : Builder :=
    { roots := [.element (some (marker 1)) [] []], index := 3, exprs := [(1, interpolation.expr)] }
  have fedSign : ({} : Builder).feed (.text (.ofText ['<'])) = (.ok (), opened) := by
    have tokens : ({} : Tokenizer).feed (marked 0 (.text (.ofText ['<']))) =
        ([], { pending := ['<'] }) := by decide +kernel
    exact Builder.feed_of_tokens {} _ tokens
  have fedMarker : opened.feed (.interpolation interpolation) = (.ok (), named) := by
    have tokens : opened.tokenizer.feed (marker 1) = ([], { pending := '<' :: marker 1 }) := by
      decide +kernel
    exact Builder.feed_of_tokens opened (.interpolation interpolation) tokens
  have fedEnd : named.feed (.text (.ofText ['/', '>'])) = (.ok (), closed) := by
    have tokens : ({ pending := '<' :: marker 1 } : Tokenizer).feed
        (marked 2 (.text (.ofText ['/', '>']))) = ([.startTag (marker 1) [] true], {}) := by
      decide +kernel
    exact Builder.feed_of_tokens named _ tokens
  have handled : closed.handleAll (closed.index - 1) closed.tokenizer.close.1 =
      (.ok (), closed) := by
    simp only [closed, Tokenizer.close, scan_nil, Builder.handleAll]
  rw [ofItems, closedTagOf, Builder.feedAll_of_ok fedSign, Builder.feedAll_of_ok fedMarker,
    Builder.feedAll_of_ok fedEnd]
  exact Builder.result_of_closed handled rfl

end Skeleton

namespace Resolve

variable {σ : Type} {host : Host σ} {policy : MergePolicy}

/-- An element has the text that its tag's interpolation holds for its name, if that is valid. -/
theorem render_closedTagOf {interpolation : Interpolation} {name : Text}
    (holds : interpolation.HoldsText name) (valid : isTagName name = true) :
    Gives (render host (closedTagOf interpolation) policy) { tag := name } := by
  let filling : Filling σ := { host, items := closedTagOf interpolation, policy }
  have converts : Gives (convertName host (.text name)) (.one (.text name)) :=
    (Gives.pure (NamePart.text name)).bind (.pure _)
  have named : Gives (filling.fillName (Skeleton.marker 1)) [.text name] :=
    filling.fill_gives_marker (by decide) rfl holds.holds converts
  have tagged : Gives (filling.fillTag (some (Skeleton.marker 1)) [] []) { tag := name } := by
    have text : Filling.nameText? [.text name] = some name := by simp [Filling.nameText?]
    refine named.bind ?_
    simp only [text, valid, if_true]
    exact .pure _
  simp only [render, Skeleton.ofItems_closedTagOf]
  exact (Gives.pure _).bind (filling.fillAttributes_gives_nil.bind tagged)

/-- An element whose valid name comes from a value and is in small letters is rendered as one tag
that closes itself. It is read back as that tag if the name begins with a letter, and as a text if
it begins with anything else that a name can begin with. -/
theorem tokenize_render_closedTagOf {interpolation : Interpolation} {name : Text}
    (holds : interpolation.HoldsText name) (valid : isTagName name = true)
    (small : Text.lowercase name = name) :
    ∃ node, Gives (render host (closedTagOf interpolation) policy) node ∧
      node.render = '<' :: (name ++ ['/', '>']) ∧
      tokenize [node.render] =
        [if beginsWithLetter name then .startTag name [] true else .text node.render] := by
  have nonempty : name.isEmpty = false := by simpa using (of_isTagName valid).1
  have rendered : Node.render { tag := name } = '<' :: (name ++ ['/', '>']) := by
    simp [Node.render, Node.toChild, Child.render, renderElement, renderAttributes, nonempty]
  refine ⟨{ tag := name }, render_closedTagOf holds valid, rendered, ?_⟩
  rw [rendered, tokenize_closedTag valid, small]

/-- An element with a hyphen in its name is read back as the same tag. -/
theorem tokenize_render_closedTagOf_hyphen :
    ∃ node,
      Gives (render Host.none
        (closedTagOf { expr := ['v'], source := .held (.text "my-element".toList) }) .nodeWins)
        node ∧
      node.render = '<' :: ("my-element".toList ++ ['/', '>']) ∧
      tokenize [node.render] =
        [if beginsWithLetter "my-element".toList then .startTag "my-element".toList [] true
          else .text node.render] :=
  tokenize_render_closedTagOf ⟨rfl, rfl, rfl⟩ (by decide) (by decide)

/-- An element whose name begins with an underscore is read back as text. -/
theorem tokenize_render_closedTagOf_underscore :
    isTagName ['_', 'x'] = true ∧ Text.lowercase ['_', 'x'] = ['_', 'x'] ∧
      ['_', 'x'] ∉ rawElements ∧
      ∃ node,
        renderPlain (closedTagOf { expr := ['v'], source := .held (.text ['_', 'x']) }) .nodeWins =
            .ok node ∧
          tokenize [node.render] ≠ [.startTag ['_', 'x'] [] true] := by
  have rendered : (renderPlain
      (closedTagOf { expr := ['v'], source := .held (.text ['_', 'x']) }) .nodeWins).map
        Node.render = .ok "<_x/>".toList := by decide +kernel
  obtain ⟨node, ran, markup⟩ := exists_of_map_eq_ok rendered
  refine ⟨by decide, by decide, by decide, node, ran, ?_⟩
  rw [markup]
  decide +kernel

end Resolve

end HtmlTemplate
