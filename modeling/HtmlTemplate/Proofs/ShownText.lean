import HtmlTemplate.Proofs.FixedPoint
import HtmlTemplate.Proofs.LiteralSkeleton

/-!
# Shown texts are escaped twice

A text that is put into an element is escaped on the way into the tree and once more when the
tree is rendered, but reading the markup undoes one escape only. So what comes back is the
escaped text, which is the text itself exactly if nothing in it is escaped.
-/

namespace HtmlTemplate

open Markup

/-- A template of one paragraph with an interpolation inside, as items. -/
def paragraphOf (interpolation : Interpolation) : List Item :=
  [.text (.ofText "<p>".toList), .interpolation interpolation, .text (.ofText "</p>".toList)]

namespace Skeleton

/-- The skeleton of a paragraph is the element with the marker of its interpolation inside. -/
theorem ofItems_paragraphOf (interpolation : Interpolation) :
    ofItems (paragraphOf interpolation) =
      .ok { tag := some "p".toList, children := [.text (marker 1)] } := by
  let element : OpenElement := { tag := "p".toList, attributes := [], item := 0 }
  let filledElement : OpenElement := { element with children := [.text (marker 1)] }
  let opened : Builder := { opened := [element], index := 1 }
  let filled : Builder :=
    { opened := [filledElement], index := 2, exprs := [(1, interpolation.expr)] }
  let closed : Builder :=
    { roots := [filledElement.toPart], index := 3, exprs := [(1, interpolation.expr)] }
  have fedStart : ({} : Builder).feed (.text (.ofText "<p>".toList)) = (.ok (), opened) := by
    have tokens : ({} : Tokenizer).feed (marked 0 (.text (.ofText "<p>".toList))) =
        ([.startTag "p".toList [] false], {}) := by decide +kernel
    exact Builder.feed_of_tokens {} _ tokens
  have fedMarker : opened.feed (.interpolation interpolation) = (.ok (), filled) := by
    have tokens : ({} : Tokenizer).feed (marker 1) = ([.text (marker 1)], {}) := by decide +kernel
    exact Builder.feed_of_tokens opened (.interpolation interpolation) tokens
  have fedEnd : filled.feed (.text (.ofText "</p>".toList)) = (.ok (), closed) := by
    have tokens : ({} : Tokenizer).feed (marked 2 (.text (.ofText "</p>".toList))) =
        ([.endTag "p".toList], {}) := by decide +kernel
    have inside : ({ filled with index := 3 } : Builder).opened = [filledElement] := rfl
    rw [Builder.feed_of_tokens filled _ tokens]
    exact Builder.handleAll_of_ok (Builder.handle_endTag inside 2) []
  rw [ofItems, paragraphOf, Builder.feedAll_of_ok fedStart, Builder.feedAll_of_ok fedMarker,
    Builder.feedAll_of_ok fedEnd]
  simp only [Builder.feedAll, Except.bind, Builder.result, closed, Tokenizer.close, scan_nil,
    Builder.handleAll]
  rfl

end Skeleton

namespace Resolve

variable {σ : Type} {host : Host σ} {policy : MergePolicy}

/-- A paragraph has the escaped text for its only child. -/
theorem render_paragraphOf {interpolation : Interpolation} {value : Text}
    (holds : interpolation.HoldsText value) :
    Gives (render host (paragraphOf interpolation) policy)
      { tag := "p".toList, children := [.text (escape value)] } := by
  let filling : Filling σ := { host, items := paragraphOf interpolation, policy }
  have inside : Gives (filling.fillParts [.text (Skeleton.marker 1)]) [.text (escape value)] := by
    have gives : Gives (filling.fillChild (Skeleton.marker 1)) [.text (escape value)] :=
      filling.fill_gives_marker (by decide) rfl holds.holds (convertChild_gives host value)
    rw [Filling.fillParts, Filling.fillParts, Filling.fillPart]
    exact gives.bind ((Gives.pure _).bind (.pure _))
  simp only [render, Skeleton.ofItems_paragraphOf]
  exact inside.bind (filling.fillAttributes_gives_nil.bind
    (filling.fillTag_gives_of_isTagName (by decide) _ _))

/-- The markup of a paragraph with a text in it resolves to a paragraph with the escaped text,
which is the text exactly if that holds no character that is written as a reference. -/
theorem textContent_reread_eq_iff {interpolation : Interpolation} {value : Text}
    (holds : interpolation.HoldsText value) :
    ∃ node again,
      Gives (render host (paragraphOf interpolation) policy) node ∧
        Gives (render host [.text (.ofText node.render)] policy) again ∧
        again.textContent = escape value ∧ (again.textContent = value ↔ IsPlain value) := by
  let child : Child := .element "p".toList [] [.text (escape value)]
  have readable : child.Readable := by
    refine .element ⟨by decide, by decide, by decide, by decide⟩
      ⟨by simp, by simp, .nil⟩ ?_
    simpa using .text (escape value)
  have reads : Skeleton.ReadsAs (Skeleton.protect child.render)
      [.element "p".toList [] (settledChildren [.text (escape value)])] :=
    Skeleton.readsBack_of_readable readable
  have content : textContentOf (settledChildren [.text (escape value)]) = escape value := by
    by_cases empty : escape value = [] <;>
      simp [settledChildren, Child.settledOnto, consText, textContentOf, Child.textContent, empty]
  have again : Gives (render host [.text (.ofText child.render)] policy) (nodeOf _) :=
    render_of_reads host policy (by simp) reads.inside
  refine ⟨_, _, render_paragraphOf holds, again, content, ?_⟩
  rw [Node.textContent, nodeOf, content]
  exact escape_eq_iff

/-- A text that looks like a marker comes back, because nothing in it is escaped. -/
theorem textContent_reread_marker :
    ∃ node again,
      Gives (render Host.none
        (paragraphOf { expr := ['v'], source := .held (.text "x$1x".toList) }) .nodeWins) node ∧
      Gives (render Host.none [.text (.ofText node.render)] .nodeWins) again ∧
      again.textContent = escape "x$1x".toList ∧
        (again.textContent = "x$1x".toList ↔ IsPlain "x$1x".toList) :=
  textContent_reread_eq_iff ⟨rfl, rfl, rfl⟩

/-- An ampersand comes back as a reference. -/
theorem textContent_reread_ampersand :
    ∃ node again,
      renderPlain (paragraphOf { expr := ['v'], source := .held (.text ['&']) }) .nodeWins =
          .ok node ∧
        renderPlain [.text (.ofText node.render)] .nodeWins = .ok again ∧
        again.textContent ≠ ['&'] := by
  have first : (renderPlain
      (paragraphOf { expr := ['v'], source := .held (.text ['&']) }) .nodeWins).map Node.render =
        .ok "<p>&amp;amp;</p>".toList := by decide +kernel
  have second : (renderPlain [.text (.ofText "<p>&amp;amp;</p>".toList)] .nodeWins).map
      Node.textContent = .ok "&amp;".toList := by decide +kernel
  obtain ⟨node, ran, rendered⟩ := exists_of_map_eq_ok first
  obtain ⟨again, ranAgain, content⟩ := exists_of_map_eq_ok second
  refine ⟨node, again, ran, by rw [rendered, ranAgain], ?_⟩
  rw [content]
  decide

end Resolve

end HtmlTemplate
