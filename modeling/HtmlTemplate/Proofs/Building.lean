import HtmlTemplate.Skeleton.Builder
import Mathlib.Tactic.Common

/-!
# Steps of a builder

What single tokens and runs of parts do to a builder.
-/

namespace HtmlTemplate.Skeleton

open Markup (Token)

/-- The skeleton with some parts outside of all elements: a single element is the skeleton
itself, and anything else comes under a root. -/
def treeOf : List Part → Tree
  | [.element tag attributes children] => { tag, attributes, children }
  | children => { children }

namespace Builder

/-- The builder with further parts in the innermost open element. -/
def appendAll (builder : Builder) (parts : List Part) : Builder :=
  parts.foldl append builder

theorem appendAll_cons (builder : Builder) (part : Part) (parts : List Part) :
    builder.appendAll (part :: parts) = (builder.append part).appendAll parts := rfl

/-- Parts go into the element that is open. -/
theorem appendAll_opened (builder : Builder) (element : OpenElement) (outer : List OpenElement)
    (parts : List Part) :
    { builder with opened := element :: outer }.appendAll parts =
      { builder with
        opened := { element with children := element.children ++ parts } :: outer } := by
  induction parts generalizing element with
  | nil => simp [appendAll]
  | cons part parts inductionHypothesis =>
    rw [appendAll_cons]
    simp only [append]
    rw [inductionHypothesis]
    simp

/-- Parts go outside of all elements if none is open. -/
theorem appendAll_roots (builder : Builder) (outside : builder.opened = []) (parts : List Part) :
    builder.appendAll parts = { builder with roots := builder.roots ++ parts } := by
  induction parts generalizing builder with
  | nil => simp [appendAll]
  | cons part parts inductionHypothesis =>
    have first : builder.append part = { builder with roots := builder.roots ++ [part] } := by
      simp only [append, outside]
    have rest := inductionHypothesis (builder.append part) (by rw [first, outside])
    rw [appendAll_cons, rest, first]
    simp

/-- Outside of all elements stand the parts that stood there, and perhaps the further one. -/
theorem mem_roots_append {builder : Builder} {part other : Part}
    (member : other ∈ (builder.append part).roots) : other ∈ builder.roots ∨ other = part := by
  unfold append at member
  split at member
  · simpa using member
  · exact .inl member

/-- The open elements stay, and inside the innermost one the further part may stand. -/
theorem exists_of_mem_opened_append {builder : Builder} {part : Part} {element : OpenElement}
    (member : element ∈ (builder.append part).opened) :
    ∃ before ∈ builder.opened, element.tag = before.tag ∧
      element.attributes = before.attributes ∧
      ∀ child ∈ element.children, child ∈ before.children ∨ child = part := by
  unfold append at member
  split at member
  · exact ⟨element, member, rfl, rfl, fun child among => .inl among⟩
  · rename_i innermost outer inside
    rw [inside]
    rcases List.mem_cons.mp member with rfl | member
    · exact ⟨innermost, by simp, rfl, rfl, by simp⟩
    · exact ⟨element, List.mem_cons_of_mem innermost member, rfl, rfl,
        fun child among => .inl among⟩

theorem handleAll_of_ok {builder builder' : Builder} {token : Token} {item : Nat}
    (handled : builder.handle token item = .ok builder') (tokens : List Token) :
    builder.handleAll item (token :: tokens) = builder'.handleAll item tokens := by
  simp only [handleAll, handled]

/-- Tokens are handled without a fault one after the other. -/
theorem exists_of_handleAll_cons {builder builder' : Builder} {token : Token} {item : Nat}
    {tokens : List Token}
    (handled : builder.handleAll item (token :: tokens) = (.ok (), builder')) :
    ∃ between, builder.handle token item = .ok between ∧
      between.handleAll item tokens = (.ok (), builder') := by
  cases first : builder.handle token item with
  | ok between =>
    rw [handleAll_of_ok first] at handled
    exact ⟨between, rfl, handled⟩
  | error error =>
    simp only [handleAll, first] at handled
    cases handled

/-- A closing tag that is no fault ends the innermost element. -/
theorem exists_of_handle_endTag {builder builder' : Builder} {name : Text} {item : Nat}
    (handled : builder.handle (.endTag name) item = .ok builder') :
    ∃ element outer,
      builder.opened = element :: outer ∧ builder' = builder.finish element outer := by
  simp only [handle] at handled
  split at handled
  · cases handled
  · rename_i element outer inside
    split at handled
    · exact ⟨element, outer, inside, (Except.ok.inj handled).symm⟩
    · cases handled

theorem exists_of_handle_genericClose {builder builder' : Builder} {item : Nat}
    (handled : builder.handle .genericClose item = .ok builder') :
    ∃ element outer,
      builder.opened = element :: outer ∧ builder' = builder.finish element outer := by
  simp only [handle] at handled
  split at handled
  · cases handled
  · rename_i element outer inside
    exact ⟨element, outer, inside, (Except.ok.inj handled).symm⟩

/-- Some tokens and further ones are handled as all of them together. -/
theorem handleAll_append (builder : Builder) (item : Nat) (tokens more : List Token) :
    builder.handleAll item (tokens ++ more) =
      match builder.handleAll item tokens with
      | (.ok (), builder') => builder'.handleAll item more
      | (.error error, builder') => (.error error, builder') := by
  induction tokens generalizing builder with
  | nil => rfl
  | cons token tokens inductionHypothesis =>
    cases handled : builder.handle token item with
    | ok builder' =>
      rw [List.cons_append, handleAll_of_ok handled, handleAll_of_ok handled, inductionHypothesis]
    | error error => simp only [List.cons_append, handleAll, handled]

/-- Two builders agree on everything but the elements and texts. -/
structure SameInput (builder builder' : Builder) : Prop where
  tokenizer : builder.tokenizer = builder'.tokenizer
  index : builder.index = builder'.index
  exprs : builder.exprs = builder'.exprs

theorem SameInput.refl (builder : Builder) : SameInput builder builder := ⟨rfl, rfl, rfl⟩

theorem SameInput.trans {first second third : Builder} (left : SameInput first second)
    (right : SameInput second third) : SameInput first third :=
  ⟨left.tokenizer.trans right.tokenizer, left.index.trans right.index,
    left.exprs.trans right.exprs⟩

theorem sameInput_append (builder : Builder) (part : Part) :
    SameInput (builder.append part) builder := by
  unfold append
  split <;> exact ⟨rfl, rfl, rfl⟩

theorem sameInput_finish (builder : Builder) (element : OpenElement) (outer : List OpenElement) :
    SameInput (builder.finish element outer) builder :=
  (sameInput_append _ _).trans ⟨rfl, rfl, rfl⟩

/-- A token changes elements and texts only. -/
theorem sameInput_handle {builder builder' : Builder} {token : Token} {item : Nat}
    (handled : builder.handle token item = .ok builder') : SameInput builder' builder := by
  cases token with
  | startTag name attributes closing =>
    cases closing
    · cases handled
      exact ⟨rfl, rfl, rfl⟩
    · cases handled
      exact sameInput_append _ _
  | endTag name =>
    obtain ⟨element, outer, _, rfl⟩ := exists_of_handle_endTag handled
    exact sameInput_finish _ _ _
  | genericClose =>
    obtain ⟨element, outer, _, rfl⟩ := exists_of_handle_genericClose handled
    exact sameInput_finish _ _ _
  | text content =>
    cases handled
    exact sameInput_append _ _

theorem sameInput_handleAll (builder : Builder) (item : Nat) (tokens : List Token) :
    SameInput (builder.handleAll item tokens).2 builder := by
  induction tokens generalizing builder with
  | nil => exact .refl builder
  | cons token tokens inductionHypothesis =>
    cases handled : builder.handle token item with
    | ok builder' =>
      rw [handleAll_of_ok handled]
      exact (inductionHypothesis builder').trans (sameInput_handle handled)
    | error error =>
      simp only [handleAll, handled]
      exact .refl builder

/-- An end tag ends the innermost element if that has its name. -/
theorem handle_endTag {builder : Builder} {element : OpenElement} {outer : List OpenElement}
    (opened : builder.opened = element :: outer) (item : Nat) :
    builder.handle (.endTag element.tag) item = .ok (builder.finish element outer) := by
  simp only [handle, opened, if_true]

/-- Texts are added one after the other. -/
theorem handleAll_texts (builder : Builder) (item : Nat) (texts : List Text) :
    builder.handleAll item (texts.map .text) = (.ok (), builder.appendAll (texts.map .text)) := by
  induction texts generalizing builder with
  | nil => rfl
  | cons text texts inductionHypothesis =>
    rw [List.map_cons, handleAll_of_ok rfl, inductionHypothesis]
    rfl

/-! ## Items and the result -/

/-- The expressions of a builder behind a further item. -/
def exprsWith (builder : Builder) (item : Item) : List (Nat × Text) :=
  match item.interpolation? with
  | some interpolation => (builder.index, interpolation.expr) :: builder.exprs
  | none => builder.exprs

/-- The builder that handles the tokens of a further item. -/
def withItem (builder : Builder) (item : Item) : Builder :=
  { builder with
    tokenizer := (builder.tokenizer.feed (marked builder.index item)).2
    exprs := builder.exprsWith item
    index := builder.index + 1 }

theorem feed_eq (builder : Builder) (item : Item) :
    builder.feed item =
      (builder.withItem item).handleAll builder.index
        (builder.tokenizer.feed (marked builder.index item)).1 := rfl

/-- What a builder does with an item, given the tokens that the item completes. -/
theorem feed_of_tokens (builder : Builder) (item : Item) {tokens : List Token}
    {tokenizer : Markup.Tokenizer}
    (fed : builder.tokenizer.feed (marked builder.index item) = (tokens, tokenizer)) :
    builder.feed item =
      { builder with
        tokenizer
        exprs := builder.exprsWith item
        index := builder.index + 1 }.handleAll builder.index tokens := by
  simp only [feed, fed]
  rfl

theorem feedAll_of_ok {builder builder' : Builder} {item : Item}
    (fed : builder.feed item = (.ok (), builder')) (items : List Item) :
    builder.feedAll (item :: items) = builder'.feedAll items := by
  simp only [feedAll, fed]

theorem feedAll_of_error {builder builder' : Builder} {item : Item} {error : Error}
    (fed : builder.feed item = (.error error, builder')) (items : List Item) :
    builder.feedAll (item :: items) = .error error := by
  simp only [feedAll, fed]

/-- A fault in what still waited is the result. -/
theorem result_of_fault {builder last : Builder} {error : Error}
    (handled : builder.handleAll (builder.index - 1) builder.tokenizer.close.1 =
      (.error error, last)) : builder.result = .error error := by
  simp only [result, handled]

/-- The innermost element that stays open is the fault. -/
theorem result_of_opened {builder last : Builder} {element : OpenElement}
    {outer : List OpenElement}
    (handled : builder.handleAll (builder.index - 1) builder.tokenizer.close.1 = (.ok (), last))
    (inside : last.opened = element :: outer) :
    builder.result = .error (.unclosedTag (last.recover element.tag) element.item) := by
  simp only [result, handled, inside]

/-- If no element stays open the parts are the result, unless there are none. -/
theorem result_of_closed {builder last : Builder}
    (handled : builder.handleAll (builder.index - 1) builder.tokenizer.close.1 = (.ok (), last))
    (outside : last.opened = []) :
    builder.result = if last.roots = [] then .error .empty else .ok (treeOf last.roots) := by
  simp only [result, handled, outside]
  rcases last.roots with _ | ⟨_ | _, _ | ⟨_, _⟩⟩ <;> rfl

/-- A builder that comes to its result has handled what still waited, has no open element, and
has some parts. -/
theorem exists_of_result {builder : Builder} {tree : Tree}
    (resulted : builder.result = .ok tree) :
    ∃ last, builder.handleAll (builder.index - 1) builder.tokenizer.close.1 = (.ok (), last) ∧
      last.opened = [] ∧ last.roots ≠ [] ∧ tree = treeOf last.roots := by
  cases handled : builder.handleAll (builder.index - 1) builder.tokenizer.close.1 with
  | mk outcome last =>
    rcases outcome with error | _
    · rw [result_of_fault handled] at resulted
      cases resulted
    cases inside : last.opened with
    | cons element outer =>
      rw [result_of_opened handled inside] at resulted
      cases resulted
    | nil =>
      rw [result_of_closed handled inside] at resulted
      split at resulted
      · cases resulted
      · rename_i nonempty
        exact ⟨last, rfl, inside, nonempty, (Except.ok.inj resulted).symm⟩

end Builder

theorem exists_of_ofItems {items : List Item} {tree : Tree} (built : ofItems items = .ok tree) :
    ∃ builder, Builder.feedAll {} items = .ok builder ∧ builder.result = .ok tree := by
  simp only [ofItems] at built
  cases fed : Builder.feedAll {} items with
  | ok builder =>
    rw [fed] at built
    exact ⟨builder, rfl, built⟩
  | error error =>
    rw [fed] at built
    cases built

end HtmlTemplate.Skeleton
