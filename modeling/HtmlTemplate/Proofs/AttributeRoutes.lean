import HtmlTemplate.Proofs.FixedPoint
import HtmlTemplate.Proofs.TagForms

/-!
# Two routes to an attribute

A value comes to an attribute behind the attribute's name, or as an entry of a map that stands
for attributes. On the first route a text is escaped on the way into the tree and once more
when the tree is rendered, and on the second when it is rendered only. So the two give the same
markup for every number, and for a text exactly if nothing in it is escaped
(`render_routes_eq_iff`).
-/

namespace HtmlTemplate

open Markup

/-- A template of one paragraph with an interpolation in its start tag, as items. -/
def taggedBy (between : Text) (interpolation : Interpolation) : List Item :=
  [.text (.ofText ("<p ".toList ++ between)), .interpolation interpolation,
    .text (.ofText ">x</p>".toList)]

/-- A paragraph whose start tag has an attribute with an interpolation for its value. -/
def valuedBy (key : Text) (interpolation : Interpolation) : List Item :=
  taggedBy (key ++ ['=']) interpolation

/-- A paragraph whose start tag has an interpolation in place of an attribute. -/
def spreadBy (interpolation : Interpolation) : List Item :=
  taggedBy [] interpolation

/-! ## Skeletons -/

namespace Markup

/-- The start tag of a paragraph with one attribute. -/
def paragraphTag (form : AttributeForm) : StartTagForm where
  letter := 'p'
  isLetter := by decide
  more := []
  plain := List.forall_iff_forall_mem.mp (by decide)
  attributes := [form]
  behind := .none
  closing := false
  separated := by decide

theorem token_paragraphTag (form : AttributeForm) :
    (paragraphTag form).token = .startTag "p".toList [form.written] false := by
  have small : Text.lowercase ['p'] = "p".toList := by decide
  simp only [StartTagForm.token, paragraphTag, List.map_cons, List.map_nil, small]

theorem spelled_paragraphTag (form : AttributeForm) :
    (paragraphTag form).spelled = "<p".toList ++ (form.spelled ++ ['>']) := by
  simp [StartTagForm.spelled, StartTagForm.inside, StartTagForm.ending, paragraphTag, tagEnd,
    Blanks.none]

/-- The greater-than sign completes a start tag that waited for it. -/
theorem feed_paragraphTag {form : AttributeForm} {before : Text}
    (whole : (paragraphTag form).spelled = before ++ ['>']) :
    ({ pending := before } : Tokenizer).feed ">x</p>".toList =
      ([.startTag "p".toList [form.written] false, .text "x".toList, .endTag "p".toList], {}) := by
  have cooked : rawElementAfter (.startTag "p".toList [form.written] false) = none := by
    rw [rawElementAfter, if_neg (by decide)]
  have behind : (paragraphTag form).tokenizerBehind.feed "x</p>".toList =
      ([.text "x".toList, .endTag "p".toList], {}) := by
    rw [StartTagForm.tokenizerBehind, token_paragraphTag, cooked]
    decide +kernel
  have ended := (paragraphTag form).scan_spelled "x</p>".toList
  rw [behind, token_paragraphTag, whole, List.append_assoc] at ended
  exact ended

end Markup

namespace Skeleton

/-- The tokens of an element with texts inside add that element. -/
theorem Builder.handleAll_element (builder : Builder) (name : Text)
    (written : List WrittenAttribute) (texts : List Text) (item : Nat) :
    builder.handleAll item (.startTag name written false :: (texts.map .text ++ [.endTag name])) =
      (.ok (), builder.append (.element (some name) written (texts.map .text))) := by
  let element : OpenElement := { tag := name, attributes := written, item }
  let filled : OpenElement := { element with children := texts.map .text }
  let opened : Builder := { builder with opened := element :: builder.opened }
  have inside : opened.appendAll (texts.map .text) =
      { builder with opened := filled :: builder.opened } := by
    rw [appendAll_opened]
    rfl
  have ended : ({ builder with opened := filled :: builder.opened } : Builder).handle
      (.endTag filled.tag) item = .ok (builder.append filled.toPart) := handle_endTag rfl item
  rw [handleAll_of_ok rfl, handleAll_append, handleAll_texts, inside]
  exact handleAll_of_ok ended []

/-- The start tag comes in three items: it waits behind the first two, and the third one
completes it. -/
theorem ofItems_taggedBy {form : AttributeForm} {between : Text} (unmarked : '$' ∉ between)
    (spelled : form.spelled = ' ' :: (between ++ marker 1)) (interpolation : Interpolation) :
    ofItems (taggedBy between interpolation) =
      .ok
        { tag := some "p".toList
          attributes := [form.written]
          children := [.text "x".toList] } := by
  let front : Text := "<p ".toList ++ between
  have whole : (paragraphTag form).spelled = front ++ marker 1 ++ ['>'] := by
    rw [spelled_paragraphTag, spelled]
    simp [front]
  let element : Part := .element (some "p".toList) [form.written] [.text "x".toList]
  let waiting : Builder := { tokenizer := { pending := front }, index := 1 }
  let marked : Builder :=
    { tokenizer := { pending := front ++ marker 1 }
      index := 2
      exprs := [(1, interpolation.expr)] }
  let closed : Builder := { roots := [element], index := 3, exprs := [(1, interpolation.expr)] }
  have fedFront : ({} : Builder).feed (.text (.ofText front)) = (.ok (), waiting) := by
    have single : '$' ∉ front := by simpa [front] using unmarked
    have literal : Skeleton.marked 0 (.text (.ofText front)) = front := protect_eq_self single
    have tokens : ({} : Tokenizer).feed (Skeleton.marked 0 (.text (.ofText front))) =
        ([], { pending := front }) := by
      rw [literal]
      exact (paragraphTag form).scan_waits (whole.trans (List.append_assoc _ _ _)) (by simp)
    exact Builder.feed_of_tokens {} _ tokens
  have fedMarker : waiting.feed (.interpolation interpolation) = (.ok (), marked) := by
    have tokens : waiting.tokenizer.feed (marker 1) = ([], { pending := front ++ marker 1 }) :=
      (paragraphTag form).scan_waits whole (by simp)
    exact Builder.feed_of_tokens waiting (.interpolation interpolation) tokens
  have fedEnd : marked.feed (.text (.ofText ">x</p>".toList)) = (.ok (), closed) := by
    have tokens : marked.tokenizer.feed (Skeleton.marked 2 (.text (.ofText ">x</p>".toList))) = _ :=
      feed_paragraphTag whole
    rw [Builder.feed_of_tokens marked _ tokens]
    exact Builder.handleAll_element { marked with tokenizer := {}, index := 3 } "p".toList
      [form.written] ["x".toList] 2
  have handled : closed.handleAll (closed.index - 1) closed.tokenizer.close.1 =
      (.ok (), closed) := by
    simp only [closed, Tokenizer.close, scan_nil, Builder.handleAll]
  rw [ofItems, taggedBy, Builder.feedAll_of_ok fedFront, Builder.feedAll_of_ok fedMarker,
    Builder.feedAll_of_ok fedEnd]
  exact Builder.result_of_closed handled rfl

end Skeleton

/-! ## Attributes -/

/-- A text or a whole number. -/
inductive Value.IsScalar : Value → Prop where
  | text (text : Text) : Value.IsScalar (.text text)
  | int (n : Int) : Value.IsScalar (.int n)

namespace Resolve

open Skeleton (marker markerLimit split)

variable {σ : Type}

/-- Behind a name a value is escaped on its way into the tree. -/
theorem convertAttributeValue_gives {value : Value} (scalar : value.IsScalar) :
    Gives (convertAttributeValue value : Resolution σ (Converted AttributePart))
      (.one (.text (escape value.display))) := by
  cases scalar with
  | text text => exact .pure _
  | int n =>
    have plain : escape (Value.display (.int n)) = Decimal.integer n := escape_integer n
    rw [plain]
    exact .pure _

/-- In a map a value goes into the tree as it is. -/
theorem spreadValue_gives {value : Value} (scalar : value.IsScalar) :
    ∃ shown, Attribute.value? shown = some value.display ∧
      Gives (spreadValue value : Resolution σ Attribute) shown := by
  cases scalar with
  | text text => exact ⟨.text text, rfl, .pure _⟩
  | int n => exact ⟨.number n, rfl, .pure _⟩

namespace Filling

variable (filling : Filling σ) {index : Nat} {interpolation : Interpolation} {key : Text}

theorem fillAttribute_gives_value {value : Value} {text : Text} (fits : index ≤ markerLimit)
    (found : filling.interpolation? index = some interpolation)
    (holds : interpolation.Holds value) (valid : isAttributeName key = true)
    (converts : Gives (convertAttributeValue value : Resolution σ _) (.one (.text text))) :
    Gives (filling.fillAttribute key (some (marker index))) [(key, .text text)] := by
  have single : split key = [.literal key] :=
    Skeleton.split_eq_self (isAttributeName_ne_nil valid)
      (not_mem_of_isAttributeName '$' valid (by decide))
  have name : Gives (filling.fillAttributeKey key) [key] := filling.fill_gives_literal single
  have parts : Gives (filling.fillAttributeValue (marker index)) [.text text] :=
    filling.fill_gives_marker fits found holds converts
  exact name.bind ((Gives.pure _).bind ((attributeName_gives valid).bind
    (parts.bind (.pure _))))

theorem fillAttribute_gives_spread {value : Value} {shown : Attribute}
    (fits : index ≤ markerLimit) (found : filling.interpolation? index = some interpolation)
    (holds : interpolation.Holds (.map [(key, value)])) (valid : isAttributeName key = true)
    (spreads : Gives (spreadValue value : Resolution σ _) shown) :
    Gives (filling.fillAttribute (marker index) none) [(key, shown)] := by
  have parts : Gives (filling.fillAttributeValue (marker index)) [.map [(key, value)]] :=
    filling.fill_gives_marker fits found holds (.pure _)
  have entry : Gives (attributeName key >>= fun name => spreadValue value >>= fun value =>
      (pure (name, value) : Resolution σ (Text × Attribute))) (key, shown) :=
    (attributeName_gives valid).bind (spreads.bind (.pure _))
  exact parts.bind ((Gives.pure _).bind ((Gives.mapM (.cons entry .nil)).bind (.pure _)))

/-- The attributes of a tag with one attribute are what that gives. -/
theorem fillAttributes_gives_one {written : WrittenAttribute} {entry : Text × Attribute}
    (gives : Gives (filling.fillAttribute written.1 written.2) [entry]) :
    Gives (filling.fillAttributes [written]) [entry] :=
  (Gives.mapM (.cons gives .nil)).bind (.pure _)

end Filling

/-! ## The two routes -/

/-- A paragraph with an attribute. -/
def paragraphNode (key : Text) (shown : Attribute) : Node :=
  { tag := "p".toList, attributes := [(key, shown)], children := [.text "x".toList] }

/-- The markup of a paragraph with an attribute whose value is already written. -/
def paragraphMarkup (key written : Text) : Text :=
  "<p ".toList ++ key ++ "=\"".toList ++ written ++ "\">x</p>".toList

theorem render_paragraphNode (key : Text) {text : Text} {shown : Attribute}
    (valued : shown.value? = some text) :
    (paragraphNode key shown).render = paragraphMarkup key (escape text) := by
  simp [paragraphNode, Node.render, Node.toChild, Child.render, renderElement, renderAttributes,
    renderAttribute_of_some key valued, renderChildren, paragraphMarkup, escape, escapeChar]

theorem paragraphMarkup_inj {key first second : Text} :
    paragraphMarkup key first = paragraphMarkup key second ↔ first = second := by
  simp [paragraphMarkup]

variable {host : Host σ} {policy : MergePolicy}

/-- A paragraph with an interpolation in its start tag has the attribute that this gives. -/
theorem render_taggedBy (form : AttributeForm) {between key : Text} {shown : Attribute}
    {interpolation : Interpolation} (unmarked : '$' ∉ between)
    (spelled : form.spelled = ' ' :: (between ++ marker 1))
    (gives : Gives
      (Filling.fillAttribute { host, items := taggedBy between interpolation, policy }
        form.written.1 form.written.2) [(key, shown)]) :
    Gives (render host (taggedBy between interpolation) policy)
      (paragraphNode key shown) := by
  let filling : Filling σ := { host, items := taggedBy between interpolation, policy }
  have inside : Gives (filling.fillParts [.text "x".toList]) [.text "x".toList] := by
    have literal : Gives (filling.fillChild "x".toList) [.text "x".toList] :=
      filling.fill_gives_literal (Skeleton.split_eq_self (by decide) (by decide))
    rw [Filling.fillParts, Filling.fillParts, Filling.fillPart]
    exact literal.bind ((Gives.pure _).bind (.pure _))
  simp only [render, Skeleton.ofItems_taggedBy unmarked spelled]
  exact inside.bind ((filling.fillAttributes_gives_one gives).bind
    (filling.fillTag_gives_of_isTagName (by decide) _ _))

/-! ### Forms of the attribute -/

/-- A first interpolation behind an attribute's name. -/
def valuedForm {key : Text} (valid : isAttributeName key = true) : AttributeForm where
  front := .one
  separated := Blanks.one_ne_nil
  name :=
    { text := key
      nonempty := isAttributeName_ne_nil valid
      plain c member := of_isAttributeNameChar (isAttributeNameChar_of_mem valid c member) }
  assigned? := some
    { before := .none
      behind := .none
      value := .unquoted (marker 1) (by decide)
        (List.forall_iff_forall_mem.mp (by decide +kernel)) (by decide) }

/-- A first interpolation in place of an attribute. -/
def spreadForm : AttributeForm where
  front := .one
  separated := Blanks.one_ne_nil
  name :=
    { text := marker 1
      nonempty := by decide
      plain := List.forall_iff_forall_mem.mp (by decide +kernel) }
  assigned? := none

theorem written_valuedForm {key : Text} (valid : isAttributeName key = true)
    (small : Text.lowercase key = key) : (valuedForm valid).written = (key, some (marker 1)) := by
  have decoded : decodeReferences (marker 1) = marker 1 := by decide +kernel
  simp only [AttributeForm.written, valuedForm, ValueForm.value, small, Option.map_some, decoded]

theorem spelled_valuedForm {key : Text} (valid : isAttributeName key = true) :
    (valuedForm valid).spelled = ' ' :: (key ++ ['='] ++ marker 1) := by
  simp [AttributeForm.spelled, AssignedForm.spelled, ValueForm.spelled, valuedForm, Blanks.none,
    Blanks.one]

theorem written_spreadForm : spreadForm.written = (marker 1, none) := by
  have lower : Text.lowercase (marker 1) = marker 1 := by decide +kernel
  simp only [AttributeForm.written, spreadForm, Option.map_none, lower]

theorem spelled_spreadForm : spreadForm.spelled = ' ' :: ([] ++ marker 1) := by
  simp [AttributeForm.spelled, spreadForm, Blanks.one]

/-! ### The markup of both -/

/-- A number holds nothing that is escaped. -/
theorem isPlain_display_iff {value : Value} (scalar : value.IsScalar) :
    IsPlain value.display ↔ ∀ text, value = .text text → IsPlain text := by
  cases scalar with
  | text text =>
    refine ⟨fun plain _ same => ?_, fun plain => plain text rfl⟩
    cases same
    exact plain
  | int n =>
    have plain : IsPlain (Decimal.integer n) := escape_eq_iff.mp (escape_integer n)
    exact ⟨fun _ _ same => (by cases same), fun _ => plain⟩

/-- With a text or a number for the value of an attribute both routes succeed. Behind the
attribute's name the value is escaped twice and in a map once, so the markup is the same for
every number, and for a text exactly if nothing in it is escaped. -/
theorem render_routes_eq_iff {key : Text} {value : Value} {valued spread : Interpolation}
    (valid : isAttributeName key = true) (small : Text.lowercase key = key)
    (scalar : value.IsScalar) (holds : valued.Holds value)
    (holdsMap : spread.Holds (.map [(key, value)])) :
    ∃ byValue bySpread,
      Gives (render host (valuedBy key valued) policy) byValue ∧
        Gives (render host (spreadBy spread) policy) bySpread ∧
        byValue.render = paragraphMarkup key (escape (escape value.display)) ∧
        bySpread.render = paragraphMarkup key (escape value.display) ∧
        (byValue.render = bySpread.render ↔ ∀ text, value = .text text → IsPlain text) := by
  obtain ⟨shown, valuedShown, spreads⟩ := spreadValue_gives (σ := σ) scalar
  have byValue : Gives (render host (valuedBy key valued) policy)
      (paragraphNode key (.text (escape value.display))) := by
    have unmarked : '$' ∉ key ++ ['='] := by
      simpa using not_mem_of_isAttributeName '$' valid (by decide)
    refine render_taggedBy (valuedForm valid) unmarked (spelled_valuedForm valid) ?_
    rw [written_valuedForm valid small]
    exact Filling.fillAttribute_gives_value _ (by decide) rfl holds valid
      (convertAttributeValue_gives scalar)
  have bySpread : Gives (render host (spreadBy spread) policy) (paragraphNode key shown) := by
    refine render_taggedBy spreadForm List.not_mem_nil spelled_spreadForm ?_
    rw [written_spreadForm]
    exact Filling.fillAttribute_gives_spread _ (by decide) rfl holdsMap valid spreads
  have once := render_paragraphNode key valuedShown
  have twice : (paragraphNode key (.text (escape value.display))).render =
      paragraphMarkup key (escape (escape value.display)) := render_paragraphNode key rfl
  refine ⟨_, _, byValue, bySpread, twice, once, ?_⟩
  rw [twice, once, paragraphMarkup_inj, escape_escape_eq_iff, isPlain_display_iff scalar]

/-- A text without special characters gives the same markup on both routes. -/
theorem render_routes_title :
    ∃ byValue bySpread,
      Gives (render Host.none
        (valuedBy "title".toList { expr := ['v'], source := .held (.text "a b".toList) })
        .nodeWins) byValue ∧
      Gives (render Host.none
        (spreadBy { expr := ['m'], source := .held (.map [("title".toList, .text "a b".toList)]) })
        .nodeWins) bySpread ∧
      byValue.render = paragraphMarkup "title".toList (escape (escape "a b".toList)) ∧
      bySpread.render = paragraphMarkup "title".toList (escape "a b".toList) ∧
      (byValue.render = bySpread.render ↔
        ∀ text, Value.text "a b".toList = .text text → IsPlain text) :=
  render_routes_eq_iff (by decide) (by decide) (.text _) ⟨rfl, rfl, rfl⟩ ⟨rfl, rfl, rfl⟩

/-- An ampersand is written twice over behind the attribute's name, and once in a map. -/
theorem render_routes_ampersand :
    ∃ byValue bySpread,
      renderPlain (valuedBy ['k'] { expr := ['v'], source := .held (.text ['&']) }) .nodeWins =
          .ok byValue ∧
        renderPlain (spreadBy { expr := ['m'], source := .held (.map [(['k'], .text ['&'])]) })
          .nodeWins = .ok bySpread ∧
        byValue.render ≠ bySpread.render := by
  have first : (renderPlain
      (valuedBy ['k'] { expr := ['v'], source := .held (.text ['&']) }) .nodeWins).map
        Node.render = .ok "<p k=\"&amp;amp;\">x</p>".toList := by decide +kernel
  have second : (renderPlain
      (spreadBy { expr := ['m'], source := .held (.map [(['k'], .text ['&'])]) }) .nodeWins).map
        Node.render = .ok "<p k=\"&amp;\">x</p>".toList := by decide +kernel
  obtain ⟨byValue, ran, rendered⟩ := exists_of_map_eq_ok first
  obtain ⟨bySpread, ranSpread, renderedSpread⟩ := exists_of_map_eq_ok second
  refine ⟨byValue, bySpread, ran, ranSpread, ?_⟩
  rw [rendered, renderedSpread]
  decide

end Resolve

end HtmlTemplate
