import HtmlTemplate.Proofs.Brackets
import HtmlTemplate.Proofs.Dictionaries
import HtmlTemplate.Proofs.Filling

/-!
# Texts cannot change markup

Two lists of items differ at most in the texts that their interpolations hold, and not in those
that stand in names. Then both render, to markup of the same shape, or both fail with the same
error (`render_agree`).
-/

namespace HtmlTemplate

open Markup (Attribute Attributes Child Node escape outline)

/-- Two items that are the same, up to the text that an interpolation holds. -/
inductive Item.SameForm : Item → Item → Prop where
  | text (chunk : Chunk) : Item.SameForm (.text chunk) (.text chunk)
  | interpolation {interpolation interpolation' : Interpolation} {text text' : Text}
      (expr : interpolation.expr = interpolation'.expr)
      (holds : interpolation.HoldsText text) (holds' : interpolation'.HoldsText text') :
      Item.SameForm (.interpolation interpolation) (.interpolation interpolation')

theorem Interpolation.HoldsText.unique {interpolation : Interpolation} {text text' : Text}
    (holds : interpolation.HoldsText text) (holds' : interpolation.HoldsText text') :
    text = text' := by
  have same := holds.source.symm.trans holds'.source
  simpa using same

namespace Skeleton

/-! ## Skeletons -/

/-- A builder does not see the texts that interpolations hold. -/
theorem Builder.feed_congr {item item' : Item} (same : Item.SameForm item item')
    (builder : Builder) : builder.feed item = builder.feed item' := by
  cases same with
  | text chunk => rfl
  | interpolation expr _ _ => simp only [feed, marked, Item.interpolation?, expr]

/-- Items of the same form have the same skeleton, or the same fault. -/
theorem ofItems_congr {items items' : List Item}
    (same : List.Forall₂ Item.SameForm items items') : ofItems items = ofItems items' := by
  have fed : ∀ builder, Builder.feedAll builder items = Builder.feedAll builder items' := by
    induction same with
    | nil => exact fun _ => rfl
    | cons first _ inductionHypothesis =>
      intro builder
      simp only [Builder.feedAll, Builder.feed_congr first, inductionHypothesis]
  rw [ofItems, fed, ofItems]

/-- The markers in the name of a tag and in the names of its attributes; an attribute without a
value is all name. -/
def tagMarkers (tag : Option Text) (attributes : List Markup.WrittenAttribute) : List Nat :=
  (tag.map markers).getD [] ++ attributes.flatMap fun (key, _) => markers key

mutual

/-- The markers in the names of a part. -/
def Part.nameMarkers : Part → List Nat
  | .text _ => []
  | .element tag attributes children => tagMarkers tag attributes ++ nameMarkersOf children

/-- The markers in the names of some parts. -/
def nameMarkersOf : List Part → List Nat
  | [] => []
  | part :: parts => part.nameMarkers ++ nameMarkersOf parts

end

/-- The markers in the names of a skeleton. -/
def Tree.nameMarkers (tree : Tree) : List Nat :=
  tree.toPart.nameMarkers

end Skeleton

namespace Resolve

open Skeleton (Part markers nameMarkersOf)

/-! ## Trees of the same shape -/

/-- Attributes with valid keys, the same ones in the same order, and values at the same. -/
structure SameKeys (attributes attributes' : Attributes) : Prop where
  valid : ∀ entry ∈ attributes, isAttributeName entry.1 = true
  valid' : ∀ entry ∈ attributes', isAttributeName entry.1 = true
  outline : outline attributes = outline attributes'

theorem SameKeys.nil : SameKeys [] [] :=
  ⟨by simp, by simp, rfl⟩

theorem SameKeys.extend {attributes attributes' more more' : Attributes}
    (first : SameKeys attributes attributes') (second : SameKeys more more') :
    SameKeys (Dictionary.extend attributes more) (Dictionary.extend attributes' more') where
  valid entry member := (Dictionary.mem_extend member).elim (first.valid entry) (second.valid entry)
  valid' entry member :=
    (Dictionary.mem_extend member).elim (first.valid' entry) (second.valid' entry)
  outline := by
    have same := first.outline
    have sameMore := second.outline
    simp only [Markup.outline] at same sameMore ⊢
    rw [Dictionary.extend_map fun value : Attribute => value.value?.isSome,
      Dictionary.extend_map fun value : Attribute => value.value?.isSome, same, sameMore]

theorem SameKeys.foldl_extend {attributes attributes' : Attributes}
    {more more' : List Attributes} (first : SameKeys attributes attributes')
    (pairs : List.Forall₂ SameKeys more more') :
    SameKeys (more.foldl Dictionary.extend attributes)
      (more'.foldl Dictionary.extend attributes') := by
  induction pairs generalizing attributes attributes' with
  | nil => exact first
  | cons pair _ inductionHypothesis => exact inductionHypothesis (first.extend pair)

/-- Children that are sound and are rendered with the same tags. -/
structure SameShape (children children' : List Child) : Prop where
  sound : ∀ child ∈ children, child.Sound
  sound' : ∀ child ∈ children', child.Sound
  brackets : Markup.bracketsOf children = Markup.bracketsOf children'
  empty : children.isEmpty = children'.isEmpty

theorem bracketsOf_append (children more : List Child) :
    Markup.bracketsOf (children ++ more) =
      Markup.bracketsOf children ++ Markup.bracketsOf more := by
  induction children with
  | nil => rfl
  | cons child children inductionHypothesis =>
    rw [List.cons_append, Markup.bracketsOf, Markup.bracketsOf, inductionHypothesis,
      List.append_assoc]

theorem SameShape.nil : SameShape [] [] :=
  ⟨by simp, by simp, rfl, rfl⟩

theorem SameShape.append {children children' more more' : List Child}
    (first : SameShape children children') (second : SameShape more more') :
    SameShape (children ++ more) (children' ++ more') where
  sound child member := (List.mem_append.mp member).elim (first.sound child) (second.sound child)
  sound' child member :=
    (List.mem_append.mp member).elim (first.sound' child) (second.sound' child)
  brackets := by
    rw [bracketsOf_append, bracketsOf_append, first.brackets, second.brackets]
  empty := by
    have same := first.empty
    have sameMore := second.empty
    rw [Bool.eq_iff_iff, List.isEmpty_iff, List.isEmpty_iff] at same sameMore ⊢
    rw [List.append_eq_nil_iff, List.append_eq_nil_iff, same, sameMore]

/-- Texts have no tags, whatever they are. -/
theorem SameShape.of_texts {children children' : List Child}
    (texts : List.Forall₂ (fun child child' => ∃ content content',
      child = .text content ∧ child' = .text content') children children') :
    SameShape children children' := by
  induction texts with
  | nil => exact .nil
  | cons pair _ inductionHypothesis =>
    obtain ⟨content, content', rfl, rfl⟩ := pair
    have first : SameShape [.text content] [.text content'] :=
      ⟨by simpa using .text content, by simpa using .text content', rfl, rfl⟩
    exact first.append inductionHypothesis

/-- Elements of the same name are of the same shape if their attributes and children are. -/
theorem SameShape.element {tag : Text} {attributes attributes' : Attributes}
    {children children' : List Child} (named : tag = [] ∨ isTagName tag = true)
    (keys : SameKeys attributes attributes') (inside : SameShape children children') :
    SameShape [.element tag attributes children] [.element tag attributes' children'] where
  sound := by simpa using .element named keys.valid inside.sound
  sound' := by simpa using .element named keys.valid' inside.sound'
  brackets := by
    simp only [Markup.bracketsOf, Markup.Child.brackets, inside.brackets, inside.empty,
      keys.outline]
  empty := rfl

/-! ## Fillings with items of the same form -/

section Filling

variable {σ : Type} {filling filling' : Filling σ}
variable (same : List.Forall₂ Item.SameForm filling.items filling'.items)

include same

/-- An index stands for an interpolation in both fillings or in neither. -/
theorem sameForm_at (index : Nat) :
    (filling.items[index]? = none ∧ filling'.items[index]? = none) ∨
      ∃ item item', filling.items[index]? = some item ∧ filling'.items[index]? = some item' ∧
        item.SameForm item' := by
  generalize filling.items = items at same
  generalize filling'.items = items' at same
  induction same generalizing index with
  | nil => exact .inl ⟨rfl, rfl⟩
  | @cons item item' _ _ first _ inductionHypothesis =>
    cases index with
    | zero => exact .inr ⟨item, item', rfl, rfl, first⟩
    | succ index => exact inductionHypothesis index

/-- Both fillings agree on an index if the texts that they may hold there are converted
alike. Where the items are equal, so are the texts. -/
theorem sameAt (index : Nat) {converted : Text → Text → Prop}
    (alike : ∀ text text', (filling.items[index]? = filling'.items[index]? → text = text') →
      converted text text') :
    Filling.SameAt filling filling' index converted := by
  rcases sameForm_at same index with ⟨nowhere, nowhere'⟩ | ⟨item, item', found, found', form⟩
  · refine .dangling ?_ ?_ <;> simp [Filling.interpolation?, nowhere, nowhere']
  · cases form with
    | text chunk =>
      refine .dangling ?_ ?_ <;> simp [Filling.interpolation?, found, found', Item.interpolation?]
    | @interpolation place place' text text' _ holds holds' =>
      have unique : filling.items[index]? = filling'.items[index]? → text = text' := by
        intro equal
        rw [found, found', Option.some.injEq, Item.interpolation.injEq] at equal
        subst equal
        exact holds.unique holds'
      refine .held ?_ ?_ holds holds' (alike text text' unique) <;>
        simp [Filling.interpolation?, found, found', Item.interpolation?]

/-- Where the items are equal, it is enough that a text is converted like itself. -/
theorem sameAt_of_eq {index : Nat} (equal : filling.items[index]? = filling'.items[index]?)
    {converted : Text → Text → Prop} (alike : ∀ text, converted text text) :
    Filling.SameAt filling filling' index converted := by
  refine sameAt same index fun text text' unique => ?_
  obtain rfl := unique equal
  exact alike text

/-- Inside an element the same number of texts is filled in. -/
theorem fillChild_agree (content : Text) :
    Agree SameShape (filling.fillChild content) (filling'.fillChild content) := by
  have filled : Agree (List.Forall₂ fun child child' => ∃ content content',
      child = Child.text content ∧ child' = Child.text content')
      (filling.fillChild content) (filling'.fillChild content) := by
    refine Filling.fill_agree (fun literal => ⟨literal, literal, rfl, rfl⟩) fun index _ => ?_
    refine sameAt same index fun text text' _ => ?_
    exact .of_gives (convertChild_gives filling.host text) (convertChild_gives filling'.host text')
      (.cons ⟨_, _, rfl, rfl⟩ .nil)
  exact filled.mono fun _ _ => .of_texts

omit same in
theorem attributeName_agree (name : Text) :
    Agree (fun name name' => name = name' ∧ isAttributeName name = true)
      (attributeName name : Resolution σ Text) (attributeName name : Resolution σ Text) := by
  unfold attributeName
  split
  · exact .pure ⟨rfl, by assumption⟩
  · exact Agree.throw _

omit same in
theorem single_agree {α β : Type} {related : α → β → Prop} {fragments : List α}
    {fragments' : List β} (pairs : List.Forall₂ related fragments fragments') (place : String) :
    Agree related (single place fragments : Resolution σ α) (single place fragments') := by
  cases pairs with
  | nil => exact Agree.throw _
  | cons first others =>
    cases others with
    | nil => exact .pure first
    | cons second more =>
      have lengths := more.length_eq
      simp only [single, List.length_cons, lengths]
      exact Agree.throw _

/-- An attribute's name without interpolations that differ is filled in the same way. -/
theorem fillAttributeKey_agree {key : Text}
    (equal : ∀ index ∈ markers key, filling.items[index]? = filling'.items[index]?) :
    Agree (List.Forall₂ Eq) (filling.fillAttributeKey key) (filling'.fillAttributeKey key) := by
  refine Filling.fill_agree (fun _ => rfl) fun index member => ?_
  refine sameAt_of_eq same (equal index member) fun text => ?_
  refine (attributeName_agree (escape text)).bind fun name name' named => ?_
  exact .pure (.cons named.1 .nil)

theorem fillBareAttribute_agree {key : Text}
    (equal : ∀ index ∈ markers key, filling.items[index]? = filling'.items[index]?) :
    Agree SameKeys (filling.fillBareAttribute key) (filling'.fillBareAttribute key) := by
  have filled : Agree (List.Forall₂ fun part part' => ∃ name,
      part = AttributePart.text name ∧ part' = AttributePart.text name)
      (filling.fillAttributeValue key) (filling'.fillAttributeValue key) := by
    refine Filling.fill_agree (fun literal => ⟨literal, rfl, rfl⟩) fun index member => ?_
    refine sameAt_of_eq same (equal index member) fun text => ?_
    exact .pure (.cons ⟨escape text, rfl, rfl⟩ .nil)
  refine filled.bind fun parts parts' pairs => ?_
  refine (single_agree pairs "attribute").bind ?_
  rintro _ _ ⟨name, rfl, rfl⟩
  refine (attributeName_agree name).bind ?_
  rintro name _ ⟨rfl, valid⟩
  exact .pure ⟨by simpa using valid, by simpa using valid, rfl⟩

/-- The value of an attribute is filled in the same number of parts, whatever its
interpolations hold. -/
theorem fillValuedAttribute_agree {key : Text} (value : Text)
    (equal : ∀ index ∈ markers key, filling.items[index]? = filling'.items[index]?) :
    Agree SameKeys (filling.fillValuedAttribute key value)
      (filling'.fillValuedAttribute key value) := by
  have filled : Agree (List.Forall₂ fun part part' => ∃ text text',
      part = AttributePart.text text ∧ part' = AttributePart.text text')
      (filling.fillAttributeValue value) (filling'.fillAttributeValue value) := by
    refine Filling.fill_agree (fun literal => ⟨literal, literal, rfl, rfl⟩) fun index _ => ?_
    refine sameAt same index fun text text' _ => ?_
    exact .pure (.cons ⟨escape text, escape text', rfl, rfl⟩ .nil)
  refine (fillAttributeKey_agree same equal).bind fun names names' pairs => ?_
  refine (single_agree pairs "attribute key").bind ?_
  rintro name _ rfl
  refine (attributeName_agree name).bind ?_
  rintro name _ ⟨rfl, valid⟩
  refine filled.bind fun parts parts' pairs => ?_
  cases pairs with
  | nil => exact .pure ⟨by simpa using valid, by simpa using valid, rfl⟩
  | cons first others =>
    obtain ⟨text, text', rfl, rfl⟩ := first
    cases others with
    | nil => exact .pure ⟨by simpa using valid, by simpa using valid, rfl⟩
    | cons second more =>
      have lengths := more.length_eq
      simp only [List.length_cons, lengths]
      exact Agree.throw _

theorem fillAttributes_agree {written : List Markup.WrittenAttribute}
    (equal : ∀ index ∈ written.flatMap (fun (key, _) => markers key),
      filling.items[index]? = filling'.items[index]?) :
    Agree SameKeys (filling.fillAttributes written) (filling'.fillAttributes written) := by
  have pairs : List.Forall₂ (fun entry entry' => entry = entry' ∧ entry ∈ written)
      written written := List.forall₂_same.mpr fun entry member => ⟨rfl, member⟩
  have filled : Agree (List.Forall₂ SameKeys)
      (written.mapM fun entry => filling.fillAttribute entry.1 entry.2)
      (written.mapM fun entry => filling'.fillAttribute entry.1 entry.2) := by
    refine Agree.mapM pairs ?_
    rintro ⟨key, value⟩ _ ⟨rfl, member⟩
    have equalHere : ∀ index ∈ markers key, filling.items[index]? = filling'.items[index]? :=
      fun index marked => equal index (List.mem_flatMap.mpr ⟨(key, value), member, marked⟩)
    cases value with
    | none => exact fillBareAttribute_agree same equalHere
    | some value => exact fillValuedAttribute_agree same value equalHere
  exact filled.bind fun attributes attributes' pairs => .pure (SameKeys.nil.foldl_extend pairs)

omit same in
/-- The parts of a tag's name that are all texts are its name together, if that is valid. -/
theorem placeName_of_texts (policy : MergePolicy) (attributes : Attributes)
    (children : List Child) (texts : List Text) :
    (placeName policy attributes children (texts.map .text) : Resolution σ Node) =
      if isTagName texts.flatten then pure { tag := texts.flatten, attributes, children }
      else throw (.invalidTagName texts.flatten) := by
  have named : Filling.nameText? (texts.map .text) = some texts.flatten := by
    have read : texts.mapM (fun text => some text) = some texts := by
      simpa using List.mapM_pure (m := Option) (l := texts) (f := id)
    simp [Filling.nameText?, List.mapM_map, Function.comp_def, read]
  unfold placeName
  split
  · rename_i node single
    rcases texts with _ | ⟨text, _ | _⟩ <;> simp at single
  · rw [named]

/-- A node and another one of the same shape. -/
def SameNode (node node' : Node) : Prop :=
  SameShape [node.toChild] [node'.toChild]

theorem fillTag_agree {tag : Option Text} {attributes attributes' : Attributes}
    {children children' : List Child}
    (equal : ∀ index ∈ (tag.map markers).getD [], filling.items[index]? = filling'.items[index]?)
    (keys : SameKeys attributes attributes') (inside : SameShape children children') :
    Agree SameNode (filling.fillTag tag attributes children)
      (filling'.fillTag tag attributes' children') := by
  cases tag with
  | none => exact .pure (.element (.inl rfl) .nil inside)
  | some tag =>
    have filled : Agree (List.Forall₂ fun part part' => ∃ name,
        part = NamePart.text name ∧ part' = NamePart.text name)
        (filling.fillName tag) (filling'.fillName tag) := by
      refine Filling.fill_agree (fun literal => ⟨literal, rfl, rfl⟩) fun index member => ?_
      refine sameAt_of_eq same (equal index member) fun text => ?_
      have converts (host : Host σ) :
          Gives (convertName host (.text text)) (.one (.text text)) :=
        fun session => ⟨session, rfl⟩
      exact .of_gives (converts filling.host) (converts filling'.host)
        (.cons ⟨text, rfl, rfl⟩ .nil)
    rw [Filling.fillTag_eq_bind, Filling.fillTag_eq_bind]
    refine filled.bind fun parts parts' pairs => ?_
    obtain ⟨texts, rfl, rfl⟩ : ∃ texts : List Text,
        parts = texts.map .text ∧ parts' = texts.map .text := by
      induction pairs with
      | nil => exact ⟨[], rfl, rfl⟩
      | cons first _ inductionHypothesis =>
        obtain ⟨text, rfl, rfl⟩ := first
        obtain ⟨texts, rfl, rfl⟩ := inductionHypothesis
        exact ⟨text :: texts, rfl, rfl⟩
    rw [placeName_of_texts, placeName_of_texts]
    split
    · exact .pure (.element (.inr (by assumption)) keys inside)
    · exact Agree.throw _

end Filling

mutual

/-- A part of a skeleton is filled with children of the same shape. -/
theorem fillPart_agree {σ : Type} {filling filling' : Filling σ}
    (same : List.Forall₂ Item.SameForm filling.items filling'.items) (part : Part)
    (equal : ∀ index ∈ part.nameMarkers, filling.items[index]? = filling'.items[index]?) :
    Agree SameShape (filling.fillPart part) (filling'.fillPart part) := by
  cases part with
  | text content =>
    rw [Filling.fillPart, Filling.fillPart]
    exact fillChild_agree same content
  | element tag written parts =>
    rw [Part.nameMarkers, Skeleton.tagMarkers] at equal
    simp only [List.mem_append, or_imp, forall_and] at equal
    rw [Filling.fillPart, Filling.fillPart]
    refine (fillParts_agree same parts equal.2).bind fun children children' inside => ?_
    refine (fillAttributes_agree same equal.1.2).bind fun attributes attributes' keys => ?_
    exact (fillTag_agree same equal.1.1 keys inside).bind fun node node' shape => .pure shape

/-- Parts of a skeleton are filled with children of the same shape. -/
theorem fillParts_agree {σ : Type} {filling filling' : Filling σ}
    (same : List.Forall₂ Item.SameForm filling.items filling'.items) (parts : List Part)
    (equal : ∀ index ∈ nameMarkersOf parts, filling.items[index]? = filling'.items[index]?) :
    Agree SameShape (filling.fillParts parts) (filling'.fillParts parts) := by
  cases parts with
  | nil =>
    rw [Filling.fillParts, Filling.fillParts]
    exact .pure .nil
  | cons part parts =>
    rw [nameMarkersOf] at equal
    simp only [List.mem_append, or_imp, forall_and] at equal
    rw [Filling.fillParts, Filling.fillParts]
    refine (fillPart_agree same part equal.1).bind fun children children' first => ?_
    refine (fillParts_agree same parts equal.2).bind fun more more' others => ?_
    exact .pure (first.append others)

end

theorem fillTree_agree {σ : Type} {filling filling' : Filling σ}
    (same : List.Forall₂ Item.SameForm filling.items filling'.items) (tree : Skeleton.Tree)
    (equal : ∀ index ∈ tree.nameMarkers, filling.items[index]? = filling'.items[index]?) :
    Agree SameNode (filling.fillTree tree) (filling'.fillTree tree) := by
  rw [Skeleton.Tree.nameMarkers, Skeleton.Tree.toPart, Part.nameMarkers,
    Skeleton.tagMarkers] at equal
  simp only [List.mem_append, or_imp, forall_and] at equal
  unfold Filling.fillTree
  refine (fillParts_agree same tree.children equal.2).bind fun children children' inside => ?_
  refine (fillAttributes_agree same equal.1.2).bind fun attributes attributes' keys => ?_
  exact fillTag_agree same equal.1.1 keys inside

/-- Items whose interpolations hold texts render alike if only texts that stand in no name
differ: to markup of the same shape, or with the same error. -/
theorem render_agree {σ : Type} (host : Host σ) (policy : MergePolicy) {items items' : List Item}
    (same : List.Forall₂ Item.SameForm items items')
    (equal : ∀ tree, Skeleton.ofItems items = .ok tree → ∀ index ∈ tree.nameMarkers,
      items[index]? = items'[index]?) :
    Agree
      (fun node node' =>
        Markup.shape (Markup.tokenize [node.render]) =
          Markup.shape (Markup.tokenize [node'.render]))
      (render host items policy) (render host items' policy) := by
  unfold render
  rw [← Skeleton.ofItems_congr same]
  cases built : Skeleton.ofItems items with
  | error error => exact Agree.throw error
  | ok tree =>
    let filling : Filling σ := { host, items, policy }
    let filling' : Filling σ := { host, items := items', policy }
    have filled : Agree SameNode (filling.fillTree tree) (filling'.fillTree tree) :=
      fillTree_agree same tree (equal tree built)
    refine filled.mono fun node node' shape => ?_
    have brackets := shape.brackets
    simp only [Markup.bracketsOf, List.append_nil] at brackets
    rw [Markup.Node.shape_render (shape.sound _ (by simp)),
      Markup.Node.shape_render (shape.sound' _ (by simp)), brackets]

/-- A value and a text that try to end the attribute and the element that they stand in. -/
theorem render_agree_hostile_texts :
    let held (text : String) : Item :=
      .interpolation { expr := ['e'], source := .held (.text text.toList) }
    let written (text : String) : Item := .text (.ofText text.toList)
    Agree
      (fun node node' =>
        Markup.shape (Markup.tokenize [node.render]) =
          Markup.shape (Markup.tokenize [node'.render]))
      (render Host.none
        [written "<p title=", held "a", written ">", held "b", written "</p>"] .nodeWins)
      (render Host.none
        [written "<p title=", held "\"><script>x$1x", written ">", held "</p><i>&lt;$",
          written "</p>"] .nodeWins) := by
  intro held written
  have form (text text' : String) : Item.SameForm (held text) (held text') :=
    .interpolation rfl ⟨rfl, rfl, rfl⟩ ⟨rfl, rfl, rfl⟩
  refine render_agree Host.none .nodeWins
    (.cons (.text _) (.cons (form _ _) (.cons (.text _) (.cons (form _ _)
      (.cons (.text _) .nil))))) ?_
  have unnamed : (match Skeleton.ofItems
        [written "<p title=", held "a", written ">", held "b", written "</p>"] with
      | .ok tree => tree.nameMarkers
      | .error _ => []) = [] := by
    decide +kernel
  intro tree found index member
  rw [found] at unnamed
  rw [show tree.nameMarkers = [] from unnamed] at member
  cases member

end Resolve

end HtmlTemplate
