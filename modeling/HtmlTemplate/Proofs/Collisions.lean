import HtmlTemplate.Proofs.Dictionaries
import HtmlTemplate.Proofs.Filling

/-!
# Colliding attributes

A skeleton is filled under either merge policy with the same steps: both fillings fail with the
same error, or both give trees with the same tags, texts and keys (`fillTree_inStep`). Values
differ only in a node that was put in place of a tag, under the keys that the node and the place
both set.
-/

namespace HtmlTemplate

open Markup (Attributes Child Node WrittenAttribute)

namespace Markup

mutual

/-- A child without the values of its attributes: its tags, texts and keys. -/
def Child.withoutValues : Child → Child
  | .text content => .text content
  | .element tag attributes children =>
    .element tag (attributes.map fun (key, _) => (key, .flag true)) (withoutValuesOf children)

/-- Some children without the values of their attributes. -/
def withoutValuesOf : List Child → List Child
  | [] => []
  | child :: rest => child.withoutValues :: withoutValuesOf rest

end

/-- The values are left out of each child by itself. -/
theorem withoutValuesOf_eq_map (children : List Child) :
    withoutValuesOf children = children.map Child.withoutValues := by
  induction children with
  | nil => rfl
  | cons child children inductionHypothesis =>
    rw [withoutValuesOf, inductionHypothesis, List.map_cons]

/-- Of an element without values its tag is left, its keys and its children. -/
theorem withoutValues_congr {attributes attributes' : Attributes} {children children' : List Child}
    (tag : Text) (keys : attributes.keys = attributes'.keys)
    (inside : withoutValuesOf children = withoutValuesOf children') :
    (Child.element tag attributes children).withoutValues =
      (Child.element tag attributes' children').withoutValues := by
  have flags (entries : Attributes) : (entries.map fun (key, _) => (key, Attribute.flag true)) =
      entries.keys.map fun key => (key, .flag true) := by
    simp [Dictionary.keys]
  rw [Child.withoutValues, Child.withoutValues, flags, flags, keys, inside]

end Markup

namespace Resolve

open Skeleton (Part Tree)

variable {σ α β : Type}

/-! ## Runs in step -/

/-- Two outcomes leave the same session and are related results there, or the same error. -/
inductive InStep (related : α → α → Session σ → Prop) :
    EStateM.Result Error (Session σ) α → EStateM.Result Error (Session σ) α → Prop where
  | ok {result result' : α} {session : Session σ} (holds : related result result' session) :
      InStep related (.ok result session) (.ok result' session)
  | error (error : Error) (session : Session σ) :
      InStep related (.error error session) (.error error session)

namespace InStep

/-- What is run twice from one session runs in step. -/
theorem refl (resolution : Resolution σ α) (session : Session σ) :
    InStep (fun result result' stop => result' = result ∧ resolution session = .ok result stop)
      (resolution session) (resolution session) := by
  cases ran : resolution session with
  | ok result stop => exact .ok ⟨rfl, rfl⟩
  | error error stop => exact .error error stop

/-- Results that are related are given in step. -/
theorem pure {related : α → α → Session σ → Prop} {result result' : α} {session : Session σ}
    (holds : related result result' session) :
    InStep related ((Pure.pure result : Resolution σ α) session)
      ((Pure.pure result' : Resolution σ α) session) :=
  .ok holds

/-- Two runs stay in step if they go on so behind related results. -/
theorem bind {related : α → α → Session σ → Prop} {relatedNext : β → β → Session σ → Prop}
    {first second : Resolution σ α} {next next' : α → Resolution σ β} {session : Session σ}
    (inStep : InStep related (first session) (second session))
    (inStepNext : ∀ result result' middle, related result result' middle →
      InStep relatedNext (next result middle) (next' result' middle)) :
    InStep relatedNext ((first >>= next) session) ((second >>= next') session) := by
  simp only [Bind.bind, EStateM.bind]
  generalize first session = outcome, second session = outcome' at inStep ⊢
  cases inStep with
  | ok holds => exact inStepNext _ _ _ holds
  | error error stop => exact .error error stop

/-- Results may be related more weakly than they are. -/
theorem mono {related weaker : α → α → Session σ → Prop}
    {outcome outcome' : EStateM.Result Error (Session σ) α}
    (inStep : InStep related outcome outcome')
    (weaken : ∀ result result' session, related result result' session →
      weaker result result' session) : InStep weaker outcome outcome' := by
  cases inStep with
  | ok holds => exact .ok (weaken _ _ _ holds)
  | error error session => exact .error error session

/-- Runs in step that both give a result leave the same session, and their results are related. -/
theorem of_ok {related : α → α → Session σ → Prop} {result result' : α}
    {session session' : Session σ}
    (inStep : InStep related (.ok result session) (.ok result' session')) :
    session' = session ∧ related result result' session := by
  cases inStep with
  | ok holds => exact ⟨rfl, holds⟩

end InStep

namespace Filling

/-- A filling with a given policy. -/
def under (filling : Filling σ) (policy : MergePolicy) : Filling σ :=
  { filling with policy }

/-- The attributes of a node, those of the place that it is put at, and what becomes of them
under the two policies: the same keys in the same order, and under a key that both set the value
of the node, or the one of the place. -/
structure Collide (node place nodeWins callSiteWins : Attributes) : Prop where
  keys : nodeWins.keys = callSiteWins.keys
  nodeWins : ∀ key, nodeWins.get? key = (node.get? key).or (place.get? key)
  callSiteWins : ∀ key, callSiteWins.get? key = (place.get? key).or (node.get? key)

variable (filling : Filling σ)

/-- What a tag gives under the two policies, with given attributes, and children that may differ
themselves. Only where a node is put in place of the tag, attributes can differ. -/
inductive TagTwins : Option Text → Attributes → List Child → List Child → Session σ → Node →
    Node → Session σ → Prop where
  | fragment {attributes : Attributes} {children children' : List Child} {session : Session σ} :
      TagTwins none attributes children children' session (.fragment children)
        (.fragment children') session
  | named {tag name : Text} {parts : List NamePart} {attributes : Attributes}
      {children children' : List Child} {start stop : Session σ}
      (filled : filling.fillName tag start = .ok parts stop) (text : nameText? parts = some name)
      (valid : isTagName name = true) :
      TagTwins (some tag) attributes children children' start
        { tag := name, attributes, children } { tag := name, attributes, children := children' }
        stop
  | substituted {tag : Text} {node : Node} {place nodeWins callSiteWins : Attributes}
      {children children' : List Child} {start stop : Session σ}
      (filled : filling.fillName tag start = .ok [.node node] stop)
      (collide : Collide node.attributes place nodeWins callSiteWins) :
      TagTwins (some tag) place children children' start
        { tag := node.tag, attributes := nodeWins, children := node.children ++ children }
        { tag := node.tag, attributes := callSiteWins, children := node.children ++ children' }
        stop

mutual

/-- What a part of a skeleton gives under the two policies, filled from one session on to
another. -/
inductive PartTwins : Part → Session σ → List Child → List Child → Session σ → Prop where
  | text {content : Text} {children : List Child} {start stop : Session σ}
      (filled : filling.fillChild content start = .ok children stop) :
      PartTwins (.text content) start children children stop
  | element {tag : Option Text} {written : List WrittenAttribute} {parts : List Part}
      {children children' : List Child} {attributes : Attributes} {node node' : Node}
      {start second third stop : Session σ}
      (inside : PartsTwins parts start children children' second)
      (filled : filling.fillAttributes written second = .ok attributes third)
      (tagged : filling.TagTwins tag attributes children children' third node node' stop) :
      PartTwins (.element tag written parts) start [node.toChild] [node'.toChild] stop

/-- What some parts of a skeleton give under the two policies, one after the other. -/
inductive PartsTwins : List Part → Session σ → List Child → List Child → Session σ → Prop where
  | nil {session : Session σ} : PartsTwins [] session [] [] session
  | cons {part : Part} {parts : List Part} {children children' more more' : List Child}
      {start middle stop : Session σ}
      (first : PartTwins part start children children' middle)
      (others : PartsTwins parts middle more more' stop) :
      PartsTwins (part :: parts) start (children ++ more) (children' ++ more') stop

end

/-! ## Tags -/

/-- A node is merged with the attributes of its place in both ways. -/
theorem merge_collide (node : Node) {place : Attributes} (distinct : place.keys.Nodup)
    (children children' : List Child) :
    Collide node.attributes place (merge .nodeWins node place children).attributes
      (merge .callSiteWins node place children').attributes where
  keys := (Dictionary.keys_extend_eq_keys_extendNew node.attributes place).symm
  nodeWins := Dictionary.get?_extendNew node.attributes place
  callSiteWins := Dictionary.get?_extend node.attributes distinct

/-- The parts of a tag's name are a node alone, or both policies make the same of them. -/
theorem placeName_inStep {parts : List NamePart} {tag : Text} {place : Attributes}
    {start session : Session σ} (filled : filling.fillName tag start = .ok parts session)
    (distinct : place.keys.Nodup) (children children' : List Child) :
    InStep (filling.TagTwins (some tag) place children children' start)
      (placeName .nodeWins place children parts session)
      (placeName .callSiteWins place children' parts session) := by
  by_cases alone : ∃ node, parts = [.node node]
  · obtain ⟨node, rfl⟩ := alone
    exact .ok (.substituted filled (merge_collide node distinct children children'))
  · have several : ∀ node, parts = [.node node] → False := fun node same => alone ⟨node, same⟩
    rw [placeName.eq_2 _ _ _ _ several, placeName.eq_2 _ _ _ _ several]
    cases named : nameText? parts with
    | none => exact .error _ session
    | some name =>
      by_cases valid : isTagName name = true
      · simp only [if_pos valid]
        exact .ok (.named filled named valid)
      · simp only [if_neg valid]
        exact .error _ session

/-- A tag is filled in step under the two policies. -/
theorem fillTag_inStep (tag : Option Text) {place : Attributes} (distinct : place.keys.Nodup)
    (children children' : List Child) (session : Session σ) :
    InStep (filling.TagTwins tag place children children' session)
      ((filling.under .nodeWins).fillTag tag place children session)
      ((filling.under .callSiteWins).fillTag tag place children' session) := by
  cases tag with
  | none => exact .pure .fragment
  | some tag =>
    rw [fillTag_eq_bind, fillTag_eq_bind]
    refine (InStep.refl (filling.fillName tag) session).bind ?_
    rintro parts _ middle ⟨rfl, filled⟩
    exact filling.placeName_inStep filled distinct children children'

/-! ## Skeletons -/

/-- No place sets a key twice. -/
theorem nodup_keys_of_fillAttributes {written : List WrittenAttribute} {attributes : Attributes}
    {session session' : Session σ}
    (ran : filling.fillAttributes written session = .ok attributes session') :
    attributes.keys.Nodup := by
  obtain ⟨all, _, _, ran⟩ := exists_of_bind_eq_ok ran
  cases ran
  have empty : (Dictionary.keys ([] : Attributes)).Nodup := List.nodup_nil
  exact Dictionary.nodup_keys_foldl_extend empty all

mutual

/-- A part of a skeleton is filled in step under the two policies. -/
theorem fillPart_inStep (part : Part) (session : Session σ) :
    InStep (filling.PartTwins part session) ((filling.under .nodeWins).fillPart part session)
      ((filling.under .callSiteWins).fillPart part session) := by
  cases part with
  | text content =>
    rw [fillPart, fillPart]
    refine (InStep.refl (filling.fillChild content) session).mono ?_
    rintro children _ stop ⟨rfl, filled⟩
    exact .text filled
  | element tag written parts =>
    rw [fillPart, fillPart]
    refine (fillParts_inStep parts session).bind fun children children' second inside => ?_
    refine (InStep.refl (filling.fillAttributes written) second).bind ?_
    rintro attributes _ third ⟨rfl, filled⟩
    have distinct := filling.nodup_keys_of_fillAttributes filled
    refine (filling.fillTag_inStep tag distinct children children' third).bind ?_
    exact fun node node' stop tagged => .pure (.element inside filled tagged)

/-- The parts of a skeleton are filled in step under the two policies. -/
theorem fillParts_inStep (parts : List Part) (session : Session σ) :
    InStep (filling.PartsTwins parts session) ((filling.under .nodeWins).fillParts parts session)
      ((filling.under .callSiteWins).fillParts parts session) := by
  cases parts with
  | nil =>
    rw [fillParts, fillParts]
    exact .pure .nil
  | cons part parts =>
    rw [fillParts, fillParts]
    refine (fillPart_inStep part session).bind fun children children' middle first => ?_
    refine (fillParts_inStep parts middle).bind fun more more' stop others => ?_
    exact .pure (.cons first others)

end

variable {filling}

mutual

/-- What a part gives under the two policies differs in the values of attributes alone. -/
theorem PartTwins.withoutValues {part : Part} {start stop : Session σ}
    {children children' : List Child} :
    filling.PartTwins part start children children' stop →
      Markup.withoutValuesOf children = Markup.withoutValuesOf children'
  | .text _ => rfl
  | .element inside _ tagged => by
    have below := inside.withoutValues
    simp only [Markup.withoutValuesOf, List.cons.injEq, and_true]
    cases tagged with
    | fragment => exact Markup.withoutValues_congr [] rfl below
    | named => exact Markup.withoutValues_congr _ rfl below
    | substituted _ collide =>
      refine Markup.withoutValues_congr _ collide.keys ?_
      simp only [Markup.withoutValuesOf_eq_map, List.map_append] at below ⊢
      rw [below]

/-- What some parts give under the two policies differs in the values of attributes alone. -/
theorem PartsTwins.withoutValues {parts : List Part} {start stop : Session σ}
    {children children' : List Child} :
    filling.PartsTwins parts start children children' stop →
      Markup.withoutValuesOf children = Markup.withoutValuesOf children'
  | .nil => rfl
  | .cons first others => by
    have front := first.withoutValues
    have behind := others.withoutValues
    simp only [Markup.withoutValuesOf_eq_map, List.map_append] at front behind ⊢
    rw [front, behind]

end

variable (filling)

/-- Filling a skeleton under the two policies fails with the same error, or gives two nodes with
the same tags, texts and keys in the same order. The two are filled part by part from the same
sessions; where a node is put in place of a tag, and only there, a key that both the node and the
place set has the value of the node under one policy and that of the place under the other. -/
theorem fillTree_inStep (tree : Tree) (session : Session σ) :
    InStep
      (fun node node' stop =>
        node.toChild.withoutValues = node'.toChild.withoutValues ∧
          filling.PartTwins tree.toPart session [node.toChild] [node'.toChild] stop)
      ((filling.under .nodeWins).fillTree tree session)
      ((filling.under .callSiteWins).fillTree tree session) := by
  refine (fillParts_inStep filling tree.children session).bind
    fun children children' second inside => ?_
  refine (InStep.refl (filling.fillAttributes tree.attributes) second).bind ?_
  rintro attributes _ third ⟨rfl, filled⟩
  have distinct := filling.nodup_keys_of_fillAttributes filled
  refine (filling.fillTag_inStep tree.tag distinct children children' third).mono ?_
  intro node node' stop tagged
  have twins : filling.PartTwins tree.toPart session [node.toChild] [node'.toChild] stop :=
    .element inside filled tagged
  exact ⟨(List.cons.inj twins.withoutValues).1, twins⟩

/-- A paragraph is put in the place of a tag, and both set one key: its value is that of the
paragraph, or that of the place. The other attribute of the place is there under both policies. -/
theorem fillTree_inStep_paragraph :
    let filling := ofNode { tag := ['p'], attributes := [(['k'], .text ['a'])] }
    let tree : Tree :=
      { tag := some (Skeleton.marker 0)
        attributes := [(['k'], some ['b']), (['l'], some ['c'])]
        children := [] }
    ∃ node node' stop,
      (filling.under .nodeWins).fillTree tree { state := () } = .ok node stop ∧
        (filling.under .callSiteWins).fillTree tree { state := () } = .ok node' stop ∧
        node.render = "<p k=\"a\" l=\"c\"/>".toList ∧
        node'.render = "<p k=\"b\" l=\"c\"/>".toList ∧
        node.toChild.withoutValues = node'.toChild.withoutValues ∧
        filling.PartTwins tree.toPart { state := () } [node.toChild] [node'.toChild] stop := by
  intro filling tree
  have inStep := filling.fillTree_inStep tree { state := () }
  have run : seen ((filling.under .nodeWins).fillTree tree { state := () }) =
      (.ok "<p k=\"a\" l=\"c\"/>".toList, [0]) := by decide +kernel
  have run' : seen ((filling.under .callSiteWins).fillTree tree { state := () }) =
      (.ok "<p k=\"b\" l=\"c\"/>".toList, [0]) := by decide +kernel
  obtain ⟨node, stop, filled, rendered, _⟩ := exists_of_seen_ok run
  obtain ⟨node', stop', filled', rendered', _⟩ := exists_of_seen_ok run'
  rw [filled, filled'] at inStep
  obtain ⟨rfl, same, twins⟩ := inStep.of_ok
  exact ⟨node, node', _, filled, filled', rendered, rendered', same, twins⟩

end Filling

end Resolve

end HtmlTemplate
