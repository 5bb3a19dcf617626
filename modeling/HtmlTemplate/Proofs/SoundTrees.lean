import HtmlTemplate.Proofs.Delivery
import HtmlTemplate.Proofs.Dictionaries

/-!
# Sound trees

A skeleton is filled to a sound tree if all markup that filling comes by is sound: every way
that a name can take into the tree leads past a check (`fillTree_sound`). The elements inside
of a skeleton are filled on the way, each to a node that the tree holds; the ones with a tag of
their own have got a valid name (`fillTree_sound_inside`).
-/

namespace HtmlTemplate

open Markup (Attribute Attributes Child Node WrittenAttribute)

/-- A child is, or holds, another. -/
inductive Markup.Child.Contains : Child → Child → Prop where
  | here (child : Child) : Child.Contains child child
  | inside {tag : Text} {attributes : Attributes} {children : List Child} {child inner : Child}
      (member : child ∈ children) (further : Child.Contains child inner) :
      Child.Contains (.element tag attributes children) inner

/-- The element at the end of a path, which says for each level at which position among the
children to go on. -/
def Skeleton.Tree.at? (tree : Tree) : List Nat → Option Tree
  | [] => some tree
  | place :: path =>
    match tree.children[place]? with
    | some (.element tag attributes children) => at? { tag, attributes, children } path
    | _ => none

namespace Resolve

open Skeleton (Part Tree)

variable {σ : Type}

/-! ## Checks -/

section Checks

variable {possible : σ → Prop}

/-- The name of an attribute that is accepted is valid. -/
theorem attributeName_valid (name : Text) :
    Ensures possible (attributeName name) fun name => isAttributeName name = true := by
  unfold attributeName
  split
  · exact .pure (by assumption)
  · exact .throw _

/-- A single fragment has what all fragments have. -/
theorem single_ensures {α : Type} {holds : α → Prop} {fragments : List α}
    (all : ∀ fragment ∈ fragments, holds fragment) (place : String) :
    Ensures possible (single place fragments) holds := by
  unfold single
  split
  · exact .pure (all _ (by simp))
  · exact .throw _

/-! Some conversions do not use the host, and nothing has to be known of their results. -/

/-- What a value gives in the name of an attribute uses no host. -/
theorem convertAttributeKey_ensures (value : Value) :
    Ensures possible (convertAttributeKey value) fun _ => True := by
  cases value with
  | text text => exact (attributeName_valid _).bind fun _ _ => .pure trivial
  | _ => exact .throw _

/-- What a value gives in the value of an attribute uses no host. -/
theorem convertAttributeValue_ensures (value : Value) :
    Ensures possible (convertAttributeValue value) fun _ => True := by
  unfold convertAttributeValue
  split
  · exact .pure trivial
  · exact .pure trivial
  · exact .pure trivial
  · exact .throw _

/-- What an entry of a map gives as an attribute uses no host. -/
theorem spreadValue_ensures (value : Value) :
    Ensures possible (spreadValue value) fun _ => True := by
  unfold spreadValue
  split
  · exact .pure trivial
  · exact .pure trivial
  · exact .pure trivial
  · exact .pure trivial
  · exact .pure trivial
  · exact .throw _

/-- A sound node stays sound with valid attributes and sound children. -/
theorem merge_sound {node : Node} {attributes : Attributes} {children : List Child}
    (policy : MergePolicy) (sound : node.toChild.Sound)
    (keyed : ∀ entry ∈ attributes, isAttributeName entry.1 = true)
    (inside : ∀ child ∈ children, child.Sound) :
    (merge policy node attributes children).toChild.Sound := by
  obtain _ | ⟨named, keyedBefore, insideBefore⟩ := sound
  refine .element named ?_ ?_
  · intro entry member
    cases policy with
    | nodeWins => exact (Dictionary.mem_extendNew member).elim (keyedBefore entry) (keyed entry)
    | callSiteWins => exact (Dictionary.mem_extend member).elim (keyedBefore entry) (keyed entry)
  · intro child member
    exact (List.mem_append.mp member).elim (insideBefore child) (inside child)

/-- A name is put in place as a sound node, if the nodes among its parts are sound. -/
theorem placeName_sound {attributes : Attributes} {children : List Child}
    {parts : List NamePart} (policy : MergePolicy)
    (keyed : ∀ entry ∈ attributes, isAttributeName entry.1 = true)
    (inside : ∀ child ∈ children, child.Sound)
    (nodes : ∀ node, .node node ∈ parts → node.toChild.Sound) :
    Ensures possible (placeName policy attributes children parts)
      fun node => node.toChild.Sound := by
  intro session node session' before ran
  obtain ⟨rfl, ⟨html, rfl, rfl⟩ | ⟨name, valid, rfl⟩⟩ := placeName_eq_ok ran
  · exact ⟨before, merge_sound policy (nodes html (by simp)) keyed inside⟩
  · exact ⟨before, .element (.inr valid) keyed inside⟩

end Checks

namespace Filling

variable {filling : Filling σ} {start : σ}

/-! ## Attributes -/

/-- Filling the value of an attribute leaves the host in a state that can be reached. -/
theorem fillAttributeValue_ensures (text : Text) :
    Ensures (filling.Reaches start) (filling.fillAttributeValue text) fun _ => True :=
  fill_reaches convertAttributeValue_ensures text

/-- Filling the name of an attribute leaves the host in a state that can be reached. -/
theorem fillAttributeKey_ensures (text : Text) :
    Ensures (filling.Reaches start) (filling.fillAttributeKey text) fun _ => True :=
  fill_reaches convertAttributeKey_ensures text

/-- The keys of an attribute without a value have been checked, those of a map one by one. -/
theorem fillBareAttribute_keyed (key : Text) :
    Ensures (filling.Reaches start) (filling.fillBareAttribute key)
      fun attributes => ∀ entry ∈ attributes, isAttributeName entry.1 = true := by
  refine (fillAttributeValue_ensures key).bind fun parts _ => ?_
  refine (single_ensures (fun _ _ => trivial) "attribute").bind fun part _ => ?_
  cases part with
  | map entries =>
    have each : ∀ entry ∈ entries, Ensures (filling.Reaches start)
        (do let name ← attributeName entry.1
            let value ← spreadValue entry.2
            pure (name, value))
        fun entry : Text × Attribute => isAttributeName entry.1 = true := by
      intro entry _
      refine (attributeName_valid entry.1).bind fun name valid => ?_
      exact (spreadValue_ensures entry.2).bind fun value _ => .pure valid
    refine (Ensures.mapM each).bind fun attributes valid => .pure ?_
    exact fun entry member => valid entry (Dictionary.mem_ofList member)
  | text name =>
    exact (attributeName_valid name).bind fun name valid => .pure (by simpa using valid)

/-- An attribute with a value has a valid name. -/
theorem fillValuedAttribute_keyed (key value : Text) :
    Ensures (filling.Reaches start) (filling.fillValuedAttribute key value)
      fun attributes => ∀ entry ∈ attributes, isAttributeName entry.1 = true := by
  refine (fillAttributeKey_ensures key).bind fun names _ => ?_
  refine (single_ensures (fun _ _ => trivial) "attribute key").bind fun name _ => ?_
  refine (attributeName_valid name).bind fun name valid => ?_
  refine (fillAttributeValue_ensures value).bind fun parts _ => ?_
  split
  · exact .pure (by simpa using valid)
  · exact .pure (by simpa using valid)
  · exact .pure (by simpa using valid)
  · exact .throw _

/-- All attributes of a tag have valid names. -/
theorem fillAttributes_keyed (written : List WrittenAttribute) :
    Ensures (filling.Reaches start) (filling.fillAttributes written)
      fun attributes => ∀ entry ∈ attributes, isAttributeName entry.1 = true := by
  have each : ∀ entry ∈ written, Ensures (filling.Reaches start)
      (filling.fillAttribute entry.1 entry.2)
      fun attributes => ∀ entry ∈ attributes, isAttributeName entry.1 = true := by
    rintro ⟨key, value⟩ _
    cases value with
    | none => exact fillBareAttribute_keyed key
    | some value => exact fillValuedAttribute_keyed key value
  refine (Ensures.mapM each).bind fun all keyed => .pure fun entry member => ?_
  rcases Dictionary.mem_foldl_extend member with among | ⟨attributes, within, among⟩
  · cases among
  · exact keyed attributes within entry among

/-! ## Names of elements -/

/-- A node in the name of a tag has been delivered, possibly by components. -/
theorem namePart_delivers (calls : Nat) {value : Value} (delivered : filling.Delivers start value) :
    Ensures (filling.Reaches start) (namePart filling.host calls value)
      fun part => ∀ node, part = .node node → filling.Delivers start (.markup node) := by
  induction calls generalizing value with
  | zero =>
    cases value with
    | markup node => exact .pure fun _ same => (NamePart.node.inj same) ▸ delivered
    | text text => exact .pure fun _ same => nomatch same
    | int value => exact .pure fun _ same => nomatch same
    | _ => exact .throw _
  | succ calls inductionHypothesis =>
    cases value with
    | component name id =>
      exact (call_delivers delivered).bind fun value delivered => inductionHypothesis delivered
    | markup node => exact .pure fun _ same => (NamePart.node.inj same) ▸ delivered
    | text text => exact .pure fun _ same => nomatch same
    | int value => exact .pure fun _ same => nomatch same
    | _ => exact .throw _

/-- A node in a tag's name has been delivered. -/
theorem fillName_delivers (tag : Text) :
    Ensures (filling.Reaches start) (filling.fillName tag)
      fun parts => ∀ node, .node node ∈ parts → filling.Delivers start (.markup node) := by
  have values (value : Value) (delivered : filling.Delivers start value) :
      Ensures (filling.Reaches start) (convertName filling.host value) fun converted =>
        ∀ part ∈ converted.toList,
          ∀ node, part = .node node → filling.Delivers start (.markup node) := by
    refine (namePart_delivers depthLimit delivered).bind fun part node => .pure ?_
    simpa [Converted.toList] using node
  refine (fill_ensures (fun _ _ same => nomatch same) values tag).mono fun parts all => ?_
  exact fun node member => all _ member node rfl

/-! ## Skeletons -/

/-- A tag gives a sound node, if the nodes that are delivered are sound. -/
theorem fillTag_sound (sound : ∀ node, filling.Delivers start (.markup node) → node.toChild.Sound)
    (tag : Option Text) {attributes : Attributes} {children : List Child}
    (keyed : ∀ entry ∈ attributes, isAttributeName entry.1 = true)
    (inside : ∀ child ∈ children, child.Sound) :
    Ensures (filling.Reaches start) (filling.fillTag tag attributes children)
      fun node => node.toChild.Sound := by
  cases tag with
  | none => exact .pure (.element (.inl rfl) (by simp [Node.fragment]) inside)
  | some tag =>
    rw [fillTag_eq_bind]
    refine (fillName_delivers tag).bind fun parts delivered => ?_
    exact placeName_sound _ keyed inside fun node member => sound node (delivered node member)

mutual

/-- A part of a skeleton gives sound children, if the nodes that are delivered are sound. -/
theorem fillPart_sound
    (sound : ∀ node, filling.Delivers start (.markup node) → node.toChild.Sound) (part : Part) :
    Ensures (filling.Reaches start) (filling.fillPart part)
      fun children => ∀ child ∈ children, child.Sound := by
  cases part with
  | text content =>
    rw [fillPart]
    exact fillChild_sound sound content
  | element tag written parts =>
    rw [fillPart]
    refine (fillParts_sound sound parts).bind fun children inside => ?_
    refine (fillAttributes_keyed written).bind fun attributes keyed => ?_
    refine (fillTag_sound sound tag keyed inside).bind fun node whole => .pure ?_
    simpa using whole

/-- The parts of a skeleton give sound children, if the nodes that are delivered are sound. -/
theorem fillParts_sound
    (sound : ∀ node, filling.Delivers start (.markup node) → node.toChild.Sound)
    (parts : List Part) :
    Ensures (filling.Reaches start) (filling.fillParts parts)
      fun children => ∀ child ∈ children, child.Sound := by
  cases parts with
  | nil =>
    rw [fillParts]
    exact .pure (by simp)
  | cons part parts =>
    rw [fillParts]
    refine (fillPart_sound sound part).bind fun children first => ?_
    refine (fillParts_sound sound parts).bind fun more others => .pure ?_
    exact List.forall_mem_append.mpr ⟨first, others⟩

end

/-- A skeleton is filled to a sound tree. -/
theorem fillTree_sound
    (sound : ∀ node, filling.Delivers start (.markup node) → node.toChild.Sound) (tree : Tree) :
    Ensures (filling.Reaches start) (filling.fillTree tree) fun node => node.toChild.Sound := by
  refine (fillParts_sound sound tree.children).bind fun children inside => ?_
  refine (fillAttributes_keyed tree.attributes).bind fun attributes keyed => ?_
  exact fillTag_sound sound tree.tag keyed inside

/-! ## Elements inside of skeletons -/

/-- Filling a skeleton from a session on comes to fill the element at a path, from another
session on. -/
inductive ComesTo (filling : Filling σ) :
    List Nat → Tree → Session σ → Tree → Session σ → Prop where
  | here (tree : Tree) (session : Session σ) : ComesTo filling [] tree session tree session
  | inside {place : Nat} {path : List Nat} {tree inner innermost : Tree}
      {session between start : Session σ} {children : List Child}
      (there : tree.children[place]? = some inner.toPart)
      (earlier : filling.fillParts (tree.children.take place) session = .ok children between)
      (further : ComesTo filling path inner between innermost start) :
      ComesTo filling (place :: path) tree session innermost start

/-- Filling a skeleton from a session on puts a node in place of its tag. -/
def Substitutes (filling : Filling σ) (tree : Tree) (session : Session σ) (html : Node) : Prop :=
  ∃ tag stop, tree.tag = some tag ∧
    (do
      let _ ← filling.fillParts tree.children
      let _ ← filling.fillAttributes tree.attributes
      filling.fillName tag) session = .ok [.node html] stop

/-- The children inside of an element are children of its node, whatever its tag is. -/
theorem mem_children_of_fillTag {tag : Option Text} {attributes : Attributes}
    {children : List Child} {session session' : Session σ} {node : Node}
    (ran : filling.fillTag tag attributes children session = .ok node session') :
    ∀ child ∈ children, child ∈ node.children := by
  cases tag with
  | none =>
    cases ran
    exact fun child member => member
  | some tag =>
    rw [fillTag_eq_bind] at ran
    obtain ⟨parts, between, _, placed⟩ := exists_of_bind_eq_ok ran
    intro child member
    obtain ⟨-, ⟨html, -, rfl⟩ | ⟨name, -, rfl⟩⟩ := placeName_eq_ok placed
    · exact List.mem_append_right html.children member
    · exact member

/-- An element with a tag that no node takes the place of gets a valid name. -/
theorem isTagName_of_fillTree {tree : Tree} {session session' : Session σ} {node : Node}
    (ran : filling.fillTree tree session = .ok node session') (tagged : tree.tag ≠ none)
    (own : ∀ html, ¬ filling.Substitutes tree session html) : isTagName node.tag = true := by
  obtain ⟨tag, written⟩ := Option.ne_none_iff_exists'.mp tagged
  obtain ⟨children, first, inside, ran⟩ := exists_of_bind_eq_ok ran
  obtain ⟨attributes, second, keyed, ran⟩ := exists_of_bind_eq_ok ran
  rw [written, fillTag_eq_bind] at ran
  obtain ⟨parts, third, named, placed⟩ := exists_of_bind_eq_ok ran
  obtain ⟨-, ⟨html, rfl, -⟩ | ⟨name, valid, rfl⟩⟩ := placeName_eq_ok placed
  · refine absurd ⟨tag, third, written, ?_⟩ (own html)
    simp only [Bind.bind, EStateM.bind, inside, keyed]
    exact named
  · exact valid

/-- The element at a position among the children is filled to one of the node's children, once
those in front of it are filled. -/
theorem exists_child_of_fillTree {tree inner : Tree} {place : Nat}
    {session session' : Session σ} {node : Node}
    (there : tree.children[place]? = some inner.toPart)
    (ran : filling.fillTree tree session = .ok node session') :
    ∃ children between built stop,
      filling.fillParts (tree.children.take place) session = .ok children between ∧
      filling.fillTree inner between = .ok built stop ∧ built.toChild ∈ node.children := by
  have parted : tree.children =
      tree.children.take place ++ inner.toPart :: tree.children.drop (place + 1) := by
    obtain ⟨bound, same⟩ := List.getElem?_eq_some_iff.mp there
    rw [← same, ← List.drop_eq_getElem_cons bound, List.take_append_drop]
  obtain ⟨all, inside, filled, ran⟩ := exists_of_bind_eq_ok ran
  obtain ⟨attributes, second, _, tagged⟩ := exists_of_bind_eq_ok ran
  rw [parted, fillParts_append, fillParts, fillPart_toPart] at filled
  obtain ⟨earlier, between, before, filled⟩ := exists_of_bind_eq_ok filled
  obtain ⟨more, _, filled, gathered⟩ := exists_of_bind_eq_ok filled
  obtain ⟨one, _, filled, rest⟩ := exists_of_bind_eq_ok filled
  obtain ⟨built, stop, here, alone⟩ := exists_of_bind_eq_ok filled
  obtain ⟨later, _, _, joined⟩ := exists_of_bind_eq_ok rest
  cases alone
  cases joined
  cases gathered
  exact ⟨earlier, between, built, _, before, here, mem_children_of_fillTag tagged _ (by simp)⟩

/-- Every element of a skeleton is filled, and its node is in the tree. -/
theorem exists_comesTo {tree inner : Tree} {path : List Nat} {session session' : Session σ}
    {node : Node} (there : tree.at? path = some inner)
    (ran : filling.fillTree tree session = .ok node session') :
    ∃ start built stop, filling.ComesTo path tree session inner start ∧
      filling.fillTree inner start = .ok built stop ∧ node.toChild.Contains built.toChild := by
  induction path generalizing tree session session' node with
  | nil =>
    cases there
    exact ⟨session, node, session', .here inner session, ran, .here node.toChild⟩
  | cons place path inductionHypothesis =>
    rw [Tree.at?] at there
    split at there
    · rename_i tag written parts found
      have next : tree.children[place]? =
          some (Tree.toPart { tag, attributes := written, children := parts }) := found
      obtain ⟨children, between, middle, _, earlier, filled, member⟩ :=
        exists_child_of_fillTree next ran
      obtain ⟨start, built, stop, comes, here, within⟩ := inductionHypothesis there filled
      exact ⟨start, built, stop, .inside next earlier comes, here, .inside member within⟩
    · cases there

/-- Where all markup that filling comes by is sound, a skeleton is filled to a sound tree. Every
element of the skeleton is filled to a node in that tree; if the element has a tag, and no node
is put in place of it, the node has a valid name that is not empty. -/
theorem fillTree_sound_inside {tree : Tree} {session session' : Session σ} {node : Node}
    (sound : ∀ html, filling.Delivers session.state (.markup html) → html.toChild.Sound)
    (ran : filling.fillTree tree session = .ok node session') :
    node.toChild.Sound ∧
      ∀ path inner, tree.at? path = some inner →
        ∃ start built stop, filling.ComesTo path tree session inner start ∧
          filling.fillTree inner start = .ok built stop ∧
          node.toChild.Contains built.toChild ∧
          (inner.tag ≠ none → (∀ html, ¬ filling.Substitutes inner start html) →
            built.tag ≠ [] ∧ isTagName built.tag = true) := by
  refine ⟨(fillTree_sound sound tree session node session' .start ran).2, ?_⟩
  intro path inner there
  obtain ⟨start, built, stop, comes, here, within⟩ := exists_comesTo there ran
  refine ⟨start, built, stop, comes, here, within, fun tagged own => ?_⟩
  have valid := isTagName_of_fillTree here tagged own
  exact ⟨(of_isTagName valid).1, valid⟩

/-- Literal text stands for no node. -/
theorem not_substitutes_of_split {tree : Tree} {tag literal : Text} (tagged : tree.tag = some tag)
    (alone : Skeleton.split tag = [.literal literal]) (session : Session σ) (html : Node) :
    ¬ filling.Substitutes tree session html := by
  rintro ⟨written, stop, same, ran⟩
  obtain rfl : tag = written := Option.some.inj (tagged.symm.trans same)
  obtain ⟨_, _, _, ran⟩ := exists_of_bind_eq_ok ran
  obtain ⟨_, _, _, ran⟩ := exists_of_bind_eq_ok ran
  have named : Gives (filling.fillName tag) [.text literal] := filling.fill_gives_literal alone
  cases named.eq_of_ran ran

/-- A node in place of a tag around a list that holds a node. -/
theorem fillTree_sound_inside_card :
    let card : Node :=
      { tag := ['h', 'r'], attributes := [(['i', 'd'], .text ['a'])], children := [.text ['b']] }
    let held (value : Value) : Item := .interpolation { expr := ['e'], source := .held value }
    let filling : Filling Unit :=
      { host := Host.none
        items := [held (.markup card), held (.list [.markup { tag := ['b'] }, .text ['<']])] }
    let inner : Tree := { tag := some ['p'], children := [.text (Skeleton.marker 1)] }
    let tree : Tree := { tag := some (Skeleton.marker 0), children := [inner.toPart] }
    (∀ html, filling.Delivers () (.markup html) → html.toChild.Sound) ∧
      ∃ (node built : Node) (session' : Session Unit),
        filling.fillTree tree { state := () } = .ok node session' ∧ node.toChild.Sound ∧
          node.toChild.Contains built.toChild ∧ isTagName built.tag = true := by
  intro card held filling inner tree
  have closed : filling.Closed (fun _ => True) fun value => value ∈
      [.markup card, .list [.markup { tag := ['b'] }, .text ['<']], .markup { tag := ['b'] },
        .text ['<']] := by
    constructor
    case evaluated =>
      intro interpolation within index session value session' _ ran
      simp only [filling, held, List.mem_cons, List.not_mem_nil, or_false,
        Item.interpolation.injEq] at within
      rcases within with rfl | rfl <;> cases ran <;> simp
    case item =>
      intro items item holds member
      have only : items = [.markup { tag := ['b'] }, .text ['<']] := by simpa using holds
      subst only
      simp only [List.mem_cons, List.not_mem_nil, or_false] at member ⊢
      exact .inr (.inr member)
    all_goals simp
  have sound : ∀ html, filling.Delivers () (.markup html) → html.toChild.Sound := by
    intro html delivered
    have member := delivered.good_of_closed closed trivial
    simp only [List.mem_cons, Value.markup.injEq, reduceCtorEq, List.not_mem_nil, or_false,
      false_or] at member
    rcases member with rfl | rfl
    · exact .element (.inr (by decide)) (by decide) (by simpa [card] using .text ['b'])
    · exact .element (.inr (by decide)) (by simp) (by simp)
  have succeeds : (EStateM.run' (filling.fillTree tree) { state := () }).isSome = true := by
    decide +kernel
  cases ran : filling.fillTree tree { state := () } with
  | error error session' =>
    delta EStateM.run' EStateM.run at succeeds
    rw [ran] at succeeds
    cases succeeds
  | ok node session' =>
    obtain ⟨whole, every⟩ := fillTree_sound_inside sound ran
    obtain ⟨start, built, stop, _, _, within, named⟩ := every [0] inner rfl
    have alone : Skeleton.split ['p'] = [.literal ['p']] :=
      Skeleton.split_eq_self (by decide) (by decide)
    have own : ∀ html, ¬ filling.Substitutes inner start html :=
      not_substitutes_of_split rfl alone start
    exact ⟨sound, node, built, session', rfl, whole, within, (named (by simp [inner]) own).2⟩

end Filling

end Resolve

end HtmlTemplate
