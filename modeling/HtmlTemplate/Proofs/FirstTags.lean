import HtmlTemplate.Proofs.Dictionaries
import HtmlTemplate.Proofs.References
import HtmlTemplate.Proofs.Rendered

/-!
# The start tag that markup begins with

When a text begins with a start tag, and which keys the tag carries (`IsStartTag`). The names are
held to a grammar, so that a word in a value or further inside is not taken for a key, and a text
begins with one start tag at most (`IsStartTag.unique`). The markup of a tree begins with the
first text or element that is written, so it begins with a start tag exactly if that is an element
(`beginsWithTag_render_iff`).
-/

namespace HtmlTemplate.Markup

/-! ## Names -/

/-- The quotes, and the signs with a meaning of their own in a start tag. -/
def tagSigns : List Char :=
  ['\"', '\'', '=', '>', '/']

/-- Whether a character can stand in no name. -/
def endsPlainName (c : Char) : Bool :=
  Text.isBlank c || tagSigns.contains c

/-- A name that ends only where a start tag says so. -/
structure IsPlainName (name : Text) : Prop where
  nonempty : name ≠ []
  plain : ∀ c ∈ name, endsPlainName c = false

/-- A name without blanks and signs is plain, unless it is empty. -/
theorem IsPlainName.of_not_mem {name : Text} (nonempty : name ≠ [])
    (visible : ∀ c ∈ name, Text.isBlank c = false) (apart : ∀ sign ∈ tagSigns, sign ∉ name) :
    IsPlainName name where
  nonempty := nonempty
  plain := by
    intro c member
    have other : c ∉ tagSigns := fun sign => apart c sign member
    simp [endsPlainName, visible c member, other]

/-- A valid name of an element is plain. -/
theorem IsPlainName.of_isTagName {name : Text} (valid : Resolve.isTagName name = true) :
    IsPlainName name := by
  have foreign : tagSigns.all (fun sign => !Text.isWordChar sign && sign ≠ '-') = true := by
    decide
  refine .of_not_mem (Resolve.of_isTagName valid).1 (Resolve.isBlank_of_mem_tagName valid) ?_
  intro sign among
  have apart := List.all_eq_true.mp foreign sign among
  simp only [Bool.and_eq_true, Bool.not_eq_true', decide_eq_true_eq] at apart
  exact Resolve.not_mem_of_isTagName sign valid apart.1 apart.2

/-- A valid name of an attribute is plain. -/
theorem IsPlainName.of_isAttributeName {name : Text} (valid : Resolve.isAttributeName name = true) :
    IsPlainName name := by
  have foreign : tagSigns.all (fun sign => !Resolve.continuesAttributeName sign) = true := by
    decide
  refine .of_not_mem (Resolve.isAttributeName_ne_nil valid) (fun c member => ?_) fun sign among =>
    Resolve.not_mem_of_isAttributeName sign valid
      (by simpa using List.all_eq_true.mp foreign sign among)
  exact Text.isBlank_of_forall (by decide)
    (Resolve.continuesAttributeName_of_mem valid c member)

/-- A text whose first character ends the name in front of it. -/
def StopsName (text : Text) : Prop :=
  ∃ c more, text = c :: more ∧ endsPlainName c = true

/-- It can be seen in a text where a name ends. -/
theorem IsPlainName.append_inj {name name' text text' : Text} (plain : IsPlainName name)
    (plain' : IsPlainName name') (stops : StopsName text) (stops' : StopsName text')
    (same : name ++ text = name' ++ text') : name = name' ∧ text = text' := by
  obtain ⟨c, more, rfl, stop⟩ := stops
  obtain ⟨c', more', rfl, stop'⟩ := stops'
  let keep (d : Char) : Bool := !endsPlainName d
  have ended : keep c = false := by simp [keep, stop]
  have ended' : keep c' = false := by simp [keep, stop']
  have kept : ∀ d ∈ name, keep d = true := fun d member => by simp [keep, plain.plain d member]
  have kept' : ∀ d ∈ name', keep d = true := fun d member => by simp [keep, plain'.plain d member]
  constructor
  · rw [← Text.takeWhile_append_cons kept ended more, same,
      Text.takeWhile_append_cons kept' ended' more']
  · rw [← Text.dropWhile_append_cons kept ended more, same,
      Text.dropWhile_append_cons kept' ended' more']

/-! ## Start tags by their keys -/

/-- What can stand behind the name of an attribute: nothing, or a value in double quotes. -/
inductive IsAssigned : Text → Prop where
  | none : IsAssigned []
  | quoted {value : Text} (inside : '\"' ∉ value) :
      IsAssigned ('=' :: '\"' :: (value ++ ['\"']))

/-- Attributes with some keys, as they stand in a start tag, each one behind a space. -/
inductive CarriesKeys : List Text → Text → Prop where
  | nil : CarriesKeys [] []
  | cons {key : Text} (plain : IsPlainName key) {assigned : Text} (valued : IsAssigned assigned)
      {keys : List Text} {text : Text} (others : CarriesKeys keys text) :
      CarriesKeys (key :: keys) (' ' :: (key ++ (assigned ++ text)))

/-- A text begins with the start tag of some name that has an attribute under each of some keys,
and no others. -/
structure IsStartTag (tag : Text) (keys : List Text) (text : Text) : Prop where
  plain : IsPlainName tag
  carries : ∃ written closing rest, CarriesKeys keys written ∧
    text = '<' :: (tag ++ (written ++ tagEnd closing rest))

/-- A text begins with a start tag that has an attribute under each of some keys. -/
def BeginsWithTag (keys : List Text) (text : Text) : Prop :=
  ∃ tag all, IsStartTag tag all text ∧ keys ⊆ all

/-- A text that ends an attribute in front of it: more attributes follow, or the tag ends. -/
def StopsAttribute (text : Text) : Prop :=
  ∃ c more, text = c :: more ∧ (c = ' ' ∨ c = '/' ∨ c = '>')

/-- The end of a tag stops an attribute. -/
theorem stopsAttribute_tagEnd (closing : Bool) (rest : Text) :
    StopsAttribute (tagEnd closing rest) := by
  cases closing with
  | false => exact ⟨'>', rest, rfl, .inr (.inr rfl)⟩
  | true => exact ⟨'/', '>' :: rest, rfl, .inr (.inl rfl)⟩

/-- What comes behind an attribute, up to the end of the tag, stops it. -/
theorem CarriesKeys.stopsAttribute {keys : List Text} {written : Text}
    (carries : CarriesKeys keys written) (closing : Bool) (rest : Text) :
    StopsAttribute (written ++ tagEnd closing rest) := by
  cases carries with
  | nil => exact stopsAttribute_tagEnd closing rest
  | cons _ _ _ => exact ⟨' ', _, rfl, .inl rfl⟩

/-- What stops an attribute stops its name. -/
theorem StopsAttribute.stopsName {text : Text} (stops : StopsAttribute text) : StopsName text := by
  obtain ⟨c, more, rfl, rfl | rfl | rfl⟩ := stops
  all_goals exact ⟨_, more, rfl, by decide⟩

/-- What stops an attribute is no value of it. -/
theorem StopsAttribute.ne_equals {text : Text} (stops : StopsAttribute text) (more : Text) :
    text ≠ '=' :: more := by
  obtain ⟨c, behind, rfl, rfl | rfl | rfl⟩ := stops
  all_goals simp

namespace IsAssigned

/-- A value stops the name in front of it, and so does what comes behind the attribute. -/
theorem stopsName {assigned text : Text} (valued : IsAssigned assigned)
    (stops : StopsAttribute text) : StopsName (assigned ++ text) := by
  cases valued with
  | none => exact stops.stopsName
  | quoted _ => exact ⟨'=', _, rfl, by decide⟩

/-- It can be seen in a text whether an attribute has a value, and where the value ends. -/
theorem append_inj {assigned assigned' text text' : Text} (valued : IsAssigned assigned)
    (valued' : IsAssigned assigned') (stops : StopsAttribute text) (stops' : StopsAttribute text')
    (same : assigned ++ text = assigned' ++ text') : text = text' := by
  cases valued with
  | none =>
    cases valued' with
    | none => exact same
    | quoted _ => exact absurd same (stops.ne_equals _)
  | @quoted value inside =>
    cases valued' with
    | none => exact absurd same.symm (stops'.ne_equals _)
    | @quoted value' inside' =>
      -- Both values end at the first quote.
      have values : value ++ '\"' :: text = value' ++ '\"' :: text' := by simpa using same
      have cut : Text.splitOnce '\"' (value ++ '\"' :: text) = some (value, text) :=
        Text.splitOnce_eq_some_iff.mpr ⟨rfl, inside⟩
      rw [values, Text.splitOnce_eq_some_iff.mpr ⟨rfl, inside'⟩] at cut
      exact (Prod.mk.inj (Option.some.inj cut)).2.symm

end IsAssigned

/-- The keys of some attributes can be seen in the text that they are written as. -/
theorem CarriesKeys.unique {keys keys' : List Text} {written written' : Text}
    (carries : CarriesKeys keys written) (carries' : CarriesKeys keys' written')
    {closing closing' : Bool} {rest rest' : Text}
    (same : written ++ tagEnd closing rest = written' ++ tagEnd closing' rest') : keys = keys' := by
  induction carries generalizing keys' written' with
  | nil =>
    cases carries' with
    | nil => rfl
    | cons _ _ _ => cases closing <;> exact absurd (List.cons.inj same).1 (by decide)
  | cons plain valued others inductionHypothesis =>
    cases carries' with
    | nil => cases closing' <;> exact absurd (List.cons.inj same).1 (by decide)
    | cons plain' valued' others' =>
      have stops := others.stopsAttribute closing rest
      have stops' := others'.stopsAttribute closing' rest'
      simp only [List.cons_append, List.append_assoc, List.cons.injEq, true_and] at same
      obtain ⟨rfl, behind⟩ :=
        plain.append_inj plain' (valued.stopsName stops) (valued'.stopsName stops') same
      rw [inductionHypothesis others' (valued.append_inj valued' stops stops' behind)]

namespace IsStartTag

/-- A text begins with one start tag at most. -/
theorem unique {tag tag' : Text} {keys keys' : List Text} {text : Text}
    (begins : IsStartTag tag keys text) (begins' : IsStartTag tag' keys' text) :
    tag = tag' ∧ keys = keys' := by
  obtain ⟨plain, written, closing, rest, carries, rfl⟩ := begins
  obtain ⟨plain', written', closing', rest', carries', same⟩ := begins'
  have stops := (carries.stopsAttribute closing rest).stopsName
  have stops' := (carries'.stopsAttribute closing' rest').stopsName
  obtain ⟨tags, behind⟩ := plain.append_inj plain' stops stops' (List.cons.inj same).2
  exact ⟨tags, carries.unique carries' behind⟩

/-- A text that is known to begin with a start tag carries the keys of that tag, and no others. -/
theorem beginsWithTag_iff {tag : Text} {all keys : List Text} {text : Text}
    (begins : IsStartTag tag all text) : BeginsWithTag keys text ↔ keys ⊆ all := by
  constructor
  · rintro ⟨tag', all', begins', held⟩
    rwa [(begins.unique begins').2]
  · intro held
    exact ⟨tag, all, begins, held⟩

end IsStartTag

/-! ## What is written first -/

mutual

/-- The text or the element that comes first in the markup of a child, unless there is no markup. -/
def Child.first? : Child → Option Child
  | .text content => if content.isEmpty then none else some (.text content)
  | .element tag attributes children =>
    if tag.isEmpty then firstOf? children else some (.element tag attributes children)

/-- The text or the element that comes first in the markup of some children. -/
def firstOf? : List Child → Option Child
  | [] => none
  | child :: rest => child.first?.or (firstOf? rest)

end

mutual

/-- The markup of a child begins with that of what is written first. -/
theorem Child.render_first? (child : Child) :
    (child.first? = none → child.render = []) ∧
      ∀ first, child.first? = some first → first.render <+: child.render := by
  cases child with
  | text content =>
    cases content <;> simp [Child.first?, Child.render]
  | element tag attributes children =>
    cases tag with
    | nil => exact renderChildren_firstOf? children
    | cons c tag => simp [Child.first?]

/-- Some children are written with their first one first, and without one they are written as
nothing. -/
theorem renderChildren_firstOf? (children : List Child) :
    (firstOf? children = none → renderChildren children = []) ∧
      ∀ first, firstOf? children = some first → first.render <+: renderChildren children := by
  cases children with
  | nil => simp [firstOf?, renderChildren]
  | cons child rest =>
    obtain ⟨nothing, begins⟩ := Child.render_first? child
    obtain ⟨nothingBehind, beginsBehind⟩ := renderChildren_firstOf? rest
    rw [firstOf?, renderChildren]
    cases found : child.first? with
    | none =>
      rw [nothing found]
      exact ⟨nothingBehind, beginsBehind⟩
    | some first =>
      refine ⟨by simp, ?_⟩
      rintro _ ⟨⟩
      exact (begins first found).trans (List.prefix_append _ _)

end

mutual

/-- Something is written first: a text that is not empty, or an element with a tag. -/
theorem Child.cases_of_first? (child : Child) {first : Child} (found : child.first? = some first) :
    (∃ content, content ≠ [] ∧ first = .text content) ∨
      ∃ tag attributes inside, tag ≠ [] ∧ first = .element tag attributes inside := by
  cases child with
  | text content =>
    cases content with
    | nil => cases found
    | cons c content =>
      cases found
      exact .inl ⟨c :: content, by simp, rfl⟩
  | element tag attributes children =>
    cases tag with
    | nil => exact cases_of_firstOf? children found
    | cons c tag =>
      cases found
      exact .inr ⟨c :: tag, attributes, children, by simp, rfl⟩

/-- What some children are written with first is a text or an element, and not an empty one. -/
theorem cases_of_firstOf? (children : List Child) {first : Child}
    (found : firstOf? children = some first) :
    (∃ content, content ≠ [] ∧ first = .text content) ∨
      ∃ tag attributes inside, tag ≠ [] ∧ first = .element tag attributes inside := by
  cases children with
  | nil => cases found
  | cons child rest =>
    rcases Option.or_eq_some_iff.mp found with here | ⟨_, behind⟩
    · exact Child.cases_of_first? child here
    · exact cases_of_firstOf? rest behind

end

/-- Names that a start tag can be written with: those of the tag and of its attributes are plain. -/
structure PlainNames (tag : Text) (attributes : Attributes) : Prop where
  tag : IsPlainName tag
  keys : ∀ key ∈ Dictionary.keys attributes, IsPlainName key

/-- Valid names can be written. -/
theorem PlainNames.of_valid {tag : Text} {attributes : Attributes}
    (valid : Resolve.isTagName tag = true)
    (keyed : ∀ entry ∈ attributes, Resolve.isAttributeName entry.1 = true) :
    PlainNames tag attributes where
  tag := .of_isTagName valid
  keys := by
    intro key member
    obtain ⟨entry, among, rfl⟩ := List.mem_map.mp member
    exact .of_isAttributeName (keyed entry among)

/-- Rendered attributes carry their keys. -/
theorem carriesKeys_renderAttributes {attributes : Attributes}
    (plain : ∀ key ∈ Dictionary.keys attributes, IsPlainName key) :
    CarriesKeys (Dictionary.keys attributes) (renderAttributes attributes) := by
  induction attributes with
  | nil => exact .nil
  | cons entry attributes inductionHypothesis =>
    obtain ⟨key, value⟩ := entry
    rw [Dictionary.keys_cons] at plain ⊢
    have others := inductionHypothesis fun other member => plain other (.tail key member)
    have first : renderAttributes ((key, value) :: attributes) =
        ' ' :: (renderAttribute key value ++ renderAttributes attributes) := rfl
    rw [first]
    cases valued : value.value? with
    | none =>
      rw [renderAttribute_of_none key valued]
      exact .cons (plain key (.head _)) .none others
    | some text =>
      have quoted := CarriesKeys.cons (plain key (.head _))
        (.quoted (not_mem_escape (by decide) text)) others
      rw [renderAttribute_of_some key valued]
      simpa using quoted

/-- The keys that a start tag carries are plain names. -/
theorem CarriesKeys.plain {keys : List Text} {text : Text} (carries : CarriesKeys keys text) :
    ∀ key ∈ keys, IsPlainName key := by
  induction carries with
  | nil => simp
  | cons plain _ _ inductionHypothesis => exact List.forall_mem_cons.mpr ⟨plain, inductionHypothesis⟩

/-- An element with a tag is written with its start tag first. -/
theorem exists_render_tagEnd {tag : Text} (named : tag ≠ []) (attributes : Attributes)
    (children : List Child) :
    ∃ closing rest, (Child.element tag attributes children).render =
      '<' :: (tag ++ (renderAttributes attributes ++ tagEnd closing rest)) := by
  have nonempty : tag.isEmpty = false := by simpa using named
  by_cases empty : children.isEmpty = true
  · refine ⟨true, [], ?_⟩
    simp [Child.render, renderElement, nonempty, empty, tagEnd]
  · refine ⟨false, renderChildren children ++ '<' :: '/' :: (tag ++ ['>']), ?_⟩
    simp [Child.render, renderElement, nonempty, empty, tagEnd]

namespace Child

/-- An element that is written first is written with a start tag of its own, unless its names are
none. -/
theorem isStartTag_render_iff {child : Child} {tag : Text} {attributes : Attributes}
    {inside : List Child} (first : child.first? = some (.element tag attributes inside)) :
    IsStartTag tag (Dictionary.keys attributes) child.render ↔ PlainNames tag attributes := by
  constructor
  · rintro ⟨named, written, closing, rest, carries, _⟩
    exact ⟨named, carries.plain⟩
  · rintro ⟨named, keyed⟩
    obtain ⟨more, begins⟩ := child.render_first?.2 _ first
    obtain ⟨closing, rest, rendered⟩ := exists_render_tagEnd named.nonempty attributes inside
    refine ⟨named, _, closing, rest ++ more, carriesKeys_renderAttributes keyed, ?_⟩
    rw [← begins, rendered]
    cases closing <;> simp [tagEnd]

/-- If no element is written first, there is no start tag at the beginning. -/
theorem not_beginsWithTag_render {child : Child}
    (none : ∀ tag attributes inside, child.first? ≠ some (.element tag attributes inside))
    (keys : List Text) : ¬ BeginsWithTag keys child.render := by
  rintro ⟨tag, all, ⟨_, written, closing, rest, _, rendered⟩, _⟩
  cases found : child.first? with
  | none =>
    rw [child.render_first?.1 found] at rendered
    cases rendered
  | some first =>
    obtain ⟨content, nonempty, rfl⟩ | ⟨tag, attributes, inside, _, rfl⟩ :=
      child.cases_of_first? found
    · obtain ⟨more, begins⟩ := child.render_first?.2 _ found
      rw [rendered, Child.render] at begins
      cases escaped : escape content with
      | nil => exact nonempty (escape_eq_nil_iff.mp escaped)
      | cons c behind =>
        rw [escaped] at begins
        obtain ⟨rfl, _⟩ := List.cons.inj begins
        have absent : '<' ∉ escape content := not_mem_escape (by decide) content
        exact absent (by simp [escaped])
    · exact none tag attributes inside found

end Child

/-- The names of the element that a child is written with first can be written, if there is such
an element. -/
def Child.PlainFirst (child : Child) : Prop :=
  ∀ tag attributes inside, child.first? = some (.element tag attributes inside) →
    PlainNames tag attributes

/-- What is written first of some children is an element that has an attribute under each of some
keys. -/
def FirstCarries (keys : List Text) (children : List Child) : Prop :=
  ∃ tag attributes inside, firstOf? children = some (.element tag attributes inside) ∧
    keys ⊆ Dictionary.keys attributes

/-- The markup of a child begins with a start tag exactly if an element is written first, and
carries exactly the keys of that element. -/
theorem Child.beginsWithTag_render_iff {child : Child} (plain : child.PlainFirst)
    (keys : List Text) : BeginsWithTag keys child.render ↔ FirstCarries keys [child] := by
  have alone : firstOf? [child] = child.first? := by simp [firstOf?]
  rw [FirstCarries, alone]
  constructor
  · intro begins
    by_contra other
    refine not_beginsWithTag_render (fun tag attributes inside found => other ?_) keys begins
    have start := (isStartTag_render_iff found).mpr (plain tag attributes inside found)
    exact ⟨tag, attributes, inside, found, start.beginsWithTag_iff.mp begins⟩
  · rintro ⟨tag, attributes, inside, found, held⟩
    have start := (isStartTag_render_iff found).mpr (plain tag attributes inside found)
    exact start.beginsWithTag_iff.mpr held

/-- A word in a value is no key of a tag. -/
example : ¬ BeginsWithTag [['k']] "<p title=\"a k b\"/>".toList := by
  let paragraph : Child := .element ['p'] [("title".toList, .text "a k b".toList)] []
  have found : paragraph.first? = some paragraph := rfl
  have plain : PlainNames ['p'] [("title".toList, .text "a k b".toList)] :=
    .of_valid (by decide) (by decide)
  have begins := (Child.isStartTag_render_iff found).mpr plain
  have markup : paragraph.render = "<p title=\"a k b\"/>".toList := by decide
  rw [← markup, begins.beginsWithTag_iff]
  decide

end HtmlTemplate.Markup
