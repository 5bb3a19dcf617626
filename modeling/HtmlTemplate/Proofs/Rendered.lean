import HtmlTemplate.Markup.Render
import HtmlTemplate.Proofs.Names
import HtmlTemplate.Proofs.Numerals
import HtmlTemplate.Proofs.Readings
import Mathlib.Data.List.TakeWhile

/-!
# Rendered tags are read back

A start tag that an element with valid names is rendered with is read as the token with
the same name and attributes, and so is its end tag. Names come back in small letters.
-/

namespace HtmlTemplate.Markup

open Resolve (isTagName isAttributeName)

/-! ## Attributes -/

/-- Some declarations as a text: `property: value` for each, with semicolons between them. -/
def declarationText (properties : Dictionary Text) : Text :=
  List.intercalate "; ".toList (properties.map fun entry => entry.1 ++ ": ".toList ++ entry.2)

/-- Declarations are joined as the property and the value of each, with semicolons between them. -/
theorem joinDeclarations_eq (properties : Dictionary Text) :
    joinDeclarations properties = declarationText properties := by
  rw [joinDeclarations, Text.join_eq_intercalate, declarationText]
  congr 1
  exact List.map_congr_left fun entry _ => by simp

/-- The value of an attribute as the text that stands for it; a flag has none. -/
def Attribute.value? : Attribute → Option Text
  | .flag _ => none
  | .number n => some (Decimal.integer n)
  | .text value => some value
  | .declarations properties => some (declarationText properties)

/-- A text without special characters is escaped as it stands. -/
theorem escape_eq_self {text : Text} (plain : ∀ c ∈ text, escapeChar c = [c]) :
    escape text = text := by
  induction text with
  | nil => rfl
  | cons c rest inductionHypothesis =>
    rw [escape_cons, plain c (by simp),
      inductionHypothesis fun d member => plain d (List.mem_cons_of_mem c member)]
    rfl

/-- A character without a meaning in markup is written as it is. -/
theorem escapeChar_of_not_mem {c : Char} (plain : c ∉ ['&', '<', '>', '\"', '\'']) :
    escapeChar c = [c] := by
  simp only [List.mem_cons, List.not_mem_nil, or_false, not_or] at plain
  simp [escapeChar, plain]

/-- The decimal text of a number needs no escaping. -/
theorem escape_integer (n : Int) : escape (Decimal.integer n) = Decimal.integer n := by
  apply escape_eq_self
  intro c member
  apply escapeChar_of_not_mem
  intro special
  have foreign : ['&', '<', '>', '\"', '\''].all
      (fun mark => !Text.isAsciiDigit mark && mark ≠ '-') = true := by decide
  have apart := List.all_eq_true.mp foreign c special
  simp only [Bool.and_eq_true, Bool.not_eq_true', decide_eq_true_eq] at apart
  rcases Decimal.mem_integer n c member with digit | hyphen
  · rw [apart.1] at digit
    cases digit
  · exact apart.2 hyphen

/-- An attribute without a value is written as its name. -/
theorem renderAttribute_of_none {value : Attribute} (key : Text) (flag : value.value? = none) :
    renderAttribute key value = key := by
  cases value <;> first | rfl | cases flag

/-- An attribute with a value is written with the value escaped between quotes. -/
theorem renderAttribute_of_some {value : Attribute} {text : Text} (key : Text)
    (valued : value.value? = some text) :
    renderAttribute key value = key ++ '=' :: '\"' :: (escape text ++ ['\"']) := by
  cases value with
  | flag _ => cases valued
  | number n =>
    cases valued
    simp [renderAttribute, escape_integer]
  | text value =>
    cases valued
    simp [renderAttribute]
  | declarations properties =>
    cases valued
    simp [renderAttribute, joinDeclarations_eq]

/-- The attributes as they are read from a start tag. -/
def writtenAttributes (attributes : Attributes) : List WrittenAttribute :=
  attributes.map fun (key, value) => (Text.lowercase key, value.value?)

/-- No blanks are skipped in front of something else. -/
theorem skipBlanks_of_not_isBlank {c : Char} (visible : Text.isBlank c = false) (rest : Text) :
    skipBlanks (c :: rest) = c :: rest := by
  simp [skipBlanks, visible]

/-- A space is skipped. -/
theorem skipBlanks_space (text : Text) : skipBlanks (' ' :: text) = skipBlanks text := by
  have blank : Text.isBlank ' ' = true := by decide
  simp [skipBlanks, blank]

/-- A name of an attribute is read up to the first character that ends it. -/
theorem takeAttributeName_stop {name rest : Text} {c : Char} (nonempty : name ≠ [])
    (kept : ∀ d ∈ name, isAttributeNameChar d = true) (stop : isAttributeNameChar c = false) :
    takeAttributeName (name ++ c :: rest) = (name, c :: rest) := by
  cases name with
  | nil => exact absurd rfl nonempty
  | cons first name =>
    have equals : first ≠ '=' := by
      rintro rfl
      exact absurd (kept '=' (by simp)) (by decide)
    rw [List.cons_append, takeAttributeName, if_neg equals, ← List.cons_append,
      Text.takeWhile_append_cons kept stop, Text.dropWhile_append_cons kept stop]

/-- A valid name is taken whole, up to what cannot belong to it. -/
theorem takeAttributeName_name {name rest : Text} {c : Char}
    (valid : isAttributeName name = true) (stop : isAttributeNameChar c = false) :
    takeAttributeName (name ++ c :: rest) = (name, c :: rest) :=
  takeAttributeName_stop (Resolve.isAttributeName_ne_nil valid)
    (Resolve.isAttributeNameChar_of_mem valid) stop

/-- A flag is read from its bare name, unless an equals sign comes next. -/
theorem readAttribute?_flag {name more tail : Text} {c d : Char}
    (valid : isAttributeName name = true) (stop : isAttributeNameChar c = false)
    (next : skipBlanks (c :: more) = d :: tail) (equals : d ≠ '=') :
    readAttribute? (name ++ c :: more) = some ((Text.lowercase name, none), c :: more) := by
  simp only [readAttribute?, takeAttributeName_name valid stop, next]
  rw [if_neg equals]

/-- A value in double quotes is read up to the second quote. -/
theorem readAttribute?_quoted {name value : Text} (valid : isAttributeName name = true)
    (inside : '\"' ∉ value) (more : Text) :
    readAttribute? (name ++ '=' :: '\"' :: (value ++ '\"' :: more)) =
      some ((Text.lowercase name, some (decodeReferences value)), more) := by
  have equals : skipBlanks ('=' :: '\"' :: (value ++ '\"' :: more)) =
      '=' :: '\"' :: (value ++ '\"' :: more) := skipBlanks_of_not_isBlank (by decide) _
  have quote : skipBlanks ('\"' :: (value ++ '\"' :: more)) =
      '\"' :: (value ++ '\"' :: more) := skipBlanks_of_not_isBlank (by decide) _
  have split : Text.splitOnce '\"' (value ++ '\"' :: more) = some (value, more) :=
    Text.splitOnce_eq_some_iff.mpr ⟨rfl, inside⟩
  simp only [readAttribute?, takeAttributeName_name valid (c := '=') (by decide), equals, quote,
    takeAttributeValue?, split]
  simp

/-! ## Start tags -/

/-- The end of a start tag, which closes itself or not, with the text behind it. -/
def tagEnd (closing : Bool) (rest : Text) : Text :=
  if closing then '/' :: '>' :: rest else '>' :: rest

/-- The end of a tag is read as its end. -/
theorem attributeStep?_tagEnd (closing : Bool) (rest : Text) :
    attributeStep? (tagEnd closing rest) = some (.ended closing rest) := by
  cases closing with
  | false => exact attributeStep?_greater (skipBlanks_of_not_isBlank (by decide) rest)
  | true => exact attributeStep?_closing (skipBlanks_of_not_isBlank (by decide) _)

/-- Whether a text ends the name in front of it in a start tag, and does not go on with an
equals sign. -/
def EndsName (text : Text) : Prop :=
  ∃ c more, text = c :: more ∧ isAttributeNameChar c = false ∧ isTagNameChar c = false ∧
    ∃ d tail, skipBlanks text = d :: tail ∧ d ≠ '='

/-- The first character of a rendered attribute begins its name. -/
theorem exists_renderAttribute {key : Text} (valid : isAttributeName key = true)
    (value : Attribute) :
    ∃ c text, renderAttribute key value = c :: text ∧ isAttributeNameChar c = true := by
  have kept := Resolve.isAttributeNameChar_of_mem valid
  cases key with
  | nil => cases valid
  | cons first key =>
    cases valued : value.value? with
    | none => exact ⟨first, key, renderAttribute_of_none _ valued, kept first (by simp)⟩
    | some text => exact ⟨first, _, renderAttribute_of_some _ valued, kept first (by simp)⟩

/-- What an attribute name is made of is visible and ends no tag. -/
theorem of_isAttributeNameChar {c : Char} (named : isAttributeNameChar c = true) :
    Text.isBlank c = false ∧ c ≠ '=' ∧ c ≠ '>' ∧ c ≠ '/' := by
  simpa [isAttributeNameChar, and_assoc] using named

/-- The end of a tag ends a name. -/
theorem endsName_tagEnd (closing : Bool) (rest : Text) : EndsName (tagEnd closing rest) := by
  cases closing with
  | false =>
    exact ⟨'>', rest, rfl, by decide, by decide, '>', rest,
      skipBlanks_of_not_isBlank (by decide) rest, by decide⟩
  | true =>
    exact ⟨'/', '>' :: rest, rfl, by decide, by decide, '/', '>' :: rest,
      skipBlanks_of_not_isBlank (by decide) _, by decide⟩

/-- What is written behind the name of a tag ends it. -/
theorem endsName_renderAttributes {attributes : Attributes}
    (valid : ∀ entry ∈ attributes, isAttributeName entry.1 = true) (closing : Bool)
    (rest : Text) : EndsName (renderAttributes attributes ++ tagEnd closing rest) := by
  cases attributes with
  | nil => exact endsName_tagEnd closing rest
  | cons entry attributes =>
    obtain ⟨c, text, begins, named⟩ := exists_renderAttribute (valid entry (by simp)) entry.2
    obtain ⟨visible, equals, _, _⟩ := of_isAttributeNameChar named
    let more := text ++ (renderAttributes attributes ++ tagEnd closing rest)
    have rendered : renderAttributes (entry :: attributes) ++ tagEnd closing rest =
        ' ' :: c :: more := by
      simp [renderAttributes, begins, more]
    rw [rendered]
    refine ⟨' ', c :: more, rfl, by decide, by decide, c, more, ?_, equals⟩
    rw [skipBlanks_space, skipBlanks_of_not_isBlank visible]

/-- A rendered attribute is read as its name in small letters and its value. -/
theorem readAttribute?_renderAttribute {key more : Text} (valid : isAttributeName key = true)
    (value : Attribute) (behind : EndsName more) :
    readAttribute? (renderAttribute key value ++ more) =
      some ((Text.lowercase key, value.value?), more) := by
  cases valued : value.value? with
  | none =>
    obtain ⟨c, tail, rfl, stop, _, d, further, next, equals⟩ := behind
    rw [renderAttribute_of_none key valued]
    exact readAttribute?_flag valid stop next equals
  | some text =>
    have quoted := readAttribute?_quoted valid (not_mem_escape (by decide) text) more
    rw [decodeReferences_escape] at quoted
    rw [renderAttribute_of_some key valued]
    simpa using quoted

/-- The attributes of a rendered start tag are read back. -/
theorem readAttributes?_renderAttributes {attributes : Attributes}
    (valid : ∀ entry ∈ attributes, isAttributeName entry.1 = true) (closing : Bool)
    (rest : Text) :
    readAttributes? (renderAttributes attributes ++ tagEnd closing rest) =
      some (writtenAttributes attributes, closing, rest) := by
  induction attributes with
  | nil => exact readAttributes?_ended (attributeStep?_tagEnd closing rest)
  | cons entry attributes inductionHypothesis =>
    obtain ⟨key, value⟩ := entry
    have validKey : isAttributeName key = true := valid (key, value) (by simp)
    have validRest : ∀ entry ∈ attributes, isAttributeName entry.1 = true :=
      fun entry member => valid entry (List.mem_cons_of_mem _ member)
    let more := renderAttributes attributes ++ tagEnd closing rest
    obtain ⟨c, text, begins, named⟩ := exists_renderAttribute validKey value
    obtain ⟨visible, _, greater, slash⟩ := of_isAttributeNameChar named
    have rendered : renderAttributes ((key, value) :: attributes) ++ tagEnd closing rest =
        ' ' :: (renderAttribute key value ++ more) := by
      simp [renderAttributes, more]
    have read := readAttribute?_renderAttribute validKey value
      (endsName_renderAttributes validRest closing rest)
    have step : attributeStep? (' ' :: (renderAttribute key value ++ more)) =
        some (.attribute (Text.lowercase key, value.value?) more) := by
      have skipped : skipBlanks (' ' :: (renderAttribute key value ++ more)) =
          c :: (text ++ more) := by
        rw [begins, List.cons_append, skipBlanks_space, skipBlanks_of_not_isBlank visible]
      rw [begins, List.cons_append] at read
      rw [attributeStep?_attribute skipped greater slash, read]
      rfl
    rw [rendered, readAttributes?_attribute step, inductionHypothesis validRest]
    rfl

/-- A rendered start tag is read back. -/
theorem readStartTag_render {tag : Text} {attributes : Attributes}
    (validTag : isTagName tag = true)
    (valid : ∀ entry ∈ attributes, isAttributeName entry.1 = true) (closing : Bool)
    (rest : Text) :
    readStartTag (tag ++ (renderAttributes attributes ++ tagEnd closing rest)) =
      .token (.startTag (Text.lowercase tag) (writtenAttributes attributes) closing) rest := by
  have kept := Resolve.isTagNameChar_of_mem validTag
  obtain ⟨c, more, behind, _, stop, _⟩ := endsName_renderAttributes valid closing rest
  have read := readAttributes?_renderAttributes valid closing rest
  rw [behind] at read ⊢
  simp only [readStartTag, Text.dropWhile_append_cons kept stop,
    Text.takeWhile_append_cons kept stop, read]

/-! ## End tags -/

/-- Whether a text begins with a letter, as the names do that markup is read with. -/
def beginsWithLetter (text : Text) : Bool :=
  (text.head?.map Text.isAsciiLetter).getD false

/-- A rendered end tag is read back if its name begins with a letter, and dropped if it does
not. -/
theorem readEndTag_render {tag : Text} (valid : isTagName tag = true) (rest : Text) :
    readEndTag (tag ++ '>' :: rest) =
      if beginsWithLetter tag then .token (.endTag (Text.lowercase tag)) rest
      else .nothing rest := by
  have sign := Resolve.not_mem_sign_of_isTagName valid
  have visible := Resolve.isBlank_of_mem_tagName valid
  have named : ∀ behind, tag ++ '>' :: rest ≠ '/' :: '>' :: behind := by
    intro behind same
    cases tag with
    | nil => cases valid
    | cons c tag =>
      obtain ⟨rfl, _⟩ := List.cons.inj same
      exact sign '/' (by decide) (by simp)
  have split : Text.splitOnce '>' (tag ++ '>' :: rest) = some (tag, rest) :=
    Text.splitOnce_eq_some_iff.mpr ⟨rfl, sign '>' (by decide)⟩
  have whole : tag.takeWhile isEndTagNameChar = tag := by
    rw [List.takeWhile_eq_self_iff]
    intro c member
    have slash : c ≠ '/' := fun same => sign '/' (by decide) (same ▸ member)
    simp [isEndTagNameChar, visible c member, slash]
  rw [readEndTag_of_ne named, split]
  simp only [Text.trim_eq_self visible, whole]
  rfl

end HtmlTemplate.Markup
