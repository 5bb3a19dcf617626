import HtmlTemplate.Proofs.Parts
import HtmlTemplate.Proofs.Rendered

/-!
# Start tags in all their forms

How a start tag can be written: attributes with and without a value, values with either quotes
or none, blanks wherever they may stand. A tag in any of these forms is read as what it was
written for, and what stands behind it is read on its own (`feed_startTag`). The conditions on
names and values are part of the forms, so there is no form that is written wrongly.
-/

namespace HtmlTemplate.Markup

/-! ## Forms -/

/-- Some blanks, or none. -/
abbrev Blanks :=
  {text : Text // ∀ c ∈ text, Text.isBlank c = true}

/-- No blanks. -/
def Blanks.none : Blanks :=
  ⟨[], by simp⟩

/-- One space. -/
def Blanks.one : Blanks :=
  ⟨[' '], List.forall_iff_forall_mem.mp (by decide)⟩

theorem Blanks.one_ne_nil : Blanks.one.val ≠ [] := by
  decide

/-- The name of an attribute in a start tag. -/
structure NameForm where
  text : Text
  nonempty : text ≠ []
  plain : ∀ c ∈ text, Text.isBlank c = false ∧ c ≠ '=' ∧ c ≠ '>' ∧ c ≠ '/'

/-- The value of an attribute in a start tag. -/
inductive ValueForm where
  | doubleQuoted (value : Text) (inside : '\"' ∉ value)
  | singleQuoted (value : Text) (inside : '\'' ∉ value)
  | unquoted (value : Text) (nonempty : value ≠ [])
      (plain : ∀ c ∈ value, Text.isBlank c = false ∧ c ≠ '>')
      (begins : value.head nonempty ≠ '\"' ∧ value.head nonempty ≠ '\'')

/-- The value as it is meant, without its quotes. -/
def ValueForm.value : ValueForm → Text
  | .doubleQuoted value _ => value
  | .singleQuoted value _ => value
  | .unquoted value _ _ _ => value

/-- The value as it is written, with its quotes. -/
def ValueForm.spelled : ValueForm → Text
  | .doubleQuoted value _ => '\"' :: (value ++ ['\"'])
  | .singleQuoted value _ => '\'' :: (value ++ ['\''])
  | .unquoted value _ _ _ => value

/-- What stands behind the name of an attribute that has a value. -/
structure AssignedForm where
  /-- The blanks in front of the equals sign. -/
  before : Blanks
  /-- The blanks behind the equals sign. -/
  behind : Blanks
  value : ValueForm

def AssignedForm.spelled (form : AssignedForm) : Text :=
  form.before.val ++ '=' :: (form.behind.val ++ form.value.spelled)

/-- An attribute in a start tag, with the blanks in front of it. -/
structure AttributeForm where
  front : Blanks
  separated : front.val ≠ []
  name : NameForm
  /-- The value, unless the attribute is a bare name. -/
  assigned? : Option AssignedForm

def AttributeForm.spelled (form : AttributeForm) : Text :=
  form.front.val ++ (form.name.text ++ (form.assigned?.map AssignedForm.spelled).getD [])

/-- What an attribute is written for. -/
def AttributeForm.written (form : AttributeForm) : WrittenAttribute :=
  (Text.lowercase form.name.text,
    form.assigned?.map fun assigned => decodeReferences assigned.value.value)

/-- A start tag. -/
structure StartTagForm where
  /-- The first character of the tag's name. -/
  letter : Char
  isLetter : Text.isAsciiLetter letter = true
  /-- The rest of the tag's name. -/
  more : Text
  plain : ∀ c ∈ letter :: more, Text.isBlank c = false ∧ c ≠ '/' ∧ c ≠ '>'
  attributes : List AttributeForm
  /-- The blanks in front of the end of the tag. -/
  behind : Blanks
  /-- Whether the tag closes itself. -/
  closing : Bool
  separated : closing = true → behind.val ≠ []

namespace StartTagForm

/-- Some attributes and the end of a tag, with the text behind it. -/
def ending (form : StartTagForm) (attributes : List AttributeForm) (rest : Text) : Text :=
  attributes.flatMap AttributeForm.spelled ++ (form.behind.val ++ tagEnd form.closing rest)

/-- A tag behind its less-than sign, with the text behind it. -/
def inside (form : StartTagForm) (rest : Text) : Text :=
  form.letter :: form.more ++ form.ending form.attributes rest

def spelled (form : StartTagForm) : Text :=
  '<' :: form.inside []

/-- What a tag is written for. -/
def token (form : StartTagForm) : Token :=
  .startTag (Text.lowercase (form.letter :: form.more))
    (form.attributes.map AttributeForm.written) form.closing

theorem inside_append (form : StartTagForm) (rest : Text) :
    form.inside rest = form.inside [] ++ rest := by
  cases closed : form.closing <;> simp [inside, ending, tagEnd, closed]

end StartTagForm

/-! ## Values -/

theorem skipBlanks_blanks (blanks : Blanks) (text : Text) :
    skipBlanks (blanks.val ++ text) = skipBlanks text :=
  List.dropWhile_append_of_pos blanks.property

/-- Whether a text ends the attribute in front of it, its value without quotes included, and
does not go on with an equals sign. -/
structure EndsAttribute (text : Text) : Prop where
  stops : ∃ c more, text = c :: more ∧ isBareValueChar c = false
  unassigned : ∃ d tail, skipBlanks text = d :: tail ∧ d ≠ '='

theorem isBareValueChar_of_isBlank {c : Char} (blank : Text.isBlank c = true) :
    isBareValueChar c = false := by
  simp [isBareValueChar, blank]

/-- What ends a value without quotes ends a name as well. -/
theorem isAttributeNameChar_of_isBareValueChar {c : Char} (stop : isBareValueChar c = false) :
    isAttributeNameChar c = false := by
  simp only [isBareValueChar, isAttributeNameChar, ne_eq, decide_not, Bool.and_eq_false_iff,
    Bool.not_eq_false', decide_eq_true_eq] at stop ⊢
  rcases stop with blank | greater
  · exact .inl (.inl (.inl blank))
  · exact .inl (.inr greater)

theorem isTagNameChar_of_isBareValueChar {c : Char} (stop : isBareValueChar c = false) :
    isTagNameChar c = false := by
  simp only [isBareValueChar, isTagNameChar, ne_eq, decide_not, Bool.and_eq_false_iff,
    Bool.not_eq_false', decide_eq_true_eq] at stop ⊢
  exact stop.imp_left .inl

namespace ValueForm

/-- A value does not begin with a blank. -/
theorem skipBlanks_spelled (form : ValueForm) (rest : Text) :
    skipBlanks (form.spelled ++ rest) = form.spelled ++ rest := by
  cases form with
  | doubleQuoted value _ => exact skipBlanks_of_not_isBlank (by decide) _
  | singleQuoted value _ => exact skipBlanks_of_not_isBlank (by decide) _
  | unquoted value nonempty plain _ =>
    cases value with
    | nil => exact absurd rfl nonempty
    | cons c value => exact skipBlanks_of_not_isBlank (plain c (by simp)).1 _

theorem takeAttributeValue?_spelled (form : ValueForm) {rest : Text}
    (behind : EndsAttribute rest) :
    takeAttributeValue? (form.spelled ++ rest) = some (form.value, rest) := by
  have upTo (quote : Char) {value : Text} (inside : quote ∉ value) :
      Text.splitOnce quote (value ++ [quote] ++ rest) = some (value, rest) :=
    Text.splitOnce_eq_some_iff.mpr ⟨by simp, inside⟩
  cases form with
  | doubleQuoted value inside =>
    simpa [takeAttributeValue?, spelled, ValueForm.value] using upTo '\"' inside
  | singleQuoted value inside =>
    simpa [takeAttributeValue?, spelled, ValueForm.value] using upTo '\'' inside
  | unquoted value nonempty plain begins =>
    obtain ⟨d, more, rfl, stop⟩ := behind.stops
    have kept : ∀ c ∈ value, isBareValueChar c = true := by
      intro c member
      simp [isBareValueChar, plain c member]
    have taken := Text.takeWhile_append_cons kept stop more
    have left := Text.dropWhile_append_cons kept stop more
    cases value with
    | nil => exact absurd rfl nonempty
    | cons c value =>
      have unquoted : ¬ (c = '\"' ∨ c = '\'') := not_or.mpr begins
      rw [List.cons_append] at taken left
      simp only [spelled, List.cons_append, takeAttributeValue?, if_neg unquoted, taken, left,
        ValueForm.value]

end ValueForm

/-! ## Attributes -/

/-- A name is followed by its value, or else by what ends the attribute. -/
theorem NameForm.takeAttributeName_text (name : NameForm) {c : Char}
    (stop : isAttributeNameChar c = false) (rest : Text) :
    takeAttributeName (name.text ++ c :: rest) = (name.text, c :: rest) := by
  refine takeAttributeName_stop name.nonempty (fun d member => ?_) stop
  simp [isAttributeNameChar, name.plain d member]

/-- In front of an equals sign stand blanks, and neither stands in a name. -/
theorem AssignedForm.stops (form : AssignedForm) (rest : Text) :
    ∃ c more, form.spelled ++ rest = c :: more ∧ isAttributeNameChar c = false := by
  obtain ⟨⟨before, blank⟩, behind, value⟩ := form
  cases before with
  | nil => exact ⟨'=', _, rfl, by decide⟩
  | cons c before =>
    refine ⟨c, _, rfl, isAttributeNameChar_of_isBareValueChar ?_⟩
    exact isBareValueChar_of_isBlank (blank c (by simp))

namespace AttributeForm

/-- Behind the blanks of an attribute stands its name. -/
theorem exists_skipBlanks (form : AttributeForm) (rest : Text) :
    ∃ c more, skipBlanks (form.spelled ++ rest) = c :: more ∧
      c :: more = form.name.text ++ ((form.assigned?.map AssignedForm.spelled).getD [] ++ rest) ∧
      c ≠ '=' ∧ c ≠ '>' ∧ c ≠ '/' := by
  rw [spelled, List.append_assoc, skipBlanks_blanks, List.append_assoc]
  obtain ⟨name, nonempty, plain⟩ := form.name
  cases name with
  | nil => exact absurd rfl nonempty
  | cons c name =>
    obtain ⟨visible, others⟩ := plain c (by simp)
    exact ⟨c, _, skipBlanks_of_not_isBlank visible _, rfl, others⟩

theorem readAttribute?_spelled (form : AttributeForm) {rest : Text}
    (behind : EndsAttribute rest) :
    readAttribute? (form.name.text ++
      ((form.assigned?.map AssignedForm.spelled).getD [] ++ rest)) =
      some (form.written, rest) := by
  cases assigned : form.assigned? with
  | none =>
    obtain ⟨c, more, rfl, stop⟩ := behind.stops
    obtain ⟨d, tail, skipped, other⟩ := behind.unassigned
    have named := form.name.takeAttributeName_text
      (isAttributeNameChar_of_isBareValueChar stop) more
    simp [readAttribute?, named, skipped, other, written, assigned]
  | some value =>
    obtain ⟨c, more, begins, stop⟩ := value.stops rest
    have named := form.name.takeAttributeName_text stop more
    have equals : skipBlanks (value.spelled ++ rest) =
        '=' :: (value.behind.val ++ (value.value.spelled ++ rest)) := by
      rw [AssignedForm.spelled, List.append_assoc, skipBlanks_blanks]
      simpa using skipBlanks_of_not_isBlank (c := '=') (by decide) _
    have valued : takeAttributeValue?
        (skipBlanks (value.behind.val ++ (value.value.spelled ++ rest))) =
          some (value.value.value, rest) := by
      rw [skipBlanks_blanks, value.value.skipBlanks_spelled,
        value.value.takeAttributeValue?_spelled behind]
    rw [← begins] at named
    simp [readAttribute?, named, equals, valued, written, assigned]

/-- One step through the attributes of a tag takes one attribute with the blanks in front of
it, and nothing of what stands behind. -/
theorem attributeStep?_spelled (form : AttributeForm) {rest : Text}
    (behind : EndsAttribute rest) :
    attributeStep? (form.spelled ++ rest) = some (.attribute form.written rest) := by
  obtain ⟨c, more, skipped, whole, _, greater, slash⟩ := form.exists_skipBlanks rest
  rw [attributeStep?_attribute skipped greater slash, whole, form.readAttribute?_spelled behind]
  rfl

/-- An attribute ends the one in front of it, by the blanks between them. -/
theorem endsAttribute_spelled (form : AttributeForm) (rest : Text) :
    EndsAttribute (form.spelled ++ rest) where
  stops := by
    obtain ⟨⟨front, blank⟩, separated, name, assigned⟩ := form
    cases front with
    | nil => exact absurd rfl separated
    | cons c front => exact ⟨c, _, rfl, isBareValueChar_of_isBlank (blank c (by simp))⟩
  unassigned := by
    obtain ⟨c, more, skipped, _, other, _⟩ := form.exists_skipBlanks rest
    exact ⟨c, more, skipped, other⟩

end AttributeForm

/-! ## Start tags -/

namespace StartTagForm

/-- Behind the last attribute of a tag stands its end. -/
theorem endsAttribute_tagEnd (form : StartTagForm) (rest : Text) :
    EndsAttribute (form.behind.val ++ tagEnd form.closing rest) where
  stops := by
    obtain ⟨_, _, _, _, _, ⟨behind, blank⟩, closing, separated⟩ := form
    cases behind with
    | cons c behind => exact ⟨c, _, rfl, isBareValueChar_of_isBlank (blank c (by simp))⟩
    | nil =>
      cases closing with
      | false => exact ⟨'>', rest, rfl, by decide⟩
      | true => exact absurd rfl (separated rfl)
  unassigned := by
    obtain ⟨_, _, _, _, _, d, tail, skipped, other⟩ := endsName_tagEnd form.closing rest
    exact ⟨d, tail, by rw [skipBlanks_blanks, skipped], other⟩

theorem endsAttribute_ending (form : StartTagForm) (attributes : List AttributeForm)
    (rest : Text) : EndsAttribute (form.ending attributes rest) := by
  cases attributes with
  | nil => exact form.endsAttribute_tagEnd rest
  | cons first others =>
    rw [ending, List.flatMap_cons, List.append_assoc]
    exact first.endsAttribute_spelled _

theorem readAttributes?_ending (form : StartTagForm) (attributes : List AttributeForm)
    (rest : Text) :
    readAttributes? (form.ending attributes rest) =
      some (attributes.map AttributeForm.written, form.closing, rest) := by
  induction attributes with
  | nil =>
    have step := attributeStep?_tagEnd form.closing rest
    refine readAttributes?_ended ?_
    simp only [ending, List.flatMap_nil, List.nil_append, attributeStep?, skipBlanks_blanks]
      at step ⊢
    exact step
  | cons first others inductionHypothesis =>
    have step := first.attributeStep?_spelled (form.endsAttribute_ending others rest)
    have whole : form.ending (first :: others) rest =
        first.spelled ++ form.ending others rest := by
      simp [ending]
    rw [whole, readAttributes?_attribute step, inductionHypothesis]
    rfl

/-- Behind the less-than sign, a start tag in any form is read as what it was written for, up
to its greater-than sign. -/
theorem readMarkup_inside (form : StartTagForm) (rest : Text) :
    readMarkup (form.inside rest) = .token form.token rest := by
  have kept : ∀ c ∈ form.letter :: form.more, isTagNameChar c = true := by
    intro c member
    simp [isTagNameChar, form.plain c member]
  obtain ⟨c, more, begins, stop⟩ := (form.endsAttribute_ending form.attributes rest).stops
  have stop := isTagNameChar_of_isBareValueChar stop
  have read := form.readAttributes?_ending form.attributes rest
  have name : (form.inside rest).takeWhile isTagNameChar = form.letter :: form.more := by
    rw [inside, begins, Text.takeWhile_append_cons kept stop]
  have left : (form.inside rest).dropWhile isTagNameChar =
      form.ending form.attributes rest := by
    rw [inside, begins, Text.dropWhile_append_cons kept stop]
  have letter : readMarkup (form.inside rest) = readStartTag (form.inside rest) :=
    readMarkup_letter form.isLetter _
  rw [letter]
  simp only [readStartTag, left, name, read]
  rfl

/-- A start tag that has not ended waits, wherever it is cut off. -/
theorem readMarkup_waits (form : StartTagForm) {front behind : Text}
    (parts : form.inside [] = front ++ behind) (more : behind ≠ []) :
    readMarkup front = .incomplete := by
  by_contra complete
  have extended := readMarkup_append complete behind
  rw [← parts, form.readMarkup_inside] at extended
  cases read : readMarkup front with
  | token token left =>
    simp only [read, Reading.extend, Reading.token.injEq] at extended
    exact more (List.append_eq_nil_iff.mp extended.2.symm).2
  | nothing left => simp [read, Reading.extend] at extended
  | literal => simp [read, Reading.extend] at extended
  | incomplete => exact complete read

/-- What a tokenizer goes on with behind a tag: all that can be left of it is that the text of
its element is taken as it stands. -/
def tokenizerBehind (form : StartTagForm) : Tokenizer :=
  { rawElement := rawElementAfter form.token }

/-- A start tag gives its token, and what stands behind is read on its own. -/
theorem scan_spelled (form : StartTagForm) (rest : Text) :
    scan false none (form.spelled ++ rest) =
      (form.token :: (form.tokenizerBehind.feed rest).1, (form.tokenizerBehind.feed rest).2) := by
  have step := scanStep_token (form.readMarkup_inside rest) false
  have whole : form.spelled ++ rest = '<' :: form.inside rest := by
    rw [spelled, List.cons_append, ← form.inside_append]
  rw [whole, scan_of_forward step]
  rfl

/-- A part of a start tag gives no token, and all of it waits. -/
theorem scan_waits (form : StartTagForm) {front behind : Text}
    (parts : form.spelled = front ++ behind) (more : behind ≠ []) :
    scan false none front = ([], { pending := front }) := by
  cases front with
  | nil => exact scan_nil false none
  | cons c front =>
    obtain ⟨rfl, inside⟩ := List.cons.inj parts
    exact scan_of_stop (scanStep_waiting (form.readMarkup_waits inside more))

end StartTagForm

/-- A start tag is read back exactly as it is written, in all its forms. Its token comes first,
what stands behind its greater-than sign is read on its own, and a part of the tag that does
not reach up to that sign gives no token yet. -/
theorem feed_startTag (form : StartTagForm) :
    (∀ rest, ({} : Tokenizer).feed (form.spelled ++ rest) =
      (form.token :: (form.tokenizerBehind.feed rest).1, (form.tokenizerBehind.feed rest).2)) ∧
    ∀ front behind, form.spelled = front ++ behind → behind ≠ [] →
      ({} : Tokenizer).feed front = ([], { pending := front }) :=
  ⟨form.scan_spelled, fun _ _ parts more => form.scan_waits parts more⟩

/-- A tag with an attribute in each form: `<Img Src = 'a>"/' alt="&lt;" id=c/ checked />`. -/
def mixedTag : StartTagForm where
  letter := 'I'
  isLetter := by decide
  more := "mg".toList
  plain := List.forall_iff_forall_mem.mp (by decide)
  attributes :=
    [{ front := .one
       separated := Blanks.one_ne_nil
       name := ⟨"Src".toList, by decide, List.forall_iff_forall_mem.mp (by decide)⟩
       assigned? := some ⟨.one, .one, .singleQuoted "a>\"/".toList (by decide)⟩ },
      { front := .one
        separated := Blanks.one_ne_nil
        name := ⟨"alt".toList, by decide, List.forall_iff_forall_mem.mp (by decide)⟩
        assigned? := some ⟨.none, .none, .doubleQuoted "&lt;".toList (by decide)⟩ },
      { front := .one
        separated := Blanks.one_ne_nil
        name := ⟨"id".toList, by decide, List.forall_iff_forall_mem.mp (by decide)⟩
        assigned? := some
          ⟨.none, .none, .unquoted "c/".toList (by decide)
            (List.forall_iff_forall_mem.mp (by decide)) (by decide)⟩ },
      { front := .one
        separated := Blanks.one_ne_nil
        name := ⟨"checked".toList, by decide, List.forall_iff_forall_mem.mp (by decide)⟩
        assigned? := none }]
  behind := .one
  closing := true
  separated := by decide

/-- The whole tag is read back, and a part of it that ends within its first value waits. -/
theorem feed_startTag_mixed :
    (({} : Tokenizer).feed "<Img Src = 'a>\"/' alt=\"&lt;\" id=c/ checked /></p>".toList).1 =
      .startTag "img".toList
        [("src".toList, some "a>\"/".toList), ("alt".toList, some "<".toList),
          ("id".toList, some "c/".toList), ("checked".toList, none)] true ::
        (({} : Tokenizer).feed "</p>".toList).1 ∧
    ({} : Tokenizer).feed "<Img Src = 'a>".toList =
      ([], { pending := "<Img Src = 'a>".toList }) := by
  have spelled : mixedTag.spelled =
      "<Img Src = 'a>\"/' alt=\"&lt;\" id=c/ checked />".toList := by decide
  have token : mixedTag.token = .startTag "img".toList
      [("src".toList, some "a>\"/".toList), ("alt".toList, some "<".toList),
        ("id".toList, some "c/".toList), ("checked".toList, none)] true := by decide +kernel
  constructor
  · have read := (feed_startTag mixedTag).1 "</p>".toList
    rw [spelled, token] at read
    exact congrArg Prod.fst read
  · exact (feed_startTag mixedTag).2 _ "\"/' alt=\"&lt;\" id=c/ checked />".toList
      (spelled.trans (by decide)) (by decide)

end HtmlTemplate.Markup
