import HtmlTemplate.Markup.Reference
import HtmlTemplate.Markup.Token
import HtmlTemplate.Text.Blank
import HtmlTemplate.Text.Lowercase

/-!
# Tags

Reading what stands behind a less-than sign: a start tag with its attributes, an end
tag, a comment or a declaration, or nothing of the kind. Where the text ends before
that is settled the reading is incomplete and has to wait for more text.
-/

namespace HtmlTemplate.Markup

/-- What stands behind a less-than sign. -/
inductive Reading where
  /-- A token, and the text behind it. -/
  | token (token : Token) (behind : Text)
  /-- Markup that gives no token, and the text behind it. -/
  | nothing (behind : Text)
  /-- No markup: the less-than sign is a literal one. -/
  | literal
  /-- The text ends too early to tell. -/
  | incomplete
deriving DecidableEq, Repr

/-- The text without the blanks at its beginning. -/
def skipBlanks (text : Text) : Text :=
  text.dropWhile Text.isBlank

/-! ## Attributes -/

/-- Whether a character can stand in the name of an attribute. -/
def isAttributeNameChar (c : Char) : Bool :=
  !Text.isBlank c && c ≠ '=' && c ≠ '>' && c ≠ '/'

/-- Whether a character can stand in an attribute's name that begins with an equals
sign. -/
def isStrayNameChar (c : Char) : Bool :=
  !Text.isBlank c && c ≠ '>' && c ≠ '/'

/-- Whether a character can stand in an attribute value without quotes. -/
def isBareValueChar (c : Char) : Bool :=
  !Text.isBlank c && c ≠ '>'

/-- The name of an attribute as it is written, and the rest. An equals sign where a
name should begin is a part of the name, and so is then any other. -/
def takeAttributeName : Text → Text × Text
  | [] => ([], [])
  | c :: rest =>
    if c = '=' then
      (c :: rest.takeWhile isStrayNameChar, rest.dropWhile isStrayNameChar)
    else
      ((c :: rest).takeWhile isAttributeNameChar, (c :: rest).dropWhile isAttributeNameChar)

/-- The value behind an equals sign, and the rest: up to the same quote if it begins
with one, else up to a blank or a greater-than sign. -/
def takeAttributeValue? : Text → Option (Text × Text)
  | [] => none
  | c :: rest =>
    if c = '\"' ∨ c = '\'' then Text.splitOnce c rest
    else some ((c :: rest).takeWhile isBareValueChar, (c :: rest).dropWhile isBareValueChar)

/-- One attribute, and the rest, unless the text ends first. -/
def readAttribute? (text : Text) : Option (WrittenAttribute × Text) :=
  let (name, behind) := takeAttributeName text
  match skipBlanks behind with
  | [] => none
  | c :: rest =>
    if c = '=' then
      (takeAttributeValue? (skipBlanks rest)).map fun (value, rest) =>
        ((Text.lowercase name, some (decodeReferences value)), rest)
    else some ((Text.lowercase name, none), behind)

/-! ### Reading shortens the text -/

theorem dropWhile_length_le (p : Char → Bool) (text : Text) :
    (text.dropWhile p).length ≤ text.length :=
  (List.dropWhile_sublist p).length_le

theorem skipBlanks_length_le (text : Text) : (skipBlanks text).length ≤ text.length :=
  dropWhile_length_le _ text

/-- Behind the blanks at its beginning a text begins with something else. -/
theorem not_isBlank_of_skipBlanks {text rest : Text} {c : Char}
    (skipped : skipBlanks text = c :: rest) : Text.isBlank c = false := by
  have head := List.head?_dropWhile_not Text.isBlank text
  simp only [skipBlanks] at skipped
  simpa [skipped] using head

/-- The text behind a mark is shorter than the whole. -/
theorem splitOnce_length {mark : Char} {text before behind : Text}
    (split : Text.splitOnce mark text = some (before, behind)) :
    behind.length < text.length := by
  induction text generalizing before with
  | nil => simp [Text.splitOnce] at split
  | cons c rest ih =>
    simp only [Text.splitOnce] at split
    split at split
    · obtain ⟨_, rfl⟩ := Prod.mk.inj (Option.some.inj split)
      simp
    · obtain ⟨⟨before', behind'⟩, found, pair⟩ := Option.map_eq_some_iff.mp split
      simp only [Prod.mk.injEq] at pair
      obtain ⟨_, rfl⟩ := pair
      have := ih found
      simp only [List.length_cons]
      omega

theorem takeAttributeValue?_length {text value rest : Text}
    (taken : takeAttributeValue? text = some (value, rest)) : rest.length ≤ text.length := by
  cases text with
  | nil => simp [takeAttributeValue?] at taken
  | cons c tail =>
    simp only [takeAttributeValue?] at taken
    split at taken
    · have := splitOnce_length taken
      simp only [List.length_cons]
      omega
    · obtain ⟨_, rfl⟩ := Prod.mk.inj (Option.some.inj taken)
      exact dropWhile_length_le _ _

/-- A name takes at least one character from a text that can begin with a name. -/
theorem takeAttributeName_length {c : Char} {rest : Text}
    (begins : isStrayNameChar c) :
    (takeAttributeName (c :: rest)).2.length ≤ rest.length := by
  simp only [takeAttributeName]
  split
  · exact dropWhile_length_le _ _
  · rename_i different
    have first : isAttributeNameChar c := by
      simp only [isStrayNameChar, Bool.and_eq_true, decide_eq_true_eq] at begins
      simp only [isAttributeNameChar, Bool.and_eq_true, decide_eq_true_eq]
      exact ⟨⟨⟨begins.1.1, different⟩, begins.1.2⟩, begins.2⟩
    simp only [List.dropWhile_cons, first, if_true]
    exact dropWhile_length_le _ _

/-- An attribute takes at least one character from a text that can begin with a
name. -/
theorem readAttribute?_length {c : Char} {tail rest : Text} {written : WrittenAttribute}
    (begins : isStrayNameChar c) (read : readAttribute? (c :: tail) = some (written, rest)) :
    rest.length ≤ tail.length := by
  have named : (takeAttributeName (c :: tail)).2.length ≤ tail.length :=
    takeAttributeName_length begins
  simp only [readAttribute?] at read
  split at read
  · simp at read
  · rename_i c' rest' skipped
    have shorter := skipBlanks_length_le (takeAttributeName (c :: tail)).2
    rw [skipped, List.length_cons] at shorter
    split at read
    · obtain ⟨⟨value, behind⟩, taken, pair⟩ := Option.map_eq_some_iff.mp read
      simp only [Prod.mk.injEq] at pair
      obtain ⟨_, rfl⟩ := pair
      have valued := takeAttributeValue?_length taken
      have blanks := skipBlanks_length_le rest'
      omega
    · obtain ⟨_, rfl⟩ := Prod.mk.inj (Option.some.inj read)
      exact named

/-! ## Start tags -/

/-- One step through the attributes of a start tag. -/
inductive AttributeStep where
  /-- The tag ends, and closes itself or not. -/
  | ended (closing : Bool) (behind : Text)
  /-- A slash that does not end the tag is passed over. -/
  | passed (behind : Text)
  | attribute (written : WrittenAttribute) (behind : Text)
deriving DecidableEq, Repr

/-- The text behind a step. -/
def AttributeStep.behind : AttributeStep → Text
  | .ended _ behind => behind
  | .passed behind => behind
  | .attribute _ behind => behind

/-- The next step through the attributes of a start tag, unless the text ends
first. -/
def attributeStep? (text : Text) : Option AttributeStep :=
  match skipBlanks text with
  | [] => none
  | ['/'] => none
  | '>' :: behind => some (.ended false behind)
  | '/' :: '>' :: behind => some (.ended true behind)
  | '/' :: behind => some (.passed behind)
  | c :: rest =>
    (readAttribute? (c :: rest)).map fun (written, behind) => .attribute written behind

/-- Every step shortens the text. -/
theorem attributeStep?_length {text : Text} {step : AttributeStep}
    (taken : attributeStep? text = some step) : step.behind.length < text.length := by
  have skipped := skipBlanks_length_le text
  simp only [attributeStep?] at taken
  split at taken
  · simp at taken
  · simp at taken
  · rename_i behind equation
    rw [equation, List.length_cons] at skipped
    obtain rfl := Option.some.inj taken
    simp only [AttributeStep.behind]
    omega
  · rename_i behind equation
    rw [equation, List.length_cons, List.length_cons] at skipped
    obtain rfl := Option.some.inj taken
    simp only [AttributeStep.behind]
    omega
  · rename_i behind _ _ equation
    rw [equation, List.length_cons] at skipped
    obtain rfl := Option.some.inj taken
    simp only [AttributeStep.behind]
    omega
  · rename_i c rest _ notGreater _ notSlash equation
    have blank := not_isBlank_of_skipBlanks equation
    rw [equation, List.length_cons] at skipped
    obtain ⟨⟨written, behind⟩, read, rfl⟩ := Option.map_eq_some_iff.mp taken
    have greater : c ≠ '>' := notGreater
    have slash : c ≠ '/' := notSlash
    have := readAttribute?_length (by simp [isStrayNameChar, blank, greater, slash]) read
    simp only [AttributeStep.behind]
    omega

/-- The attributes of a start tag, whether it closes itself, and the text behind it,
unless the text ends first. -/
def readAttributes? (text : Text) : Option (List WrittenAttribute × Bool × Text) :=
  match taken : attributeStep? text with
  | none => none
  | some (.ended closing behind) => some ([], closing, behind)
  | some (.passed behind) =>
    have : behind.length < text.length := attributeStep?_length taken
    readAttributes? behind
  | some (.attribute written behind) =>
    have : behind.length < text.length := attributeStep?_length taken
    (readAttributes? behind).map fun (more, closing) => (written :: more, closing)
termination_by text.length

/-- Whether a character can stand in the name of a tag. -/
def isTagNameChar (c : Char) : Bool :=
  !Text.isBlank c && c ≠ '/' && c ≠ '>'

/-- A start tag, given what stands behind its less-than sign. -/
def readStartTag (text : Text) : Reading :=
  match readAttributes? (text.dropWhile isTagNameChar) with
  | none => .incomplete
  | some (written, closing, behind) =>
    .token (.startTag (Text.lowercase (text.takeWhile isTagNameChar)) written closing) behind

/-! ## End tags and the rest -/

/-- Whether a character can stand in the name of an end tag. -/
def isEndTagNameChar (c : Char) : Bool :=
  !Text.isBlank c && c ≠ '/'

/-- An end tag, given what stands behind its slash. What does not begin with a letter
names no element and is dropped. -/
def readEndTag (text : Text) : Reading :=
  match text with
  | '/' :: '>' :: behind => .token .genericClose behind
  | _ =>
    match Text.splitOnce '>' text with
    | none => .incomplete
    | some (inner, behind) =>
      let name := (Text.trim inner).takeWhile isEndTagNameChar
      if (name.head?.map Text.isAsciiLetter).getD false then
        .token (.endTag (Text.lowercase name)) behind
      else .nothing behind

/-- Markup that is dropped up to its greater-than sign. -/
def readDeclaration (text : Text) : Reading :=
  match Text.splitOnce '>' text with
  | none => .incomplete
  | some (_, behind) => .nothing behind

/-- A comment, given what stands behind the two hyphens that open it. -/
def readComment (text : Text) : Reading :=
  match Text.cutAt? ['-', '-', '>'] text with
  | none => .incomplete
  | some (_, found) => .nothing (found.drop 3)

/-- What stands behind a less-than sign. -/
def readMarkup (text : Text) : Reading :=
  match text with
  | [] => .incomplete
  | '!' :: '-' :: '-' :: rest => readComment rest
  | ['!'] => .incomplete
  | ['!', '-'] => .incomplete
  | c :: rest =>
    if c = '!' ∨ c = '?' then readDeclaration rest
    else if c = '/' then readEndTag rest
    else if Text.isAsciiLetter c then readStartTag text
    else .literal

/-! ### Reading shortens the text -/

/-- The text behind a reading, if there is one, is not longer than a given length. -/
def Reading.Within (length : Nat) : Reading → Prop
  | .token _ behind => behind.length ≤ length
  | .nothing behind => behind.length ≤ length
  | .literal => True
  | .incomplete => True

theorem Reading.Within.mono {reading : Reading} {length longer : Nat}
    (within : reading.Within length) (le : length ≤ longer) : reading.Within longer := by
  cases reading <;> simp only [Reading.Within] at * <;> omega

theorem readAttributes?_length {text behind : Text} {written : List WrittenAttribute}
    {closing : Bool} (read : readAttributes? text = some (written, closing, behind)) :
    behind.length < text.length := by
  fun_induction readAttributes? text generalizing written with
  | case1 => simp at read
  | case2 text closing' behind' taken =>
    have : behind'.length < text.length := attributeStep?_length taken
    simp only [Option.some.injEq, Prod.mk.injEq] at read
    obtain ⟨_, _, rfl⟩ := read
    exact this
  | case3 text behind' taken shorter ih =>
    have := ih read
    omega
  | case4 text first behind' taken shorter ih =>
    obtain ⟨⟨more, closing', behind''⟩, found, pair⟩ := Option.map_eq_some_iff.mp read
    simp only [Prod.mk.injEq] at pair
    obtain ⟨_, rfl, rfl⟩ := pair
    have := ih found
    omega

theorem readStartTag_within (text : Text) : (readStartTag text).Within text.length := by
  simp only [readStartTag]
  split
  · trivial
  · rename_i read
    have := readAttributes?_length read
    have := dropWhile_length_le isTagNameChar text
    simp only [Reading.Within]
    omega

theorem readEndTag_within (text : Text) : (readEndTag text).Within text.length := by
  simp only [readEndTag]
  split
  · simp only [Reading.Within, List.length_cons]
    omega
  · split
    · trivial
    · rename_i split
      have := splitOnce_length split
      split <;> simp only [Reading.Within] <;> omega

theorem readDeclaration_within (text : Text) :
    (readDeclaration text).Within text.length := by
  simp only [readDeclaration]
  split
  · trivial
  · rename_i split
    have := splitOnce_length split
    simp only [Reading.Within]
    omega

/-- The text from an occurrence on is not longer than the whole. -/
theorem cutAt?_length {needle text before found : Text}
    (cut : Text.cutAt? needle text = some (before, found)) : found.length ≤ text.length := by
  induction text generalizing before with
  | nil =>
    simp only [Text.cutAt?] at cut
    split at cut
    · obtain ⟨_, rfl⟩ := Prod.mk.inj (Option.some.inj cut)
      simp
    · simp at cut
  | cons c rest ih =>
    simp only [Text.cutAt?] at cut
    split at cut
    · obtain ⟨_, rfl⟩ := Prod.mk.inj (Option.some.inj cut)
      simp
    · obtain ⟨⟨before', found'⟩, cut', pair⟩ := Option.map_eq_some_iff.mp cut
      simp only [Prod.mk.injEq] at pair
      obtain ⟨_, rfl⟩ := pair
      have := ih cut'
      simp only [List.length_cons]
      omega

theorem readComment_within (text : Text) : (readComment text).Within text.length := by
  simp only [readComment]
  split
  · trivial
  · rename_i cut
    have := cutAt?_length cut
    simp only [Reading.Within, List.length_drop]
    omega

theorem readMarkup_within (text : Text) : (readMarkup text).Within text.length := by
  simp only [readMarkup]
  split
  · trivial
  · exact (readComment_within _).mono (by simp only [List.length_cons]; omega)
  · trivial
  · trivial
  · split
    · exact (readDeclaration_within _).mono (by simp)
    · split
      · exact (readEndTag_within _).mono (by simp)
      · split
        · exact readStartTag_within _
        · trivial

end HtmlTemplate.Markup
