import HtmlTemplate.Proofs.Places
import HtmlTemplate.Proofs.SourceTokens

/-!
# Where raw text ends

The text of a raw element goes up to the first place that begins like its end tag, and the tag there
is then read like any other, with all that its name has (`head?_tagsFrom_raw`). So the first tag
behind the start tag of a raw element is always an end tag, however the input is cut into parts, but
its name may be longer than that of the element (`rawTextEnds_tokenize_iff`).
-/

namespace HtmlTemplate.Markup

/-! ## The name of an end tag -/

/-- In front of a greater-than sign the name of a tag goes as far as that of an end tag does, which
is read from what is trimmed. -/
theorem takeWhile_isTagNameChar {c : Char} (visible : Text.isBlank c = false) {inner : Text}
    (absent : '>' ∉ c :: inner) (behind : Text) :
    (c :: inner ++ '>' :: behind).takeWhile isTagNameChar =
      (Text.trim (c :: inner)).takeWhile isEndTagNameChar := by
  obtain ⟨front, back, parts, blank⟩ := Text.exists_of_trim (c :: inner)
  obtain rfl : front = [] := by
    rcases front with _ | ⟨d, front⟩
    · rfl
    · obtain ⟨rfl, _⟩ := List.cons.inj parts
      rw [blank c (by simp)] at visible
      cases visible
  have unmarked : ∀ text : Text, '>' ∉ text →
      text.takeWhile isTagNameChar = text.takeWhile isEndTagNameChar := by
    intro text absent
    induction text with
    | nil => rfl
    | cons d text inductionHypothesis =>
      simp only [List.mem_cons, not_or] at absent
      simp [List.takeWhile_cons, isTagNameChar, isEndTagNameChar, Ne.symm absent.1,
        inductionHypothesis absent.2]
  have stop : ∀ d ∈ back.head?, isEndTagNameChar d = false := by
    intro d first
    simp [isEndTagNameChar, blank d (List.mem_append_right _ (List.mem_of_mem_head? first))]
  calc
    (c :: inner ++ '>' :: behind).takeWhile isTagNameChar
      = (c :: inner).takeWhile isTagNameChar :=
        Text.takeWhile_append_of_head (by simp [isTagNameChar]) _
    _ = (c :: inner).takeWhile isEndTagNameChar := unmarked _ absent
    _ = (Text.trim (c :: inner) ++ back).takeWhile isEndTagNameChar := by
        rw [← List.nil_append (Text.trim _), ← parts]
    _ = (Text.trim (c :: inner)).takeWhile isEndTagNameChar :=
        Text.takeWhile_append_of_head stop _

/-- Behind a letter an end tag is complete with its greater-than sign, and its name goes up to a
blank, a slash or that sign. -/
theorem readEndTag_letter {c : Char} (letter : Text.isAsciiLetter c = true) (rest : Text)
    (complete : '>' ∈ c :: rest) :
    ∃ behind, readEndTag (c :: rest) =
      .token (.endTag (Text.lowercase ((c :: rest).takeWhile isTagNameChar))) behind := by
  obtain ⟨⟨visible, slash⟩, greater⟩ : (Text.isBlank c = false ∧ c ≠ '/') ∧ c ≠ '>' := by
    simpa [isTagNameChar] using isTagNameChar_of_letter letter
  rw [readEndTag_of_ne fun behind same => slash (List.cons.inj same).1]
  cases split : Text.splitOnce '>' (c :: rest) with
  | none => exact absurd complete (Text.splitOnce_eq_none_iff.mp split)
  | some found =>
    obtain ⟨inner, behind⟩ := found
    obtain ⟨parts, absent⟩ := Text.splitOnce_eq_some_iff.mp split
    rcases inner with _ | ⟨d, inner⟩
    · exact absurd (List.cons.inj parts).1 greater
    obtain ⟨rfl, _⟩ := List.cons.inj parts
    obtain ⟨trimmed, begins⟩ := Text.trim_cons visible inner
    have named : isEndTagNameChar c = true := by simp [isEndTagNameChar, visible, slash]
    refine ⟨behind, ?_⟩
    rw [parts, takeWhile_isTagNameChar visible absent]
    exact if_pos (by simp [begins, named, letter])

/-! ## The first tag behind the start of a raw element -/

/-- Where a raw element comes to its end, its name stands in any case of its letters. -/
theorem OpensEndTag.exists_named {element found : Text} (opens : OpensEndTag element found) :
    ∃ named more, found = '<' :: '/' :: (named ++ more) ∧ named.map Text.asciiLower = element := by
  rcases found with _ | ⟨c, _ | ⟨d, rest⟩⟩
  · cases opens
  · simp [OpensEndTag] at opens
  simp only [OpensEndTag, List.length_cons, List.take_succ_cons, List.map_cons,
    List.cons.injEq] at opens
  obtain ⟨first, second, named⟩ := opens
  obtain rfl := Text.eq_of_asciiLower first (by decide)
  obtain rfl := Text.eq_of_asciiLower second (by decide)
  exact ⟨rest.take element.length, rest.drop element.length, by simp, named⟩

/-- The name of the end tag that begins a text. -/
def foundName (found : Text) : Text :=
  Text.lowercase ((found.drop 2).takeWhile isTagNameChar)

/-- What the name of the end tag that is found for an element has behind the element's name. -/
def nameBehind (element found : Text) : Text :=
  (found.drop (element.length + 2)).takeWhile isTagNameChar

theorem letters_of_mem_rawElements {element : Text} (raw : element ∈ rawElements) :
    element ≠ [] ∧ ∀ c ∈ element, Text.isAsciiLetter c = true := by
  have lettered : (rawElements.all fun element =>
      decide (element ≠ []) && element.all Text.isAsciiLetter) = true := by decide
  simpa using List.all_eq_true.mp lettered element raw

/-- The end tag that is found for a raw element has a name that begins with the element's. -/
theorem foundName_eq {element found : Text} (raw : element ∈ rawElements)
    (opens : OpensEndTag element found) :
    ∃ name, foundName found = element ++ name ∧ (name = [] ↔ nameBehind element found = []) := by
  obtain ⟨named, more, rfl, rfl⟩ := opens.exists_named
  have ascii : ∀ c ∈ named, Text.isAsciiLetter c = true := fun c member =>
    Text.isAsciiLetter_of_asciiLower
      ((letters_of_mem_rawElements raw).2 _ (List.mem_map_of_mem member))
  refine ⟨Text.lowercaseAfter (named.reverse ++ []) (more.takeWhile isTagNameChar), ?_, ?_⟩
  · rw [foundName, List.drop_succ_cons, List.drop_succ_cons, List.drop_zero,
      List.takeWhile_append_of_pos fun c member => isTagNameChar_of_letter (ascii c member),
      Text.lowercase, Text.lowercaseAfter_letters ascii]
  · simp [Text.lowercaseAfter_eq_nil_iff, nameBehind]

/-- Where a raw element comes to its end, markup begins that is an end tag as soon as it is
complete. -/
theorem readMarkup_found {element found : Text} (raw : element ∈ rawElements)
    (opens : OpensEndTag element found) :
    ∃ rest, found = '<' :: rest ∧
      (('>' ∉ found ∧ readMarkup rest = .incomplete) ∨
        ('>' ∈ found ∧ ∃ behind, readMarkup rest = .token (.endTag (foundName found)) behind)) := by
  obtain ⟨named, more, rfl, rfl⟩ := opens.exists_named
  obtain ⟨nonempty, letters⟩ := letters_of_mem_rawElements raw
  rcases named with _ | ⟨c, named⟩
  · exact absurd rfl nonempty
  have letter : Text.isAsciiLetter c = true :=
    Text.isAsciiLetter_of_asciiLower (letters (Text.asciiLower c) (by simp))
  refine ⟨'/' :: (c :: named ++ more), rfl, ?_⟩
  rw [readMarkup_slash]
  by_cases complete : '>' ∈ c :: (named ++ more)
  · exact .inr ⟨by simpa using complete, readEndTag_letter letter (named ++ more) complete⟩
  · exact .inl ⟨by simpa using complete, readEndTag_eq_incomplete_iff.mpr complete⟩

/-- The first tag of a raw element's text is the one that is found where the text ends, if that is
complete. -/
theorem head?_tagsFrom_raw {element : Text} (raw : element ∈ rawElements) (text : Text)
    (tag : Token) :
    (∃ behind, (tagsFrom true (some element) text).head? = some (tag, behind)) ↔
      ∃ before found, cutAtEndTag? element text = some (before, found) ∧ '>' ∈ found ∧
        tag = .endTag (foundName found) := by
  rcases text with _ | ⟨c, rest⟩
  · simp [cutAtEndTag?]
  cases cut : cutAtEndTag? element (c :: rest) with
  | none => simp [tagsFrom_of_stop (scanStep_raw_unended cut)]
  | some parts =>
    obtain ⟨before, found⟩ := parts
    obtain ⟨inside, rfl, read⟩ := readMarkup_found raw (opensEndTag_of_cutAtEndTag? cut)
    rw [tagsFrom_of_forward (scanStep_raw cut true), filter_rawTextToken, List.map_nil,
      List.nil_append]
    rcases read with ⟨incomplete, read⟩ | ⟨complete, behind, read⟩
    · rw [tagsFrom_of_stop (scanStep_unended read)]
      constructor
      · rintro ⟨_, first⟩
        cases first
      · rintro ⟨_, _, same, ended, _⟩
        cases same
        exact absurd ended incomplete
    · rw [tagsFrom_of_forward (scanStep_token read true)]
      constructor
      · rintro ⟨last, first⟩
        cases first
        exact ⟨before, _, rfl, complete, rfl⟩
      · rintro ⟨_, _, same, _, rfl⟩
        cases same
        exact ⟨behind, rfl⟩

/-- What comes behind a tag are the tags of the text behind it. -/
theorem tagsFrom_behind {atEnd : Bool} {rawElement : Option Text} {text behind : Text}
    {front back : List (Token × Text)} {tag : Token}
    (parts : tagsFrom atEnd rawElement text = front ++ (tag, behind) :: back) :
    back = tagsFrom atEnd (rawElementAfter tag) behind := by
  induction size : scanMeasure rawElement text using Nat.strong_induction_on
      generalizing rawElement text front with
  | _ size inductionHypothesis =>
    subst size
    rcases text with _ | ⟨c, rest⟩
    · simp at parts
    -- A step that gives no tag leaves all of them to the steps behind it.
    have onward {tokens : List Token} {rawElement' : Option Text} {behind' : Text}
        (step : scanStep atEnd rawElement c rest = .forward tokens rawElement' behind')
        (texts : tokens.filter (!·.isText) = []) :
        back = tagsFrom atEnd (rawElementAfter tag) behind := by
      rw [tagsFrom_of_forward step, texts, List.map_nil, List.nil_append] at parts
      exact inductionHypothesis _ (scanStep_measure step) parts rfl
    have case := stepCase atEnd rawElement c rest
    generalize same : scanStep atEnd rawElement c rest = step at case
    cases case with
    | raw => exact onward same (filter_rawTextToken _)
    | nothing => exact onward same rfl
    | literal => exact onward same (filter_textToken _)
    | run => exact onward same (filter_textToken _)
    | @token _ _ behind' token read =>
      have kept : [token].filter (!·.isText) = [token] := by
        cases isTag_of_readMarkup read <;> rfl
      rw [tagsFrom_of_forward same, kept] at parts
      rcases front with _ | ⟨first, front⟩
      · obtain ⟨first, rfl⟩ := List.cons.inj parts
        cases first
        rfl
      · exact inductionHypothesis _ (scanStep_measure same) (List.cons.inj parts).2 rfl
    | rawWaiting | rawUnended | waiting | unended | settled | last =>
      rw [tagsFrom_of_stop same] at parts
      simp at parts

/-- The tags of an input in parts are those of its whole text. -/
theorem filter_tokenize (parts : List Text) :
    (tokenize parts).filter (!·.isText) = (tagsFrom true none parts.flatten).map Prod.fst := by
  have settled : ({} : Tokenizer).Settled := Tokenizer.settled_of_nil (by simp)
  have ended : (({} : Tokenizer).feedAll parts).2.close.1.filter (!·.isText) = [] :=
    List.filter_eq_nil_iff.mpr fun token member => by
      simp [(settled.feedAll parts).isText_of_mem_close token member]
  have fed := congrArg (List.map Prod.fst) (Skeleton.numbered_feedAll settled 0 parts)
  rw [tokenize, List.filter_append, ended, List.append_nil, ← Skeleton.map_fst_numbered 0,
    List.filter_map]
  simpa [Function.comp_def] using fed

/-! ## The law -/

/-- Whether `tag` is the first token behind a start tag of the element that is no text. -/
def FirstTagBehind (tokens : List Token) (element : Text) (tag : Token) : Prop :=
  ∃ before attributes after, tokens = before ++ .startTag element attributes false :: after ∧
    after.find? (!·.isText) = some tag

/-- Whether raw text ends only at its own end tag: the first tag behind the start tag of a raw
element is the end tag with the same name. -/
def RawTextEnds (tokens : List Token) : Prop :=
  ∀ element ∈ rawElements, ∀ tag, FirstTagBehind tokens element tag → tag = .endTag element

/-- Whether the text of the element, which a tag of the text starts, ends at a complete end tag, and
what is found there. -/
def RawTextEndsAt (text element found : Text) : Prop :=
  ∃ attributes behind before,
    (.startTag element attributes false, behind) ∈ tagsFrom true none text ∧
      cutAtEndTag? element behind = some (before, found) ∧ '>' ∈ found

/-- A tag comes first behind a start tag if it does so without the texts. -/
theorem firstTagBehind_iff_filter {tokens : List Token} {element : Text} {tag : Token} :
    FirstTagBehind tokens element tag ↔
      ∃ before attributes after, tokens.filter (!·.isText) =
        before ++ .startTag element attributes false :: tag :: after := by
  constructor
  · rintro ⟨before, attributes, after, rfl, first⟩
    rw [← List.head?_filter, List.head?_eq_some_iff] at first
    obtain ⟨later, first⟩ := first
    exact ⟨before.filter (!·.isText), attributes, later, by
      rw [List.filter_append, List.filter_cons_of_pos rfl, first]⟩
  · rintro ⟨before, attributes, after, whole⟩
    obtain ⟨front, rest, rfl, rfl, start⟩ := List.filter_eq_append_iff.mp whole
    obtain ⟨between, back, rfl, _, _, first⟩ := List.filter_eq_cons_iff.mp start
    refine ⟨front ++ between, attributes, back, by simp, ?_⟩
    rw [← List.head?_filter, first, List.head?_cons]

/-- The first tag behind the start of a raw element is what is found where its text ends. -/
theorem firstTagBehind_tokenize_iff {parts : List Text} {element : Text}
    (raw : element ∈ rawElements) {tag : Token} :
    FirstTagBehind (tokenize parts) element tag ↔
      ∃ found, RawTextEndsAt parts.flatten element found ∧ tag = .endTag (foundName found) := by
  have inside (attributes : List WrittenAttribute) :
      rawElementAfter (.startTag element attributes false) = some element := if_pos raw
  rw [firstTagBehind_iff_filter, filter_tokenize]
  constructor
  · rintro ⟨before, attributes, after, whole⟩
    obtain ⟨front, rest, split, rfl, start⟩ := List.map_eq_append_iff.mp whole
    obtain ⟨⟨_, behind⟩, later, rfl, rfl, first⟩ := List.map_eq_cons_iff.mp start
    obtain ⟨⟨tag, last⟩, more, rfl, rfl, rfl⟩ := List.map_eq_cons_iff.mp first
    have next := tagsFrom_behind split
    rw [inside] at next
    obtain ⟨before, found, cut, complete, named⟩ :=
      (head?_tagsFrom_raw raw behind tag).mp ⟨last, by rw [← next, List.head?_cons]⟩
    exact ⟨found, ⟨attributes, behind, before, by rw [split]; simp, cut, complete⟩, named⟩
  · rintro ⟨found, ⟨attributes, behind, before, member, cut, complete⟩, named⟩
    obtain ⟨front, back, split⟩ := List.append_of_mem member
    have next := tagsFrom_behind split
    rw [inside] at next
    obtain ⟨last, first⟩ :=
      (head?_tagsFrom_raw raw behind tag).mpr ⟨before, found, cut, complete, named⟩
    rw [← next, List.head?_eq_some_iff] at first
    obtain ⟨more, rfl⟩ := first
    exact ⟨front.map Prod.fst, attributes, more.map Prod.fst, by simp [split]⟩

/-- However an input is cut into parts, the first tag behind the start tag of a raw element is an
end tag with a name that begins with the element's. It is the element's own end tag everywhere
exactly if no name goes on where the text of a raw element ends. -/
theorem rawTextEnds_tokenize_iff (parts : List Text) :
    (∀ element ∈ rawElements, ∀ tag, FirstTagBehind (tokenize parts) element tag →
        ∃ more, tag = .endTag (element ++ more)) ∧
      (RawTextEnds (tokenize parts) ↔
        ∀ element ∈ rawElements, ∀ found, RawTextEndsAt parts.flatten element found →
          nameBehind element found = []) := by
  have opening {element found : Text} (ends : RawTextEndsAt parts.flatten element found) :
      OpensEndTag element found := by
    obtain ⟨_, _, _, _, cut, _⟩ := ends
    exact opensEndTag_of_cutAtEndTag? cut
  refine ⟨?_, ?_, ?_⟩
  · intro element raw tag first
    obtain ⟨found, ends, rfl⟩ := (firstTagBehind_tokenize_iff raw).mp first
    obtain ⟨name, whole, _⟩ := foundName_eq raw (opening ends)
    exact ⟨name, by rw [whole]⟩
  · intro own element raw found ends
    obtain ⟨name, whole, empty⟩ := foundName_eq raw (opening ends)
    have same := own element raw _ ((firstTagBehind_tokenize_iff raw).mpr ⟨found, ends, rfl⟩)
    rw [whole, Token.endTag.injEq, List.append_right_eq_self] at same
    exact empty.mp same
  · intro ended element raw tag first
    obtain ⟨found, ends, rfl⟩ := (firstTagBehind_tokenize_iff raw).mp first
    obtain ⟨name, whole, empty⟩ := foundName_eq raw (opening ends)
    rw [whole, empty.mpr (ended element raw found ends), List.append_nil]

/-- A name that only begins with the element's ends its raw text all the same. -/
theorem not_rawTextEnds_longer : ¬ RawTextEnds (tokenize ["<script>a</scriptx>".toList]) := by
  intro own
  have tokens : tokenize ["<script>a</scriptx>".toList] =
      [.startTag "script".toList [] false, .text ['a'], .endTag "scriptx".toList] := by
    decide +kernel
  have same := own "script".toList (by decide) (.endTag "scriptx".toList)
    ⟨[], [], [.text ['a'], .endTag "scriptx".toList], tokens, rfl⟩
  exact absurd same (by decide)

end HtmlTemplate.Markup
