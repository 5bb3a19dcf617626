import HtmlTemplate.Proofs.LiteralSkeleton
import HtmlTemplate.Proofs.Segments
import HtmlTemplate.Proofs.SmallLetters

/-!
# Markers in names

What items go into the markup by is made of literal texts and markers (`WrittenWith`). Names are
cut out of it and written in small letters, and still they are made of literal texts and of the
same markers: a name is cut off at characters that stand in no marker and are no dollar sign
(`WrittenWith.cut`), and small letters leave markers and dollar signs alone
(`WrittenWith.lowercase`).
-/

namespace HtmlTemplate

namespace Text

/-- A digit stays as it is in small letters. -/
theorem isSmall_of_isAsciiDigit {c : Char} (digit : isAsciiDigit c = true) : IsSmall c := by
  have low : c.toNat ≤ 57 := by
    simp only [isAsciiDigit, Bool.and_eq_true, decide_eq_true_eq] at digit
    exact digit.2
  refine ⟨?_, ?_, ?_⟩
  · revert digit
    apply of_forall_code_le low
    decide
  all_goals
    rintro rfl
    exact absurd low (by decide)

/-- Only a dollar sign becomes one. -/
theorem smallLetter_ne_dollar {c : Char} (other : c ≠ '$') : smallLetter c ≠ '$' := by
  have high : ∀ run ∈ smallLetterRuns, '$'.toNat < run.small := by decide +kernel
  unfold smallLetter
  split
  · rename_i code found
    obtain ⟨run, member, within⟩ := List.exists_of_findSome?_eq_some found
    simp only [CaseRun.small?] at within
    split at within
    · rename_i inside
      obtain rfl := Option.some.inj within
      have code := toNat_ofNat_small member (Nat.sub_le_sub_right inside.2.1 run.first)
      have behind := high run member
      intro same
      rw [same] at code
      omega
    · cases within
  · exact other

/-- What a character other than a dollar sign becomes holds no dollar sign. -/
theorem exists_lowercaseAfter_cons {c : Char} (other : c ≠ '$') (before rest : Text) :
    ∃ small, '$' ∉ small ∧
      lowercaseAfter before (c :: rest) = small ++ lowercaseAfter (c :: before) rest := by
  refine ⟨_, ?_, rfl⟩
  have kept : '$' ≠ smallLetter c := (smallLetter_ne_dollar other).symm
  split_ifs <;> simp [kept]

end Text

namespace Skeleton

/-- The digits of an index are read as that index. -/
theorem markerIndex?_natural_eq_some {index index' : Nat}
    (read : markerIndex? (Decimal.natural index) = some index') : index' = index := by
  have whole : Text.toNat? 10 (Decimal.natural index) = some index :=
    Decimal.toNat?_numeral (by decide) (by decide) index
  rw [markerIndex?, whole] at read
  simp only [Option.filter_some] at read
  split at read
  · exact (Option.some.inj read).symm
  · cases read

/-- The literal text in front of a marker is no marker. -/
theorem marker_notMem_gatheredLiteral {index : Nat} (gathered : Text) :
    .marker index ∉ gatheredLiteral gathered := by
  unfold gatheredLiteral
  split <;> simp

/-- A marker that is found where one is written is that one, or is found behind it. -/
theorem eq_or_exists_of_mem_splitFrom_marker {gathered rest : Text} {index other : Nat}
    (member : .marker index ∈ splitFrom gathered (marker other ++ rest)) :
    index = other ∨ ∃ gathered', .marker index ∈ splitFrom gathered' rest := by
  have taken : takeMarker? (marker other ++ rest) = some (Decimal.natural other, rest) :=
    takeMarker?_eq_some_iff.mpr
      ⟨by simp [marker], Decimal.numeral_ne_nil 10 other,
        Decimal.isAsciiDigit_of_mem_natural other⟩
  cases read : markerIndex? (Decimal.natural other) with
  | none =>
    rw [splitFrom_of_overflow _ taken read] at member
    exact .inr ⟨_, member⟩
  | some found =>
    rw [splitFrom_of_marker _ taken read] at member
    rcases List.mem_append.mp member with impossible | member
    · exact absurd impossible (marker_notMem_gatheredLiteral _)
    · rcases List.mem_cons.mp member with same | member
      · exact .inl ((Segment.marker.inj same).trans (markerIndex?_natural_eq_some read))
      · exact .inr ⟨_, member⟩

/-- Two ways to replace markers that agree on the markers of a text give the same. -/
theorem substitute_congr {text : Text} {replace replace' : Nat → Text}
    (agree : ∀ index ∈ markers text, replace index = replace' index) :
    substitute replace text = substitute replace' text := by
  rw [substitute_eq_flatMap, substitute_eq_flatMap]
  apply List.flatMap_congr
  intro segment member
  cases segment with
  | literal content => rfl
  | marker index => exact agree index (mem_markers.mpr member)

/-! ## Texts made of segments -/

/-- A text that is made of literal texts, and of markers whose indices are allowed. -/
def WrittenWith (allowed : Nat → Prop) (text : Text) : Prop :=
  ∃ segments : List Segment, (∀ index, .marker index ∈ segments → allowed index) ∧
    text = segments.flatMap Segment.written

/-- A character beside which a name can be cut off: it stands in no marker, and is no dollar
sign. -/
structure IsFrame (c : Char) : Prop where
  digit : Text.isAsciiDigit c = false
  other : c ∉ ['x', '$']

/-- Beside a dollar sign no name is cut off. -/
theorem IsFrame.ne_dollar {c : Char} (frame : IsFrame c) : c ≠ '$' := by
  rintro rfl
  exact frame.other (by simp)

/-- A marker stays as it is in small letters. -/
theorem isSmall_of_mem_marker {index : Nat} {c : Char} (member : c ∈ marker index) :
    Text.IsSmall c := by
  simp only [marker, List.cons_append, List.mem_cons, List.mem_append, List.not_mem_nil,
    or_false] at member
  have letter : Text.IsSmall 'x' := ⟨by decide, by decide, by decide⟩
  rcases member with rfl | rfl | digit | rfl
  · exact letter
  · exact ⟨by decide, by decide, by decide⟩
  · exact Text.isSmall_of_isAsciiDigit (Decimal.isAsciiDigit_of_mem_natural index c digit)
  · exact letter

/-- A protected text is cut apart where the text itself is. -/
theorem exists_of_protect_eq {text left right : Text} {c : Char} (single : c ≠ '$')
    (parts : protect text = left ++ c :: right) :
    ∃ before after, left = protect before ∧ right = protect after := by
  induction text generalizing left with
  | nil => simp at parts
  | cons d rest inductionHypothesis =>
    by_cases dollar : d = '$'
    · subst dollar
      rw [protect_dollar] at parts
      rcases left with _ | ⟨e, _ | ⟨f, left⟩⟩
      · exact absurd (List.cons.inj parts).1.symm single
      · exact absurd (List.cons.inj (List.cons.inj parts).2).1.symm single
      · simp only [List.cons_append, List.cons.injEq] at parts
        obtain ⟨rfl, rfl, parts⟩ := parts
        obtain ⟨before, after, rfl, rfl⟩ := inductionHypothesis parts
        exact ⟨'$' :: before, after, (protect_dollar before).symm, rfl⟩
    · rw [protect_cons dollar] at parts
      cases left with
      | nil => exact ⟨[], rest, rfl, (List.cons.inj parts).2.symm⟩
      | cons e left =>
        simp only [List.cons_append, List.cons.injEq] at parts
        obtain ⟨rfl, parts⟩ := parts
        obtain ⟨before, after, rfl, rfl⟩ := inductionHypothesis parts
        exact ⟨d :: before, after, (protect_cons dollar before).symm, rfl⟩

/-- In small letters a protected text is a protected text, whatever stands around it. -/
theorem exists_lowercaseAfter_protect (before text rest : Text) :
    ∃ small before', Text.lowercaseAfter before (protect text ++ rest) =
      protect small ++ Text.lowercaseAfter before' rest := by
  induction text generalizing before with
  | nil => exact ⟨[], before, rfl⟩
  | cons c text inductionHypothesis =>
    by_cases dollar : c = '$'
    · subst dollar
      obtain ⟨small, before', lowered⟩ := inductionHypothesis ('$' :: '$' :: before)
      have signs : ∀ c ∈ ['$', '$'], Text.IsSmall c := by
        have sign : '$' ∈ marker 0 := by decide
        simpa using isSmall_of_mem_marker sign
      have kept := Text.lowercaseAfter_append_of_small signs before
      refine ⟨'$' :: small, before', ?_⟩
      rw [protect_dollar, protect_dollar]
      exact (kept _).trans (congrArg _ lowered)
    · obtain ⟨small, before', lowered⟩ := inductionHypothesis (c :: before)
      obtain ⟨letters, single, here⟩ :=
        Text.exists_lowercaseAfter_cons dollar before (protect text ++ rest)
      refine ⟨letters ++ small, before', ?_⟩
      rw [protect_cons dollar, List.cons_append, here, lowered, protect_append,
        protect_eq_self single, List.append_assoc]

namespace WrittenWith

variable {allowed : Nat → Prop}

/-- An empty text has no markers. -/
theorem nil : WrittenWith allowed [] :=
  ⟨[], by simp, rfl⟩

/-- Texts one behind the other have the markers of both. -/
theorem append {left right : Text} (written : WrittenWith allowed left)
    (writtenRight : WrittenWith allowed right) : WrittenWith allowed (left ++ right) := by
  obtain ⟨segments, among, rfl⟩ := written
  obtain ⟨more, amongMore, rfl⟩ := writtenRight
  refine ⟨segments ++ more, fun index member => ?_, List.flatMap_append.symm⟩
  exact (List.mem_append.mp member).elim (among index) (amongMore index)

/-- More markers may be allowed than there are. -/
theorem mono {allowed' : Nat → Prop} {text : Text} (written : WrittenWith allowed text)
    (within : ∀ index, allowed index → allowed' index) : WrittenWith allowed' text := by
  obtain ⟨segments, among, rfl⟩ := written
  exact ⟨segments, fun index member => within index (among index member), rfl⟩

/-- A protected text has no markers. -/
theorem protect (text : Text) : WrittenWith allowed (protect text) :=
  ⟨[.literal text], by simp, by simp [Segment.written]⟩

/-- A marker has its own index. -/
theorem marker {index : Nat} (known : allowed index) : WrittenWith allowed (marker index) :=
  ⟨[.marker index], by simpa using known, by simp [Segment.written]⟩

/-- What is made of segments is cut apart beside a character that stands in no marker. -/
theorem cut {left right : Text} {c : Char} (written : WrittenWith allowed (left ++ c :: right))
    (frame : IsFrame c) : WrittenWith allowed left ∧ WrittenWith allowed right := by
  obtain ⟨segments, among, parts⟩ := written
  induction segments generalizing left with
  | nil => simp at parts
  | cons segment segments inductionHypothesis =>
    have later := fun index member => among index (List.mem_cons_of_mem segment member)
    have first : WrittenWith allowed segment.written :=
      ⟨[segment], fun index member => among index (by simp_all), by simp⟩
    rw [List.flatMap_cons] at parts
    rcases List.append_eq_append_iff.mp parts with ⟨more, inside, behind⟩ | ⟨more, rfl, behind⟩
    · cases more with
      | nil =>
        obtain ⟨_, right⟩ := @inductionHypothesis [] later behind
        exact ⟨by simpa [inside] using first, right⟩
      | cons d more =>
        obtain ⟨rfl, rfl⟩ := List.cons.inj behind
        cases segment with
        | literal text =>
          obtain ⟨before, after, rfl, rfl⟩ := exists_of_protect_eq frame.ne_dollar inside
          exact ⟨.protect before, (WrittenWith.protect after).append ⟨segments, later, rfl⟩⟩
        | marker index =>
          have member : c ∈ left ++ c :: more := by simp
          rw [← inside] at member
          exact absurd member (not_mem_marker frame.digit frame.other index)
    · obtain ⟨left, right⟩ := inductionHypothesis later behind.symm
      exact ⟨first.append left, right⟩

/-- In small letters the segments have the same markers. -/
theorem lowercase {text : Text} (written : WrittenWith allowed text) :
    WrittenWith allowed (Text.lowercase text) := by
  obtain ⟨segments, among, rfl⟩ := written
  suffices lowered : ∀ before,
      WrittenWith allowed (Text.lowercaseAfter before (segments.flatMap Segment.written)) from
    lowered []
  intro before
  induction segments generalizing before with
  | nil => exact .nil
  | cons segment segments inductionHypothesis =>
    have behind := inductionHypothesis fun index member =>
      among index (List.mem_cons_of_mem segment member)
    rw [List.flatMap_cons]
    cases segment with
    | literal text =>
      obtain ⟨small, before', lowered⟩ := exists_lowercaseAfter_protect before text _
      rw [Segment.written, lowered]
      exact (WrittenWith.protect small).append (behind before')
    | marker index =>
      have small : ∀ c ∈ Skeleton.marker index, Text.IsSmall c :=
        fun c member => isSmall_of_mem_marker member
      rw [Segment.written, Text.lowercaseAfter_append_of_small small]
      exact (WrittenWith.marker (among index (by simp))).append (behind _)

/-- Written segments behind a protected text have no further markers. -/
theorem mem_of_mem_splitFrom {segments : List Segment} {index : Nat} (gathered text : Text)
    (member : .marker index ∈
      splitFrom gathered (Skeleton.protect text ++ segments.flatMap Segment.written)) :
    .marker index ∈ segments := by
  induction segments generalizing gathered text with
  | nil =>
    rw [List.flatMap_nil, splitFrom_protect gathered text (by simp), splitFrom_nil] at member
    exact absurd member (marker_notMem_gatheredLiteral _)
  | cons segment segments inductionHypothesis =>
    rw [List.flatMap_cons] at member
    cases segment with
    | literal next =>
      rw [Segment.written, ← List.append_assoc, ← protect_append] at member
      exact List.mem_cons_of_mem _ (inductionHypothesis _ _ member)
    | marker other =>
      rw [Segment.written, splitFrom_protect gathered text (by simp [Skeleton.marker])] at member
      rcases eq_or_exists_of_mem_splitFrom_marker member with rfl | ⟨gathered', behind⟩
      · exact .head _
      · exact List.mem_cons_of_mem _ (inductionHypothesis gathered' [] behind)

/-- The markers of the text are among those that it is made of. -/
theorem of_mem_markers {text : Text} (written : WrittenWith allowed text) :
    ∀ index ∈ markers text, allowed index := by
  obtain ⟨segments, among, rfl⟩ := written
  intro index member
  exact among index (mem_of_mem_splitFrom [] [] (mem_markers.mp member))

end WrittenWith

/-- A text stands inside another one between two characters beside which a name can be cut off. -/
def FramedIn (source text : Text) : Prop :=
  ∃ front before behind back, text = front ++ before :: (source ++ behind :: back) ∧
    IsFrame before ∧ IsFrame behind

/-- What is framed in a text is framed in a longer one. -/
theorem FramedIn.mono {source text whole : Text} (framed : FramedIn source text)
    (within : text <:+: whole) : FramedIn source whole := by
  obtain ⟨front, before, behind, back, rfl, frames⟩ := framed
  obtain ⟨more, rest, rfl⟩ := within
  exact ⟨more ++ front, before, behind, back ++ rest, by simp, frames⟩

/-- A name that is cut off has no markers but those of the whole text. -/
theorem WrittenWith.of_framedIn {allowed : Nat → Prop} {source text : Text}
    (written : WrittenWith allowed text) (framed : FramedIn source text) :
    WrittenWith allowed source := by
  obtain ⟨front, before, behind, back, rfl, frameBefore, frameBehind⟩ := framed
  exact ((written.cut frameBefore).2.cut frameBehind).1

/-- Beside a blank a name can be cut off. -/
theorem isFrame_of_isBlank {c : Char} (blank : Text.isBlank c = true) : IsFrame c where
  digit := by
    by_contra digit
    rw [Bool.not_eq_false] at digit
    rw [Text.isBlank_of_forall (by decide) digit] at blank
    cases blank
  other := by
    intro among
    simp only [List.mem_cons, List.not_mem_nil, or_false] at among
    rcases among with rfl | rfl <;> exact absurd blank (by decide)

/-- What ends the name of a start tag is a frame. -/
theorem isFrame_of_isTagNameChar {c : Char} (stop : Markup.isTagNameChar c = false) :
    IsFrame c := by
  simp only [Markup.isTagNameChar, ne_eq, decide_not, Bool.and_eq_false_iff, Bool.not_eq_false',
    decide_eq_true_eq] at stop
  rcases stop with (blank | rfl) | rfl
  · exact isFrame_of_isBlank blank
  · exact ⟨by decide, by decide⟩
  · exact ⟨by decide, by decide⟩

/-- What ends the name of an end tag is a frame. -/
theorem isFrame_of_isEndTagNameChar {c : Char} (stop : Markup.isEndTagNameChar c = false) :
    IsFrame c := by
  simp only [Markup.isEndTagNameChar, ne_eq, decide_not, Bool.and_eq_false_iff,
    Bool.not_eq_false', decide_eq_true_eq] at stop
  rcases stop with blank | rfl
  · exact isFrame_of_isBlank blank
  · exact ⟨by decide, by decide⟩

/-- A text stands between what is in front of it and behind it if both are framed there. -/
theorem framedIn_of_parts {front source back : Text} (nonempty : front ≠ [])
    (before : ∀ c ∈ front, IsFrame c) (behind : ∀ c ∈ back.head?, IsFrame c) (more : back ≠ []) :
    FramedIn source (front ++ (source ++ back)) := by
  obtain ⟨c, back, rfl⟩ := List.exists_cons_of_ne_nil more
  refine ⟨front.dropLast, front.getLast nonempty, c, back, ?_, before _ (List.getLast_mem _),
    behind c rfl⟩
  conv_lhs => rw [← List.dropLast_append_getLast nonempty]
  simp

end Skeleton

/-! ## Names of tokens -/

namespace Markup

/-- The name in a tag. -/
def Token.name? : Token → Option Text
  | .startTag name _ _ => some name
  | .endTag name => some name
  | _ => none

/-- The name of a token stands in a text, and is written in small letters. -/
def Token.NamedIn (text : Text) (token : Token) : Prop :=
  ∀ name ∈ token.name?, ∃ source, Skeleton.FramedIn source text ∧ name = Text.lowercase source

/-- A token that is named in a text is named in a longer one. -/
theorem Token.NamedIn.mono {text whole : Text} {token : Token} (named : token.NamedIn text)
    (within : text <:+: whole) : token.NamedIn whole := by
  intro name member
  obtain ⟨source, inside, lowered⟩ := named name member
  exact ⟨source, inside.mono within, lowered⟩

/-- A text token has no name. -/
theorem namedIn_of_isText {token : Token} (content : token.isText = true) (text : Text) :
    token.NamedIn text := by
  cases token <;> simp_all [Token.isText, Token.NamedIn, Token.name?]

/-- The token of a text is a text token. -/
theorem isText_of_mem_textToken {text : Text} : ∀ token ∈ textToken text, token.isText = true := by
  unfold textToken
  split <;> simp [Token.isText]

/-- The token of a raw text is a text token. -/
theorem isText_of_mem_rawTextToken {text : Text} :
    ∀ token ∈ rawTextToken text, token.isText = true := by
  unfold rawTextToken
  split <;> simp [Token.isText]

/-- The name of an end tag stands behind the slash or a blank, and in front of a slash, a blank or
the end of the tag. -/
theorem framedIn_endTagName (inner behind : Text) :
    Skeleton.FramedIn ((Text.trim inner).takeWhile isEndTagNameChar)
      ('/' :: (inner ++ '>' :: behind)) := by
  obtain ⟨front, back, trimmed, blank⟩ := Text.exists_of_trim inner
  have frame {c : Char} (member : c ∈ front ++ back) : Skeleton.IsFrame c :=
    Skeleton.isFrame_of_isBlank (blank c member)
  have whole : '/' :: (inner ++ '>' :: behind) =
      '/' :: front ++ ((Text.trim inner).takeWhile isEndTagNameChar ++
        ((Text.trim inner).dropWhile isEndTagNameChar ++ (back ++ '>' :: behind))) := by
    conv_lhs => rw [trimmed]
    simp only [List.append_assoc, List.cons_append]
    rw [← List.append_assoc (List.takeWhile _ _), List.takeWhile_append_dropWhile]
  rw [whole]
  refine Skeleton.framedIn_of_parts (by simp) ?_ ?_ (by simp)
  · intro c member
    rcases List.mem_cons.mp member with rfl | member
    · exact ⟨by decide, by decide⟩
    · exact frame (List.mem_append_left _ member)
  · intro c first
    have stop := List.head?_dropWhile_not isEndTagNameChar (Text.trim inner)
    cases left : (Text.trim inner).dropWhile isEndTagNameChar with
    | cons d left' =>
      rw [left] at first stop
      cases first
      exact Skeleton.isFrame_of_isEndTagNameChar stop
    | nil =>
      rw [left] at first
      cases back with
      | nil =>
        cases first
        exact ⟨by decide, by decide⟩
      | cons d back =>
        cases first
        exact frame (by simp)

/-- An end tag is named between its slash and its greater-than sign. -/
theorem namedIn_of_readEndTag {text behind : Text} {token : Token}
    (read : readEndTag text = .token token behind) : token.NamedIn ('/' :: text) := by
  by_cases generic : ∃ behind, text = '/' :: '>' :: behind
  · obtain ⟨behind', rfl⟩ := generic
    cases read
    simp [Token.NamedIn, Token.name?]
  · rw [readEndTag_of_ne fun behind same => generic ⟨behind, same⟩] at read
    split at read
    · cases read
    · rename_i inner behind' found
      dsimp only at read
      split at read
      · cases read
        intro name member
        obtain rfl := Option.some.inj member
        obtain ⟨rfl, _⟩ := Text.splitOnce_eq_some_iff.mp found
        exact ⟨_, framedIn_endTagName inner behind, rfl⟩
      · cases read

/-- The name of a start tag stands behind the less-than sign, and in front of what ends it. -/
theorem framedIn_startTagName {text : Text} (ended : text.dropWhile isTagNameChar ≠ []) :
    Skeleton.FramedIn (text.takeWhile isTagNameChar) ('<' :: text) := by
  have whole : '<' :: text =
      ['<'] ++ (text.takeWhile isTagNameChar ++ text.dropWhile isTagNameChar) := by
    rw [List.takeWhile_append_dropWhile]
    rfl
  have stop := List.head?_dropWhile_not isTagNameChar text
  rw [whole]
  refine Skeleton.framedIn_of_parts (by simp) ?_ ?_ ended
  · exact List.forall_mem_singleton.mpr ⟨by decide, by decide⟩
  · intro c first
    rw [Option.mem_def.mp first] at stop
    exact Skeleton.isFrame_of_isTagNameChar stop

/-- A tag has its name from the markup that it is read from. -/
theorem namedIn_of_readMarkup {rest behind : Text} {token : Token}
    (read : readMarkup rest = .token token behind) : token.NamedIn ('<' :: rest) := by
  rcases of_readMarkup_token read with ⟨inside, rfl, read⟩ | ⟨c, inside, rfl, _, read⟩
  · exact (namedIn_of_readEndTag read).mono (List.suffix_cons _ _).isInfix
  · rw [readStartTag] at read
    split at read
    · cases read
    · rename_i attributes
      cases read
      intro name member
      obtain rfl := Option.some.inj member
      refine ⟨_, framedIn_startTagName fun nothing => ?_, rfl⟩
      rw [nothing, readAttributes?_nil] at attributes
      cases attributes

/-- What a step gives is taken from a text: the names of its tokens, and what it goes on with or
lets wait. -/
def ScanStep.TakenFrom (text : Text) : ScanStep → Prop
  | .forward tokens _ behind => behind <:+ text ∧ ∀ token ∈ tokens, token.NamedIn text
  | .stop tokens pending => pending <:+ text ∧ ∀ token ∈ tokens, token.isText = true

/-- A step takes its tokens from a beginning of the text, and leaves an end of it. -/
theorem takenFrom_scanStep (atEnd : Bool) (rawElement : Option Text) (c : Char) (rest : Text) :
    (scanStep atEnd rawElement c rest).TakenFrom (c :: rest) := by
  have texts (text whole : Text) : ∀ token ∈ textToken text, token.NamedIn whole :=
    fun token member => namedIn_of_isText (isText_of_mem_textToken token member) _
  have inside {rest behind : Text} (ends : '>' :: behind <:+ rest) : behind <:+ '<' :: rest :=
    (List.suffix_cons _ _).trans (ends.trans (List.suffix_cons _ _))
  have case := stepCase atEnd rawElement c rest
  generalize scanStep atEnd rawElement c rest = step at case ⊢
  cases case with
  | raw cut =>
    exact ⟨⟨_, (cutAtEndTag?_spec cut).1.symm⟩, fun token member =>
      namedIn_of_isText (isText_of_mem_rawTextToken token member) _⟩
  | rawWaiting => exact ⟨List.suffix_refl _, by simp⟩
  | rawUnended => exact ⟨List.nil_suffix, by simp [Token.isText]⟩
  | token read =>
    have ends := readMarkup_endsIn rest
    rw [read] at ends
    refine ⟨inside ends, fun other member => ?_⟩
    obtain rfl := List.mem_singleton.mp member
    exact namedIn_of_readMarkup read
  | nothing read =>
    have ends := readMarkup_endsIn rest
    rw [read] at ends
    exact ⟨inside ends, by simp⟩
  | literal => exact ⟨(List.dropWhile_suffix _).trans (List.suffix_cons _ _), texts _ _⟩
  | waiting => exact ⟨List.suffix_refl _, by simp⟩
  | unended => exact ⟨List.nil_suffix, isText_of_mem_textToken⟩
  | run _ stop => exact ⟨(eq_less_of_dropWhile stop).2, texts _ _⟩
  | settled => exact ⟨⟨_, (splitUnfinished_spec _).1.symm⟩, isText_of_mem_textToken⟩
  | last => exact ⟨List.nil_suffix, isText_of_mem_textToken⟩

/-- All tokens of a text have their names from it, and what waits is an end of it. -/
theorem takenFrom_scan (atEnd : Bool) (rawElement : Option Text) (text : Text) :
    (scan atEnd rawElement text).2.pending <:+ text ∧
      ∀ token ∈ (scan atEnd rawElement text).1, token.NamedIn text := by
  induction size : scanMeasure rawElement text using Nat.strong_induction_on
      generalizing rawElement text with
  | _ size inductionHypothesis =>
    subst size
    cases text with
    | nil => simp
    | cons c rest =>
      have taken := takenFrom_scanStep atEnd rawElement c rest
      cases step : scanStep atEnd rawElement c rest with
      | stop tokens pending =>
        rw [step] at taken
        rw [scan_of_stop step]
        exact ⟨taken.1, fun token member => namedIn_of_isText (taken.2 token member) _⟩
      | forward tokens rawElement' behind =>
        rw [step] at taken
        obtain ⟨waits, named⟩ :=
          inductionHypothesis _ (scanStep_measure step) rawElement' behind rfl
        rw [scan_of_forward step]
        refine ⟨waits.trans taken.1, fun token member => ?_⟩
        rcases List.mem_append.mp member with here | later
        · exact taken.2 token here
        · exact (named token later).mono taken.1.isInfix

end Markup

end HtmlTemplate
