import HtmlTemplate.Proofs.Readings
import Mathlib.Data.List.TakeWhile

/-!
# Input in parts

What a tokenizer gives for an input that arrives in parts, compared with what it gives for
the input as a whole. Where the parts end decides about where text tokens end, so runs of
text tokens are joined before the two are compared. The exact law is
`joinTexts_tokenize_eq_iff`: the tokens are the same unless a part ends within a character
reference of which the tokenizer keeps nothing.
-/

namespace HtmlTemplate.Markup

/-! ## Runs of texts -/

/-- A text in front of some tokens, joined with the text that comes first if one does. -/
def joinText (content : Text) : List Token → List Token
  | .text next :: tokens => .text (content ++ next) :: tokens
  | tokens => .text content :: tokens

/-- Some tokens in which every run of neighbouring texts has become one text. -/
def joinTexts : List Token → List Token
  | [] => []
  | .text content :: tokens => joinText content (joinTexts tokens)
  | token :: tokens => token :: joinTexts tokens

/-- The number of characters in the texts of some tokens. -/
def textLength : List Token → Nat
  | [] => 0
  | .text content :: tokens => content.length + textLength tokens
  | _ :: tokens => textLength tokens

/-- Two texts joined one after the other are joined as one. -/
theorem joinText_joinText (first second : Text) (tokens : List Token) :
    joinText first (joinText second tokens) = joinText (first ++ second) tokens := by
  rcases tokens with _ | ⟨_ | _ | _ | _, _⟩ <;> simp [joinText]

/-- Joining a text adds its characters. -/
theorem textLength_joinText (content : Text) (tokens : List Token) :
    textLength (joinText content tokens) = content.length + textLength tokens := by
  rcases tokens with _ | ⟨_ | _ | _ | _, _⟩ <;> simp [joinText, textLength, Nat.add_assoc]

/-- Joining texts neither adds a character nor takes one away. -/
theorem textLength_joinTexts (tokens : List Token) :
    textLength (joinTexts tokens) = textLength tokens := by
  induction tokens with
  | nil => rfl
  | cons token tokens inductionHypothesis =>
    cases token <;>
      simp [joinTexts, textLength, textLength_joinText, inductionHypothesis]

/-- The characters of two runs of tokens add up. -/
theorem textLength_append (first second : List Token) :
    textLength (first ++ second) = textLength first + textLength second := by
  induction first with
  | nil => simp [textLength]
  | cons token tokens inductionHypothesis =>
    cases token <;> simp [textLength, inductionHypothesis, Nat.add_assoc]

/-- Behind the same tokens, what is the same up to joining stays so. -/
theorem joinTexts_append_congr (tokens : List Token) {first second : List Token}
    (same : joinTexts first = joinTexts second) :
    joinTexts (tokens ++ first) = joinTexts (tokens ++ second) := by
  induction tokens with
  | nil => exact same
  | cons token tokens inductionHypothesis =>
    cases token <;> simp [joinTexts, inductionHypothesis]

/-! ## What a cut does -/

/-- The tokens of a whole input and those of its parts are the same up to joining, unless
something is lost, and then the parts have more characters of text. -/
structure CutLaw (loses : Prop) (whole parts : List Token) : Prop where
  same : ¬ loses → joinTexts whole = joinTexts parts
  longer : loses → textLength whole < textLength parts

namespace CutLaw

variable {loses : Prop} {whole parts : List Token}

/-- Where nothing is cut nothing is lost. -/
theorem refl (tokens : List Token) : CutLaw False tokens tokens :=
  ⟨fun _ => rfl, fun impossible => impossible.elim⟩

/-- The law of a cut does not depend on how its loss is described. -/
theorem congr {loses' : Prop} (law : CutLaw loses whole parts) (equivalent : loses ↔ loses') :
    CutLaw loses' whole parts :=
  ⟨fun kept => law.same (kept ∘ equivalent.mp), fun lost => law.longer (equivalent.mpr lost)⟩

/-- The same tokens in front change nothing. -/
theorem append_left (law : CutLaw loses whole parts) (tokens : List Token) :
    CutLaw loses (tokens ++ whole) (tokens ++ parts) where
  same kept := joinTexts_append_congr tokens (law.same kept)
  longer lost := by
    simp only [textLength_append]
    have := law.longer lost
    omega

/-- Parts never have fewer characters of text than the whole. -/
theorem le (law : CutLaw loses whole parts) : textLength whole ≤ textLength parts := by
  by_cases lost : loses
  · exact Nat.le_of_lt (law.longer lost)
  · have same := congrArg textLength (law.same lost)
    rw [textLength_joinTexts, textLength_joinTexts] at same
    omega

/-- Two cuts, one after the other, lose what either of them loses. -/
theorem trans {loses' : Prop} {further : List Token} (first : CutLaw loses whole parts)
    (second : CutLaw loses' parts further) : CutLaw (loses ∨ loses') whole further where
  same kept := by
    rw [not_or] at kept
    rw [first.same kept.1, second.same kept.2]
  longer lost := by
    rcases lost with lost | lost
    · exact Nat.lt_of_lt_of_le (first.longer lost) second.le
    · exact Nat.lt_of_le_of_lt first.le (second.longer lost)

/-- The tokens agree up to joining exactly if nothing is lost. -/
theorem same_iff (law : CutLaw loses whole parts) :
    joinTexts whole = joinTexts parts ↔ ¬ loses := by
  constructor
  · intro same lost
    have equal := congrArg textLength same
    rw [textLength_joinTexts, textLength_joinTexts] at equal
    have := law.longer lost
    omega
  · exact law.same

end CutLaw

/-- An empty text is no token. -/
@[simp] theorem textToken_nil : textToken [] = [] := rfl

/-- A text that is not empty is one token, with its references decoded. -/
theorem textToken_of_ne_nil {text : Text} (nonempty : text ≠ []) :
    textToken text = [.text (decodeReferences text)] := by
  simp [textToken, nonempty]

/-- The token of a text has as many characters as the text has decoded. -/
theorem textLength_textToken (text : Text) :
    textLength (textToken text) = (decodeReferences text).length := by
  by_cases empty : text = []
  · subst empty
    simp [textLength]
  · simp [textToken_of_ne_nil empty, textLength]

/-- Cutting a text loses the reference that spans the cut, if there is one. -/
theorem CutLaw.textToken (before after : Text) (tokens : List Token) :
    CutLaw (SpansReference before after) (textToken (before ++ after) ++ tokens)
      (textToken before ++ (textToken after ++ tokens)) where
  same apart := by
    by_cases emptyBefore : before = []
    · simp [emptyBefore]
    by_cases emptyAfter : after = []
    · simp [emptyAfter]
    rw [textToken_of_ne_nil (by simp [emptyBefore]), textToken_of_ne_nil emptyBefore,
      textToken_of_ne_nil emptyAfter, decodeReferences_append apart]
    simp [joinTexts, joinText_joinText]
  longer spans := by
    have shorter := length_decodeReferences_append_lt spans
    simp only [textLength_append, textLength_textToken]
    rw [List.length_append] at shorter
    omega

/-! ## Steps of a tokenizer -/

/-- At the end of the text there are no tokens, and a raw element stays open. -/
@[simp] theorem scan_nil (atEnd : Bool) (rawElement : Option Text) :
    scan atEnd rawElement [] = ([], ⟨[], rawElement⟩) := by
  rw [scan]

/-- Where a step stops the scan ends. -/
theorem scan_of_stop {atEnd : Bool} {rawElement : Option Text} {c : Char} {rest : Text}
    {tokens : List Token} {pending : Text}
    (step : scanStep atEnd rawElement c rest = .stop tokens pending) :
    scan atEnd rawElement (c :: rest) = (tokens, ⟨pending, rawElement⟩) := by
  rw [scan]
  split <;> simp_all

/-- Behind a step that goes on the scan does so too. -/
theorem scan_of_forward {atEnd : Bool} {rawElement rawElement' : Option Text} {c : Char}
    {rest : Text} {tokens : List Token} {behind : Text}
    (step : scanStep atEnd rawElement c rest = .forward tokens rawElement' behind) :
    scan atEnd rawElement (c :: rest) =
      (tokens ++ (scan atEnd rawElement' behind).1, (scan atEnd rawElement' behind).2) := by
  rw [scan]
  split <;> simp_all

/-- All tokens of a text behind which the input ends. -/
def tokensOf (rawElement : Option Text) (text : Text) : List Token :=
  (scan true rawElement text).1

/-- An empty text has no tokens. -/
@[simp] theorem tokensOf_nil (rawElement : Option Text) : tokensOf rawElement [] = [] := by
  simp [tokensOf]

/-- The tokens of a step that stops are the last ones. -/
theorem tokensOf_of_stop {rawElement : Option Text} {c : Char} {rest : Text}
    {tokens : List Token} {pending : Text}
    (step : scanStep true rawElement c rest = .stop tokens pending) :
    tokensOf rawElement (c :: rest) = tokens := by
  rw [tokensOf, scan_of_stop step]

/-- The tokens of a step that goes on come before those behind it. -/
theorem tokensOf_of_forward {rawElement rawElement' : Option Text} {c : Char} {rest : Text}
    {tokens : List Token} {behind : Text}
    (step : scanStep true rawElement c rest = .forward tokens rawElement' behind) :
    tokensOf rawElement (c :: rest) = tokens ++ tokensOf rawElement' behind := by
  rw [tokensOf, scan_of_forward step, tokensOf]

/-- Outside of a raw element any other sign begins a text. -/
theorem scanStep_text {atEnd : Bool} {c : Char} (other : c ≠ '<') (rest : Text) :
    scanStep atEnd none c rest = textStep atEnd (c :: rest) := by
  simp [scanStep, other]

/-- Outside of a raw element a less-than sign begins markup. -/
theorem scanStep_markup (atEnd : Bool) (rest : Text) :
    scanStep atEnd none '<' rest = markupStep atEnd rest := by
  simp [scanStep]

/-- Markup that is a token is given out, and a raw element begins behind it if it opens one. -/
theorem scanStep_token {rest behind : Text} {token : Token}
    (read : readMarkup rest = .token token behind) (atEnd : Bool) :
    scanStep atEnd none '<' rest = .forward [token] (rawElementAfter token) behind := by
  rw [scanStep_markup, markupStep, read]

/-- Markup that is no token is left out. -/
theorem scanStep_nothing {rest behind : Text} (read : readMarkup rest = .nothing behind)
    (atEnd : Bool) : scanStep atEnd none '<' rest = .forward [] none behind := by
  rw [scanStep_markup, markupStep, read]

/-- A less-than sign that begins no markup begins a text. -/
theorem scanStep_literal {rest : Text} (read : readMarkup rest = .literal) (atEnd : Bool) :
    scanStep atEnd none '<' rest =
      .forward (textToken ('<' :: rest.takeWhile (· ≠ '<'))) none (rest.dropWhile (· ≠ '<')) := by
  rw [scanStep_markup, markupStep, read]

/-- Markup that is not complete waits. -/
theorem scanStep_waiting {rest : Text} (read : readMarkup rest = .incomplete) :
    scanStep false none '<' rest = .stop [] ('<' :: rest) := by
  rw [scanStep_markup, markupStep, read]
  rfl

/-- Markup that is never completed is text. -/
theorem scanStep_unended {rest : Text} (read : readMarkup rest = .incomplete) :
    scanStep true none '<' rest = .stop (textToken ('<' :: rest)) [] := by
  rw [scanStep_markup, markupStep, read]
  rfl

/-- Text in front of a less-than sign is given out. -/
theorem scanStep_run {c : Char} {rest behind : Text} {d : Char} (other : c ≠ '<')
    (stop : (c :: rest).dropWhile (· ≠ '<') = d :: behind) (atEnd : Bool) :
    scanStep atEnd none c rest =
      .forward (textToken ((c :: rest).takeWhile (· ≠ '<'))) none (d :: behind) := by
  rw [scanStep_text other, textStep, stop]
  rfl

/-- Text at the end of a part is given out, less an unfinished reference. -/
theorem scanStep_settled {c : Char} {rest : Text} (other : c ≠ '<')
    (stop : (c :: rest).dropWhile (· ≠ '<') = []) :
    scanStep false none c rest =
      .stop (textToken (splitUnfinished (c :: rest)).1) (splitUnfinished (c :: rest)).2 := by
  rw [scanStep_text other, textStep, stop]
  rfl

/-- Text at the end of the input is given out. -/
theorem scanStep_last {c : Char} {rest : Text} (other : c ≠ '<')
    (stop : (c :: rest).dropWhile (· ≠ '<') = []) :
    scanStep true none c rest = .stop (textToken (c :: rest)) [] := by
  rw [scanStep_text other, textStep, stop]
  rfl

/-- A raw element goes up to its end tag. -/
theorem scanStep_raw {element : Text} {c : Char} {rest before found : Text}
    (cut : cutAtEndTag? element (c :: rest) = some (before, found)) (atEnd : Bool) :
    scanStep atEnd (some element) c rest = .forward (rawTextToken before) none found := by
  simp [scanStep, rawStep, cut]

/-- A raw element that does not end waits. -/
theorem scanStep_raw_waiting {element : Text} {c : Char} {rest : Text}
    (cut : cutAtEndTag? element (c :: rest) = none) :
    scanStep false (some element) c rest = .stop [] (c :: rest) := by
  simp [scanStep, rawStep, cut]

/-- A raw element that never ends is text. -/
theorem scanStep_raw_unended {element : Text} {c : Char} {rest : Text}
    (cut : cutAtEndTag? element (c :: rest) = none) :
    scanStep true (some element) c rest = .stop [.text (c :: rest)] [] := by
  simp [scanStep, rawStep, cut]

/-- What a step does, in each of the situations that it can find. -/
inductive StepCase : Bool → Option Text → Char → Text → ScanStep → Prop where
  | raw {atEnd : Bool} {element : Text} {c : Char} {rest before found : Text}
      (cut : cutAtEndTag? element (c :: rest) = some (before, found)) :
      StepCase atEnd (some element) c rest (.forward (rawTextToken before) none found)
  | rawWaiting {element : Text} {c : Char} {rest : Text}
      (cut : cutAtEndTag? element (c :: rest) = none) :
      StepCase false (some element) c rest (.stop [] (c :: rest))
  | rawUnended {element : Text} {c : Char} {rest : Text}
      (cut : cutAtEndTag? element (c :: rest) = none) :
      StepCase true (some element) c rest (.stop [.text (c :: rest)] [])
  | token {atEnd : Bool} {rest behind : Text} {token : Token}
      (read : readMarkup rest = .token token behind) :
      StepCase atEnd none '<' rest (.forward [token] (rawElementAfter token) behind)
  | nothing {atEnd : Bool} {rest behind : Text} (read : readMarkup rest = .nothing behind) :
      StepCase atEnd none '<' rest (.forward [] none behind)
  | literal {atEnd : Bool} {rest : Text} (read : readMarkup rest = .literal) :
      StepCase atEnd none '<' rest
        (.forward (textToken ('<' :: rest.takeWhile (· ≠ '<'))) none (rest.dropWhile (· ≠ '<')))
  | waiting {rest : Text} (read : readMarkup rest = .incomplete) :
      StepCase false none '<' rest (.stop [] ('<' :: rest))
  | unended {rest : Text} (read : readMarkup rest = .incomplete) :
      StepCase true none '<' rest (.stop (textToken ('<' :: rest)) [])
  | run {atEnd : Bool} {c d : Char} {rest behind : Text} (other : c ≠ '<')
      (stop : (c :: rest).dropWhile (· ≠ '<') = d :: behind) :
      StepCase atEnd none c rest
        (.forward (textToken ((c :: rest).takeWhile (· ≠ '<'))) none (d :: behind))
  | settled {c : Char} {rest : Text} (other : c ≠ '<')
      (stop : (c :: rest).dropWhile (· ≠ '<') = []) :
      StepCase false none c rest
        (.stop (textToken (splitUnfinished (c :: rest)).1) (splitUnfinished (c :: rest)).2)
  | last {c : Char} {rest : Text} (other : c ≠ '<')
      (stop : (c :: rest).dropWhile (· ≠ '<') = []) :
      StepCase true none c rest (.stop (textToken (c :: rest)) [])

/-- Every step is in one of these situations. -/
theorem stepCase (atEnd : Bool) (rawElement : Option Text) (c : Char) (rest : Text) :
    StepCase atEnd rawElement c rest (scanStep atEnd rawElement c rest) := by
  cases rawElement with
  | some element =>
    cases cut : cutAtEndTag? element (c :: rest) with
    | some parts =>
      rw [scanStep_raw cut]
      exact .raw cut
    | none =>
      cases atEnd with
      | true => rw [scanStep_raw_unended cut]; exact .rawUnended cut
      | false => rw [scanStep_raw_waiting cut]; exact .rawWaiting cut
  | none =>
    by_cases sign : c = '<'
    · subst sign
      cases read : readMarkup rest with
      | token token behind => rw [scanStep_token read]; exact .token read
      | nothing behind => rw [scanStep_nothing read]; exact .nothing read
      | literal => rw [scanStep_literal read]; exact .literal read
      | incomplete =>
        cases atEnd with
        | true => rw [scanStep_unended read]; exact .unended read
        | false => rw [scanStep_waiting read]; exact .waiting read
    · cases stop : (c :: rest).dropWhile (· ≠ '<') with
      | cons d behind => rw [scanStep_run sign stop]; exact .run sign stop
      | nil =>
        cases atEnd with
        | true => rw [scanStep_last sign stop]; exact .last sign stop
        | false => rw [scanStep_settled sign stop]; exact .settled sign stop

/-- Outside of raw elements a text goes up to the next less-than sign. -/
theorem tokensOf_run (text : Text) :
    tokensOf none text =
      textToken (text.takeWhile (· ≠ '<')) ++ tokensOf none (text.dropWhile (· ≠ '<')) := by
  cases text with
  | nil => simp
  | cons c rest =>
    by_cases sign : c = '<'
    · simp [sign]
    cases stop : (c :: rest).dropWhile (· ≠ '<') with
    | nil =>
      have whole : (c :: rest).takeWhile (· ≠ '<') = c :: rest := by
        have parts := List.takeWhile_append_dropWhile (p := (· ≠ '<')) (l := c :: rest)
        rw [stop] at parts
        simpa using parts
      rw [tokensOf_of_stop (scanStep_last sign stop), whole]
      simp
    | cons d behind => rw [tokensOf_of_forward (scanStep_run sign stop true)]

/-- A less-than sign that begins no markup begins a text, up to the next such sign. -/
theorem tokensOf_literal {rest : Text} (literal : readMarkup rest = .literal) :
    tokensOf none ('<' :: rest) =
      textToken ('<' :: rest.takeWhile (· ≠ '<')) ++
        tokensOf none (rest.dropWhile (· ≠ '<')) :=
  tokensOf_of_forward (scanStep_literal literal true)

/-! ## Raw elements -/

/-- Only the elements with raw text are open as such behind their start tags. -/
theorem mem_rawElements_of_rawElementAfter {token : Token} :
    ∀ element ∈ rawElementAfter token, element ∈ rawElements := by
  intro element member
  unfold rawElementAfter at member
  split at member
  · split at member
    · rename_i among
      obtain rfl := Option.some.inj member
      exact among
    · cases member
  · cases member

/-- The names of raw elements hold no greater-than sign. -/
theorem not_mem_of_rawElementAfter {token : Token} :
    ∀ element ∈ rawElementAfter token, '>' ∉ element := by
  have raw : ∀ element ∈ rawElements, '>' ∉ element := by decide
  exact fun element member => raw element (mem_rawElements_of_rawElementAfter element member)

/-- What is found of an end tag is long enough to hold its opening. -/
theorem cutAtEndTag?_spec {element text before found : Text}
    (cut : cutAtEndTag? element text = some (before, found)) :
    text = before ++ found ∧ ('<' :: '/' :: element).length ≤ found.length ∧
      ∃ rest, found = '<' :: rest := by
  induction text generalizing before with
  | nil => cases cut
  | cons c rest inductionHypothesis =>
    simp only [cutAtEndTag?] at cut
    split at cut
    · rename_i opening
      obtain ⟨rfl, rfl⟩ := Prod.mk.inj (Option.some.inj cut)
      have lengths := congrArg List.length opening
      have first : Text.asciiLower c = '<' := by
        simp only [List.length_cons, List.take_succ_cons, List.map_cons] at opening
        exact (List.cons.inj opening).1
      refine ⟨rfl, ?_, rest, ?_⟩
      · simp only [List.length_map, List.length_take] at lengths
        omega
      · rw [List.cons.injEq]
        exact ⟨Text.eq_of_asciiLower first (by decide), rfl⟩
    · obtain ⟨⟨front, back⟩, later, pair⟩ := Option.map_eq_some_iff.mp cut
      obtain ⟨rfl, rfl⟩ := Prod.mk.inj pair
      obtain ⟨rfl, long, begins⟩ := inductionHypothesis later
      exact ⟨rfl, long, begins⟩

/-- Whether a text goes on with the beginning of an element's end tag, in any case of its
letters. -/
def OpensEndTag (element text : Text) : Prop :=
  (text.take ('<' :: '/' :: element).length).map Text.asciiLower = '<' :: '/' :: element

/-- An end tag begins with a less-than sign and a slash. -/
theorem not_opensEndTag_of_ne {element : Text} {c : Char} {rest : Text} (other : c ≠ '<') :
    ¬ OpensEndTag element (c :: rest) := by
  intro opens
  have first : Text.asciiLower c = '<' := by
    simp only [OpensEndTag, List.length_cons, List.take_succ_cons, List.map_cons] at opens
    exact (List.cons.inj opens).1
  exact other (Text.eq_of_asciiLower first (by decide))

/-- What is found of an end tag is its beginning. -/
theorem opensEndTag_of_cutAtEndTag? {element text before found : Text}
    (cut : cutAtEndTag? element text = some (before, found)) : OpensEndTag element found := by
  induction text generalizing before with
  | nil => cases cut
  | cons c rest inductionHypothesis =>
    simp only [cutAtEndTag?] at cut
    split at cut
    · rename_i opening
      obtain ⟨rfl, rfl⟩ := Prod.mk.inj (Option.some.inj cut)
      exact opening
    · obtain ⟨⟨front, back⟩, later, pair⟩ := Option.map_eq_some_iff.mp cut
      obtain ⟨rfl, rfl⟩ := Prod.mk.inj pair
      exact inductionHypothesis later

/-- Text without a less-than sign in front of an end tag is all in front of it. -/
theorem cutAtEndTag?_of_run {element text found : Text} (run : '<' ∉ text)
    (opens : OpensEndTag element found) :
    cutAtEndTag? element (text ++ found) = some (text, found) := by
  induction text with
  | nil =>
    cases found with
    | nil => cases opens
    | cons c rest => exact if_pos opens
  | cons c text inductionHypothesis =>
    simp only [List.mem_cons, not_or] at run
    have later := inductionHypothesis run.2
    have other : ¬ OpensEndTag element (c :: (text ++ found)) :=
      not_opensEndTag_of_ne (Ne.symm run.1)
    rw [List.cons_append, cutAtEndTag?]
    exact (if_neg other).trans (by rw [later]; rfl)

/-- Where an end tag begins does not depend on what stands behind it. -/
theorem cutAtEndTag?_append {element text before found : Text}
    (cut : cutAtEndTag? element text = some (before, found)) (more : Text) :
    cutAtEndTag? element (text ++ more) = some (before, found ++ more) := by
  induction text generalizing before with
  | nil => cases cut
  | cons c rest inductionHypothesis =>
    have long : ('<' :: '/' :: element).length ≤ (c :: rest).length := by
      obtain ⟨parts, long, _⟩ := cutAtEndTag?_spec cut
      rw [parts, List.length_append]
      omega
    have same : (c :: (rest ++ more)).take ('<' :: '/' :: element).length =
        (c :: rest).take ('<' :: '/' :: element).length :=
      List.take_append_of_le_length long
    simp only [cutAtEndTag?] at cut
    simp only [List.cons_append, cutAtEndTag?, same]
    split at cut
    · rename_i opening
      obtain ⟨rfl, rfl⟩ := Prod.mk.inj (Option.some.inj cut)
      rw [if_pos opening, List.cons_append]
    · rename_i other
      obtain ⟨⟨front, back⟩, later, pair⟩ := Option.map_eq_some_iff.mp cut
      obtain ⟨rfl, rfl⟩ := Prod.mk.inj pair
      rw [if_neg other, inductionHypothesis later]
      rfl

/-! ## Cuts -/

/-- Text that comes to a less-than sign decides what spans the end of the text in front of
it. -/
theorem spansReference_takeWhile (before after : Text) :
    SpansReference before (after.takeWhile (· ≠ '<')) ↔ SpansReference before after := by
  constructor
  · rintro ⟨settled, front, back, behind, c, rfl, split, short, valid⟩
    refine ⟨settled, front, back, behind ++ after.dropWhile (· ≠ '<'), c, rfl, ?_, short, valid⟩
    rw [← List.cons_append, ← List.append_assoc, ← split, List.takeWhile_append_dropWhile]
  · rintro ⟨settled, front, back, behind, c, rfl, rfl, short, valid⟩
    have absent : '<' ∉ front ++ back := not_mem_of_reference? '<' valid (by decide)
    have kept : ∀ d ∈ back ++ [';'], (decide (d ≠ '<')) = true := by
      intro d member
      rw [decide_eq_true_eq]
      rintro rfl
      simp_all
    refine ⟨settled, front, back, behind.takeWhile (· ≠ '<'), c, rfl, ?_, short, valid⟩
    rw [show back ++ ';' :: behind = (back ++ [';']) ++ behind by simp,
      List.takeWhile_append_of_pos kept]
    simp

/-- Behind a greater-than sign and in front of a less-than sign no reference is open. -/
theorem spansReference_of_suffix {text behind more : Text}
    (suffix : '>' :: behind <:+ text ∨ ∃ rest, behind = '<' :: rest ∧ behind <:+ text) :
    SpansReference text more ↔ SpansReference behind more := by
  rcases suffix with ⟨front, rfl⟩ | ⟨rest, rfl, front, rfl⟩
  · exact spansReference_append_cons (by decide) (by decide) front behind more
  · rw [spansReference_append_cons (by decide) (by decide) front rest more]
    exact (spansReference_append_cons (by decide) (by decide) [] rest more).symm

/-- Where a text goes on behind what is in front of its first less-than sign, it goes on
with that sign. -/
theorem eq_less_of_dropWhile {text rest : Text} {c : Char}
    (stop : text.dropWhile (· ≠ '<') = c :: rest) : c = '<' ∧ c :: rest <:+ text := by
  have head := List.head?_dropWhile_not (· ≠ '<') text
  rw [stop] at head
  have suffix : text.dropWhile (· ≠ '<') <:+ text := List.dropWhile_suffix _
  rw [stop] at suffix
  exact ⟨by simpa using head, suffix⟩

/-- An unfinished reference at the end of a text begins with an ampersand. -/
theorem splitUnfinished_spec (text : Text) :
    text = (splitUnfinished text).1 ++ (splitUnfinished text).2 ∧
      ((splitUnfinished text).2 = [] ∨
        ∃ name, (splitUnfinished text).2 = '&' :: name) := by
  have parts : text =
      (text.reverse.dropWhile isReferenceChar).reverse ++
        (text.reverse.takeWhile isReferenceChar).reverse := by
    rw [← List.reverse_append, List.takeWhile_append_dropWhile, List.reverse_reverse]
  simp only [splitUnfinished]
  split
  · rename_i before stop
    split
    · rw [stop] at parts
      refine ⟨?_, .inr ⟨_, rfl⟩⟩
      simpa using parts
    · exact ⟨by simp, .inl rfl⟩
  · exact ⟨by simp, .inl rfl⟩

/-- Whether a text is empty or a reference that can still go on. -/
def IsUnfinished (text : Text) : Prop :=
  text = [] ∨ ∃ name, text = '&' :: name ∧ ∀ c ∈ name, isReferenceChar c = true

/-- What is held back of a text is a reference that can still be completed. -/
theorem isUnfinished_splitUnfinished (text : Text) : IsUnfinished (splitUnfinished text).2 := by
  simp only [splitUnfinished]
  split
  · split
    · refine .inr ⟨_, rfl, ?_⟩
      intro c member
      exact List.mem_takeWhile_imp (List.mem_reverse.mp member)
    · exact .inl rfl
  · exact .inl rfl

/-- A reference that can still be completed holds none but the characters of one. -/
theorem IsUnfinished.not_mem {text : Text} (unfinished : IsUnfinished text) {mark : Char}
    (foreign : isReferenceChar mark = false) (other : mark ≠ '&') : mark ∉ text := by
  rcases unfinished with rfl | ⟨name, rfl, kept⟩
  · simp
  · intro member
    rcases List.mem_cons.mp member with same | member
    · exact other same
    · rw [kept mark member] at foreign
      cases foreign

/-- The first step on a text gives a text, and something else comes next behind it. -/
def GivesText (c : Char) (rest text behind : Text) : Prop :=
  scanStep true none c rest = .forward (textToken text) none behind ∨
    behind = [] ∧ scanStep true none c rest = .stop (textToken text) []

/-- A step that gives out a text gives it in front of the tokens behind it. -/
theorem GivesText.tokensOf {c : Char} {rest text behind : Text}
    (gives : GivesText c rest text behind) :
    tokensOf none (c :: rest) = textToken text ++ tokensOf none behind := by
  rcases gives with step | ⟨rfl, step⟩
  · exact tokensOf_of_forward step
  · rw [tokensOf_of_stop step, tokensOf_nil, List.append_nil]

/-- What the first step on a text does when the text ends at a cut and goes on behind it. -/
inductive StepAtCut (rawElement : Option Text) (c : Char) (rest : Text) : Prop where
  /-- The step is the same with any text behind the cut. -/
  | forward (tokens : List Token) (rawElement' : Option Text) (behind : Text)
      (step : scanStep false rawElement c rest = .forward tokens rawElement' behind)
      (stepMore : ∀ more,
        scanStep true rawElement c (rest ++ more) = .forward tokens rawElement' (behind ++ more))
      (spans : ∀ more, SpansReference (c :: rest) more ↔ SpansReference behind more)
  /-- All of the text waits. -/
  | waiting (step : scanStep false rawElement c rest = .stop [] (c :: rest))
  /-- The text up to the cut is given out, less an unfinished reference; as a whole it goes
  on up to the first less-than sign behind the cut. -/
  | openText (settled unfinished : Text) (outside : rawElement = none)
      (scanned : scan false none (c :: rest) = (textToken settled, ⟨unfinished, none⟩))
      (parts : c :: rest = settled ++ unfinished)
      (reference : unfinished = [] ∨ ∃ name, unfinished = '&' :: name)
      (run : '<' ∉ unfinished)
      (onward : ∀ more, GivesText c (rest ++ more) (c :: rest ++ more.takeWhile (· ≠ '<'))
        (more.dropWhile (· ≠ '<')))

/-- A cut within a raw element falls into its text, or behind its end. -/
theorem stepAtCut_raw (element : Text) (c : Char) (rest : Text) :
    StepAtCut (some element) c rest := by
  cases cut : cutAtEndTag? element (c :: rest) with
  | none => exact .waiting (scanStep_raw_waiting cut)
  | some found =>
    obtain ⟨before, found⟩ := found
    obtain ⟨parts, _, inside, rfl⟩ := cutAtEndTag?_spec cut
    refine .forward (rawTextToken before) none ('<' :: inside) (scanStep_raw cut false) ?_ ?_
    · exact fun more => scanStep_raw (cutAtEndTag?_append cut more) true
    · intro more
      exact spansReference_of_suffix (.inr ⟨inside, rfl, before, parts.symm⟩)

/-- A text without a less-than sign goes on up to the first one behind it. -/
theorem takeWhile_append_of_notMem {text : Text} (run : '<' ∉ text) (more : Text) :
    (text ++ more).takeWhile (· ≠ '<') = text ++ more.takeWhile (· ≠ '<') ∧
      (text ++ more).dropWhile (· ≠ '<') = more.dropWhile (· ≠ '<') := by
  have kept : ∀ c ∈ text, decide (c ≠ '<') = true := by
    intro c member
    rw [decide_eq_true_eq]
    rintro rfl
    exact run member
  exact ⟨List.takeWhile_append_of_pos kept, List.dropWhile_append_of_pos kept⟩

/-- Text without a less-than sign is one token. -/
theorem tokensOf_of_notMem {text : Text} (run : '<' ∉ text) :
    tokensOf none text = textToken text := by
  have all := takeWhile_append_of_notMem run []
  simp only [List.append_nil, List.takeWhile_nil, List.dropWhile_nil] at all
  rw [tokensOf_run, all.1, all.2, tokensOf_nil, List.append_nil]

/-- A text that is all in front of its first less-than sign holds none. -/
theorem notMem_of_dropWhile_eq_nil {text : Text} (run : text.dropWhile (· ≠ '<') = []) :
    '<' ∉ text := by
  intro member
  have kept := List.dropWhile_eq_nil_iff.mp run '<' member
  simp at kept

/-- A less-than sign that begins no markup goes on as a text does, but keeps nothing at a cut. -/
theorem stepAtCut_literal {rest : Text} (read : readMarkup rest = .literal) :
    StepAtCut none '<' rest := by
  have literalMore : ∀ more, readMarkup (rest ++ more) = .literal := by
    intro more
    rw [readMarkup_append (by simp [read]) more, read]
    rfl
  cases stop : rest.dropWhile (· ≠ '<') with
  | nil =>
    refine .openText ('<' :: rest) [] rfl ?_ (by simp) (.inl rfl) (by simp) ?_
    · have step : scanStep false none '<' rest = .forward (textToken ('<' :: rest)) none [] := by
        rw [scanStep_literal read, stop]
        have run := (takeWhile_append_of_notMem (notMem_of_dropWhile_eq_nil stop) []).1
        simp only [List.append_nil, List.takeWhile_nil] at run
        rw [run]
      rw [scan_of_forward step, scan_nil, List.append_nil]
    · intro more
      obtain ⟨taken, left⟩ := takeWhile_append_of_notMem (notMem_of_dropWhile_eq_nil stop) more
      refine .inl ?_
      rw [scanStep_literal (literalMore more), taken, left, List.cons_append]
  | cons d behind =>
    obtain ⟨rfl, suffix⟩ := eq_less_of_dropWhile stop
    refine .forward (textToken ('<' :: rest.takeWhile (· ≠ '<'))) none ('<' :: behind)
      ?_ ?_ ?_
    · rw [scanStep_literal read, stop]
    · intro more
      rw [scanStep_literal (literalMore more), Text.dropWhile_append_of_stop stop more,
        Text.takeWhile_append_of_stop stop more, List.cons_append]
    · intro more
      exact spansReference_of_suffix
        (.inr ⟨behind, rfl, suffix.trans (List.suffix_cons _ _)⟩)

/-- A cut within markup makes it wait, unless the markup is complete or literal. -/
theorem stepAtCut_markup (rest : Text) : StepAtCut none '<' rest := by
  have ends := readMarkup_endsIn rest
  have complete : readMarkup rest ≠ .incomplete → ∀ more,
      readMarkup (rest ++ more) = (readMarkup rest).extend more := readMarkup_append
  cases read : readMarkup rest with
  | token token behind =>
    rw [read] at ends complete
    refine .forward [token] (rawElementAfter token) behind (scanStep_token read false) ?_ ?_
    · intro more
      exact scanStep_token (complete (by simp) more) true
    · intro more
      exact spansReference_of_suffix (.inl (List.IsSuffix.trans ends (List.suffix_cons _ _)))
  | nothing behind =>
    rw [read] at ends complete
    refine .forward [] none behind (scanStep_nothing read false) ?_ ?_
    · intro more
      exact scanStep_nothing (complete (by simp) more) true
    · intro more
      exact spansReference_of_suffix (.inl (List.IsSuffix.trans ends (List.suffix_cons _ _)))
  | literal => exact stepAtCut_literal read
  | incomplete => exact .waiting (scanStep_waiting read)

/-- A cut within a text holds back a reference that is not complete. -/
theorem stepAtCut_text {c : Char} (other : c ≠ '<') (rest : Text) : StepAtCut none c rest := by
  cases stop : (c :: rest).dropWhile (· ≠ '<') with
  | nil =>
    obtain ⟨parts, reference⟩ := splitUnfinished_spec (c :: rest)
    refine .openText (splitUnfinished (c :: rest)).1 (splitUnfinished (c :: rest)).2 rfl
      (scan_of_stop (scanStep_settled other stop)) parts reference ?_ ?_
    · intro member
      apply notMem_of_dropWhile_eq_nil stop
      rw [parts]
      exact List.mem_append_right _ member
    · intro more
      obtain ⟨taken, left⟩ := takeWhile_append_of_notMem (notMem_of_dropWhile_eq_nil stop) more
      rw [← left, ← taken, List.cons_append]
      cases stopMore : (c :: (rest ++ more)).dropWhile (· ≠ '<') with
      | nil =>
        have whole := List.takeWhile_append_dropWhile (p := (· ≠ '<')) (l := c :: (rest ++ more))
        rw [stopMore, List.append_nil] at whole
        exact .inr ⟨rfl, by rw [scanStep_last other stopMore, whole]⟩
      | cons d behind => exact .inl (scanStep_run other stopMore true)
  | cons d behind =>
    obtain ⟨rfl, suffix⟩ := eq_less_of_dropWhile stop
    refine .forward (textToken ((c :: rest).takeWhile (· ≠ '<'))) none ('<' :: behind)
      (scanStep_run other stop false) ?_ ?_
    · intro more
      have stopMore := Text.dropWhile_append_of_stop stop more
      have takenMore := Text.takeWhile_append_of_stop stop more
      rw [List.cons_append] at stopMore takenMore
      rw [scanStep_run other stopMore, takenMore, List.cons_append]
    · intro more
      exact spansReference_of_suffix (.inr ⟨behind, rfl, suffix⟩)

/-- A step at a cut goes on in the same way, waits, or is in an open text. -/
theorem stepAtCut (rawElement : Option Text) (c : Char) (rest : Text) :
    StepAtCut rawElement c rest := by
  cases rawElement with
  | some element => exact stepAtCut_raw element c rest
  | none =>
    by_cases sign : c = '<'
    · subst sign
      exact stepAtCut_markup rest
    · exact stepAtCut_text sign rest

/-- A feed and what comes later, compared with both at once: a reference is lost if nothing
is kept although it spans the cut. -/
theorem scan_cutLaw (rawElement : Option Text) (text more : Text) :
    CutLaw ((scan false rawElement text).2.pending = [] ∧ SpansReference text more)
      (tokensOf rawElement (text ++ more))
      ((scan false rawElement text).1 ++
        tokensOf (scan false rawElement text).2.rawElement
          ((scan false rawElement text).2.pending ++ more)) := by
  -- A step can leave the text as it is and only leave a raw element, so that the induction is
  -- on the measure of the steps and not on the text.
  induction size : scanMeasure rawElement text using Nat.strong_induction_on
      generalizing rawElement text with
  | _ size inductionHypothesis =>
    subst size
    cases text with
    | nil =>
      have apart : ¬ SpansReference [] more := by
        rintro ⟨settled, front, _, _, _, impossible, _⟩
        simp at impossible
      simpa using (CutLaw.refl (tokensOf rawElement more)).congr (by simp [apart])
    | cons c rest =>
      cases stepAtCut rawElement c rest with
      | forward tokens rawElement' behind step stepMore spans =>
        have later := inductionHypothesis _ (scanStep_measure step) rawElement' behind rfl
        rw [scan_of_forward step, List.cons_append, tokensOf_of_forward (stepMore more),
          List.append_assoc]
        exact (later.append_left tokens).congr (and_congr_right fun _ => (spans more).symm)
      | waiting step =>
        rw [scan_of_stop step]
        exact (CutLaw.refl _).congr (by simp)
      | openText settled unfinished outside scanned parts reference run onward =>
        subst outside
        obtain ⟨taken, left⟩ := takeWhile_append_of_notMem run more
        rw [scanned, List.cons_append, (onward more).tokensOf, parts,
          tokensOf_run (unfinished ++ more), taken, left, List.append_assoc]
        refine (CutLaw.textToken settled _ _).congr ?_
        rcases reference with rfl | ⟨name, rfl⟩
        · rw [List.nil_append, List.append_nil, spansReference_takeWhile]
          simp
        · simp [not_spansReference_ampersand]

/-! ## All parts of an input -/

namespace Tokenizer

/-- All tokens of an input that arrives in parts from here on. -/
def tokensOfParts (tokenizer : Tokenizer) (parts : List Text) : List Token :=
  (tokenizer.feedAll parts).1.flatten ++ (tokenizer.feedAll parts).2.close.1

/-- Without further parts the tokens are those of the text that is kept. -/
theorem tokensOfParts_nil (tokenizer : Tokenizer) :
    tokenizer.tokensOfParts [] = tokensOf tokenizer.rawElement tokenizer.pending := by
  rfl

/-- The tokens of the first part come before those of the others. -/
theorem tokensOfParts_cons (tokenizer : Tokenizer) (part : Text) (parts : List Text) :
    tokenizer.tokensOfParts (part :: parts) =
      (tokenizer.feed part).1 ++ (tokenizer.feed part).2.tokensOfParts parts := by
  simp [tokensOfParts, feedAll]

/-- Whether some part ends within a reference although the tokenizer keeps nothing behind
it: the reference begins in the text that the tokenizer has at that time, and ends in the
parts that are still to come. -/
def CutsReference (tokenizer : Tokenizer) : List Text → Prop
  | [] => False
  | part :: parts =>
    ((tokenizer.feed part).2.pending = [] ∧
      SpansReference (tokenizer.pending ++ part) parts.flatten) ∨
    (tokenizer.feed part).2.CutsReference parts

/-- The tokens of all parts, compared with those of the whole. -/
theorem tokensOfParts_cutLaw (tokenizer : Tokenizer) (parts : List Text) :
    CutLaw (tokenizer.CutsReference parts)
      (tokensOf tokenizer.rawElement (tokenizer.pending ++ parts.flatten))
      (tokenizer.tokensOfParts parts) := by
  induction parts generalizing tokenizer with
  | nil =>
    rw [tokensOfParts_nil, List.flatten_nil, List.append_nil]
    exact CutLaw.refl _
  | cons part parts inductionHypothesis =>
    rw [tokensOfParts_cons, List.flatten_cons, ← List.append_assoc]
    have first := scan_cutLaw tokenizer.rawElement (tokenizer.pending ++ part) parts.flatten
    have later := inductionHypothesis (tokenizer.feed part).2
    exact first.trans (later.append_left _)

end Tokenizer

/-- An input is tokenized from the tokenizer that has seen nothing. -/
theorem tokenize_eq (parts : List Text) :
    tokenize parts = ({} : Tokenizer).tokensOfParts parts := rfl

/-- Up to joining, an input in one part has the tokens of a text behind which the input
ends. -/
theorem joinTexts_tokenize_singleton (text : Text) :
    joinTexts (tokenize [text]) = joinTexts (tokensOf none text) := by
  have whole := Tokenizer.tokensOfParts_cutLaw {} [text]
  have apart : ¬ ({} : Tokenizer).CutsReference [text] := by
    rintro (⟨_, _, _, back, _, _, _, impossible, _⟩ | impossible)
    · simp at impossible
    · exact impossible
  have same := whole.same apart
  simp only [List.flatten_singleton, List.nil_append] at same
  rw [tokenize_eq, same]

/-- An input in parts has the same tokens as the input in one part, up to joining
neighbouring texts, exactly if no part ends within a reference of which the tokenizer keeps
nothing. -/
theorem joinTexts_tokenize_eq_iff (parts : List Text) :
    joinTexts (tokenize parts) = joinTexts (tokenize [parts.flatten]) ↔
      ¬ ({} : Tokenizer).CutsReference parts := by
  have law := Tokenizer.tokensOfParts_cutLaw {} parts
  rw [List.nil_append] at law
  rw [joinTexts_tokenize_singleton, tokenize_eq, ← law.same_iff]
  exact eq_comm

/-- Behind a literal less-than sign nothing is kept, not even an unfinished reference. -/
theorem joinTexts_tokenize_behind_literal :
    joinTexts (tokenize ["< &am".toList, "p;".toList]) ≠
      joinTexts (tokenize [["< &am".toList, "p;".toList].flatten]) := by
  decide +kernel

end HtmlTemplate.Markup
