import HtmlTemplate.Markup.Tag

/-!
# Tokens from text that arrives in parts

A `Tokenizer` is fed text in parts of any size and returns the tokens that are complete
so far. What is cut off at the end of a part waits for the next one, and `close` turns
whatever still waits into text. Between the tags of a script or a style the text is
taken as it stands, up to the end tag of that element.
-/

namespace HtmlTemplate.Markup

/-- What a tokenizer keeps between two parts of its input. -/
structure Tokenizer where
  /-- Text that gives no token yet. -/
  pending : Text := []
  /-- The element whose text is taken as it stands, if one is open. -/
  rawElement : Option Text := none
deriving DecidableEq, Repr

/-- The names of the elements whose text is taken as it stands. -/
def rawElements : List Text :=
  ["script".toList, "style".toList]

/-- The token of a text, with its character references decoded; an empty text gives
none. -/
def textToken (text : Text) : List Token :=
  if text.isEmpty then [] else [.text (decodeReferences text)]

/-- The token of a text that is taken as it stands; an empty text gives none. -/
def rawTextToken (text : Text) : List Token :=
  if text.isEmpty then [] else [.text text]

/-- Whether a character can stand in an unfinished character reference. -/
def isReferenceChar (c : Char) : Bool :=
  Text.isAsciiLetter c || Text.isAsciiDigit c || c = '#'

/-- A text in two parts: what is settled, and an unfinished character reference at its
end, if it has one. -/
def splitUnfinished (text : Text) : Text × Text :=
  let reversed := text.reverse
  let tail := reversed.takeWhile isReferenceChar
  match reversed.dropWhile isReferenceChar with
  | '&' :: before =>
    if tail.length ≤ referenceLength then (before.reverse, '&' :: tail.reverse)
    else (text, [])
  | _ => (text, [])

/-- A text in two parts at the first place where an end tag of the element begins, in
any case of its letters. -/
def cutAtEndTag? (element : Text) : Text → Option (Text × Text)
  | [] => none
  | c :: rest =>
    let opening := '<' :: '/' :: element
    if ((c :: rest).take opening.length).map Text.asciiLower = opening then
      some ([], c :: rest)
    else (cutAtEndTag? element rest).map fun (before, found) => (c :: before, found)

/-- The text from an end tag on is not longer than the whole. -/
theorem cutAtEndTag?_length {element text before found : Text}
    (cut : cutAtEndTag? element text = some (before, found)) :
    found.length ≤ text.length := by
  induction text generalizing before with
  | nil => simp [cutAtEndTag?] at cut
  | cons c rest ih =>
    simp only [cutAtEndTag?] at cut
    split at cut
    · obtain ⟨_, rfl⟩ := Prod.mk.inj (Option.some.inj cut)
      simp
    · obtain ⟨⟨before', found'⟩, cut', pair⟩ := Option.map_eq_some_iff.mp cut
      simp only [Prod.mk.injEq] at pair
      obtain ⟨_, rfl⟩ := pair
      have := ih cut'
      simp only [List.length_cons]
      omega

/-- The element whose text is taken as it stands behind a token. -/
def rawElementAfter : Token → Option Text
  | .startTag name _ false => if name ∈ rawElements then some name else none
  | _ => none

/-- What one step of a tokenizer gives. -/
inductive ScanStep where
  /-- Some tokens, and the text to go on with, in or out of a raw element. -/
  | forward (tokens : List Token) (rawElement : Option Text) (behind : Text)
  /-- Some last tokens, and the text that has to wait. -/
  | stop (tokens : List Token) (pending : Text)
deriving DecidableEq, Repr

/-- A step inside a raw element: up to its end tag, or, at the end of the input, all of
the text. -/
def rawStep (atEnd : Bool) (element text : Text) : ScanStep :=
  match cutAtEndTag? element text with
  | some (before, found) => .forward (rawTextToken before) none found
  | none => if atEnd then .stop [.text text] [] else .stop [] text

/-- A step outside of raw elements, at a less-than sign with `rest` behind it. A sign
that begins no markup is the first character of a text. -/
def markupStep (atEnd : Bool) (rest : Text) : ScanStep :=
  match readMarkup rest with
  | .token token behind => .forward [token] (rawElementAfter token) behind
  | .nothing behind => .forward [] none behind
  | .literal =>
    .forward (textToken ('<' :: rest.takeWhile (· ≠ '<'))) none (rest.dropWhile (· ≠ '<'))
  | .incomplete =>
    if atEnd then .stop (textToken ('<' :: rest)) [] else .stop [] ('<' :: rest)

/-- A step outside of raw elements, at any other character: up to the next less-than
sign. If there is none, an unfinished character reference waits. -/
def textStep (atEnd : Bool) (text : Text) : ScanStep :=
  let behind := text.dropWhile (· ≠ '<')
  if behind.isEmpty then
    if atEnd then .stop (textToken text) []
    else
      let (settled, unfinished) := splitUnfinished text
      .stop (textToken settled) unfinished
  else .forward (textToken (text.takeWhile (· ≠ '<'))) none behind

/-- One step of a tokenizer on a text that is not empty. -/
def scanStep (atEnd : Bool) (rawElement : Option Text) (c : Char) (rest : Text) : ScanStep :=
  match rawElement with
  | some element => rawStep atEnd element (c :: rest)
  | none => if c = '<' then markupStep atEnd rest else textStep atEnd (c :: rest)

/-- How much is left to do: leaving a raw element counts, and every character twice. -/
def scanMeasure (rawElement : Option Text) (text : Text) : Nat :=
  2 * text.length + (if rawElement.isSome then 1 else 0)

/-- Every step forward leaves less to do. -/
theorem scanStep_measure {atEnd : Bool} {raw raw' : Option Text} {c : Char} {rest : Text}
    {tokens : List Token} {behind : Text}
    (step : scanStep atEnd raw c rest = .forward tokens raw' behind) :
    scanMeasure raw' behind < scanMeasure raw (c :: rest) := by
  have flag (element : Option Text) : (if element.isSome then 1 else 0) ≤ 1 := by
    split <;> omega
  simp only [scanMeasure, List.length_cons]
  cases raw with
  | some element =>
    simp only [scanStep, rawStep] at step
    split at step
    · rename_i cut
      have := cutAtEndTag?_length cut
      simp only [ScanStep.forward.injEq] at step
      obtain ⟨_, rfl, rfl⟩ := step
      simp only [List.length_cons] at this
      simp only [Option.isSome_none, Option.isSome_some]
      simp
      omega
    · split at step <;> simp at step
  | none =>
    have := flag raw'
    simp only [scanStep] at step
    split at step
    · have within := readMarkup_within rest
      simp only [markupStep] at step
      split at step
      · rename_i read
        simp only [read, Reading.Within] at within
        simp only [ScanStep.forward.injEq] at step
        obtain ⟨_, _, rfl⟩ := step
        omega
      · rename_i read
        simp only [read, Reading.Within] at within
        simp only [ScanStep.forward.injEq] at step
        obtain ⟨_, _, rfl⟩ := step
        omega
      · have := dropWhile_length_le (· ≠ '<') rest
        simp only [ScanStep.forward.injEq] at step
        obtain ⟨_, _, rfl⟩ := step
        omega
      · split at step <;> simp at step
    · rename_i other
      simp only [textStep] at step
      split at step
      · split at step <;> simp at step
      · have := dropWhile_length_le (· ≠ '<') rest
        simp only [ScanStep.forward.injEq] at step
        obtain ⟨_, _, rfl⟩ := step
        simp only [List.dropWhile_cons, other, ne_eq, not_false_eq_true, decide_true,
          if_true] at *
        omega

/-- All tokens of a text, and what is kept behind them. -/
def scan (atEnd : Bool) (rawElement : Option Text) (text : Text) : List Token × Tokenizer :=
  match text with
  | [] => ([], ⟨[], rawElement⟩)
  | c :: rest =>
    match step : scanStep atEnd rawElement c rest with
    | .stop tokens pending => (tokens, ⟨pending, rawElement⟩)
    | .forward tokens rawElement' behind =>
      have := scanStep_measure step
      let (more, tokenizer) := scan atEnd rawElement' behind
      (tokens ++ more, tokenizer)
termination_by scanMeasure rawElement text

namespace Tokenizer

/-- The tokens that a further part of the input completes. -/
def feed (tokenizer : Tokenizer) (part : Text) : List Token × Tokenizer :=
  scan false tokenizer.rawElement (tokenizer.pending ++ part)

/-- The tokens of what still waits, now that the input has ended. -/
def close (tokenizer : Tokenizer) : List Token × Tokenizer :=
  scan true tokenizer.rawElement tokenizer.pending

/-- The tokens that each of some parts completes, one part after the other. -/
def feedAll (tokenizer : Tokenizer) : List Text → List (List Token) × Tokenizer
  | [] => ([], tokenizer)
  | part :: parts =>
    let (tokens, tokenizer) := tokenizer.feed part
    let (more, tokenizer) := tokenizer.feedAll parts
    (tokens :: more, tokenizer)

end Tokenizer

/-- All tokens of an input that arrives in parts. -/
def tokenize (parts : List Text) : List Token :=
  let (tokens, tokenizer) := ({} : Tokenizer).feedAll parts
  tokens.flatten ++ tokenizer.close.1

end HtmlTemplate.Markup
