import HtmlTemplate.Proofs.Building
import HtmlTemplate.Proofs.Parts

/-!
# The end of the input

What a tokenizer lets wait between two parts of its input is of one of three kinds
(`Tokenizer.Waits`): the text of a raw element without its end tag, markup that is not complete, or
a character reference that can still go on. When the input ends, all of it becomes one text
(`Tokenizer.Waits.close_eq`). So no closing tag comes to light that late, and of all faults in the
structure only an element that stays open and an empty skeleton are found at the end
(`close_feedAll`).
-/

namespace HtmlTemplate

namespace Markup.Tokenizer

/-- What a tokenizer keeps gives no token yet, in each of the situations that can be. -/
inductive Waits : Tokenizer → Prop where
  | nothing (rawElement : Option Text) : Waits ⟨[], rawElement⟩
  /-- A raw element has not come to its end tag. -/
  | raw {element text : Text} (unended : cutAtEndTag? element text = none) :
      Waits ⟨text, some element⟩
  /-- A tag, a comment or a declaration is not complete. -/
  | markup {rest : Text} (read : readMarkup rest = .incomplete) : Waits ⟨'<' :: rest, none⟩
  /-- A character reference can still go on. -/
  | reference {text : Text} (unfinished : IsUnfinished text) : Waits ⟨text, none⟩

/-- Whatever is scanned, what is left behind the tokens waits. -/
theorem waits_scan (rawElement : Option Text) (text : Text) :
    (scan false rawElement text).2.Waits := by
  induction size : scanMeasure rawElement text using Nat.strong_induction_on
      generalizing rawElement text with
  | _ size inductionHypothesis =>
    subst size
    rcases text with _ | ⟨c, rest⟩
    · rw [scan_nil]
      exact .nothing rawElement
    cases step : scanStep false rawElement c rest with
    | forward tokens rawElement' behind =>
      rw [scan_of_forward step]
      exact inductionHypothesis _ (scanStep_measure step) rawElement' behind rfl
    | stop tokens pending =>
      have case := stepCase false rawElement c rest
      rw [step] at case
      rw [scan_of_stop step]
      cases case with
      | rawWaiting cut => exact .raw cut
      | waiting read => exact .markup read
      | settled => exact .reference (isUnfinished_splitUnfinished _)

theorem waits_feed (tokenizer : Tokenizer) (part : Text) : (tokenizer.feed part).2.Waits :=
  waits_scan _ _

theorem Waits.feedAll {tokenizer : Tokenizer} (waits : tokenizer.Waits) (parts : List Text) :
    (tokenizer.feedAll parts).2.Waits := by
  induction parts generalizing tokenizer with
  | nil => exact waits
  | cons part parts inductionHypothesis => exact inductionHypothesis (tokenizer.waits_feed part)

/-- The text that what a tokenizer keeps stands for: in a raw element it is taken as it is. -/
def leftText (tokenizer : Tokenizer) : Text :=
  if tokenizer.rawElement.isSome then tokenizer.pending else decodeReferences tokenizer.pending

/-- The one token of what a tokenizer keeps, if it keeps anything. -/
def leftover (tokenizer : Tokenizer) : List Token :=
  if tokenizer.pending = [] then [] else [.text tokenizer.leftText]

theorem leftover_cases (tokenizer : Tokenizer) :
    tokenizer.leftover = [] ∨ ∃ content, tokenizer.leftover = [.text content] := by
  unfold leftover
  split
  · exact .inl rfl
  · exact .inr ⟨_, rfl⟩

/-- At the end of the input all that waits becomes one text, and nothing waits any longer. -/
theorem Waits.close_eq {tokenizer : Tokenizer} (waits : tokenizer.Waits) :
    tokenizer.close = (tokenizer.leftover, { tokenizer with pending := [] }) := by
  cases waits with
  | nothing rawElement => simp [close, leftover]
  | @raw element text unended =>
    cases text with
    | nil => simp [close, leftover]
    | cons c rest => simp [close, leftover, leftText, scan_of_stop (scanStep_raw_unended unended)]
  | @markup rest read =>
    simp [close, leftover, leftText, scan_of_stop (scanStep_unended read), textToken]
  | @reference text unfinished =>
    cases text with
    | nil => simp [close, leftover]
    | cons c rest =>
      have run : '<' ∉ c :: rest := unfinished.not_mem (by decide) (by decide)
      have other : c ≠ '<' := fun same => run (by simp [same])
      have stop : (c :: rest).dropWhile (· ≠ '<') = [] := by
        have behind := (takeWhile_append_of_notMem run []).2
        rwa [List.append_nil] at behind
      simp [close, leftover, leftText, scan_of_stop (scanStep_last other stop), textToken]

end Markup.Tokenizer

namespace Skeleton

namespace Builder

variable {builder : Builder}

/-- The builder behind some more items, all of which are fed, those behind a fault as well. -/
def feedEach (builder : Builder) (items : List Item) : Builder :=
  items.foldl (fun builder item => (builder.feed item).2) builder

/-- A fault in an item does not keep its text from the tokenizer. -/
theorem tokenizer_feed (builder : Builder) (item : Item) :
    (builder.feed item).2.tokenizer =
      (builder.tokenizer.feed (marked builder.index item)).2 := by
  rw [feed_eq, (sameInput_handleAll _ _ _).tokenizer]
  rfl

theorem waits_feedEach (waits : builder.tokenizer.Waits) (items : List Item) :
    (builder.feedEach items).tokenizer.Waits := by
  induction items generalizing builder with
  | nil => exact waits
  | cons item items inductionHypothesis =>
    refine @inductionHypothesis (builder.feed item).2 ?_
    rw [tokenizer_feed]
    exact Markup.Tokenizer.waits_feed _ _

/-- The tokens of what waits are handled without a fault. -/
theorem handleAll_leftover (builder : Builder) (item : Nat) (tokenizer : Markup.Tokenizer) :
    ∃ last, builder.handleAll item tokenizer.leftover = (.ok (), last) := by
  rcases tokenizer.leftover_cases with nothing | ⟨content, text⟩
  · exact ⟨builder, by rw [nothing]; rfl⟩
  · exact ⟨builder.append (.text content), by rw [text]; rfl⟩

/-- A builder with nothing but waiting text left fails because an element is open or because there
is no part at all. -/
theorem of_result_eq_error (waits : builder.tokenizer.Waits) {error : Error}
    (failed : builder.result = .error error) :
    error = .empty ∨ ∃ name item, error = .unclosedTag name item := by
  obtain ⟨last, handled⟩ := builder.handleAll_leftover (builder.index - 1) builder.tokenizer
  have ended :
      builder.handleAll (builder.index - 1) builder.tokenizer.close.1 = (.ok (), last) := by
    rw [waits.close_eq, handled]
  cases inside : last.opened with
  | cons element outer =>
    rw [result_of_opened ended inside] at failed
    exact .inr ⟨_, _, (Except.error.inj failed).symm⟩
  | nil =>
    rw [result_of_closed ended inside] at failed
    split at failed
    · exact .inl (Except.error.inj failed).symm
    · cases failed

end Builder

/-- Behind any parts of an input, its end gives one text at most, which is all that waited, and
nothing waits any longer. So behind any items, those with faults included, the result is no fault in
a closing tag: it fails only because an element is open or because there is no part at all. -/
theorem close_feedAll :
    (∀ parts : List Text,
      let fed := (({} : Markup.Tokenizer).feedAll parts).2
      (fed.close.1 = [] ∨ ∃ content, fed.close.1 = [.text content]) ∧
        fed.close = (fed.leftover, { fed with pending := [] })) ∧
      ∀ items error, (Builder.feedEach {} items).result = .error error →
        error = .empty ∨ ∃ name item, error = .unclosedTag name item := by
  have start : ({} : Markup.Tokenizer).Waits := .nothing none
  constructor
  · intro parts fed
    have closed := (start.feedAll parts).close_eq
    refine ⟨?_, closed⟩
    rw [closed]
    exact fed.leftover_cases
  · intro items error failed
    exact Builder.of_result_eq_error (Builder.waits_feedEach start items) failed

end Skeleton

end HtmlTemplate
