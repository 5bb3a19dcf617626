import HtmlTemplate.Proofs.Building
import HtmlTemplate.Proofs.Literal
import HtmlTemplate.Proofs.Parts

/-!
# Skeletons of literal text

Without less-than signs a template has a skeleton of texts only (`ofItems_itemsOf`). A text ends
in front of a character reference that could still go on, and such a reference goes with the
marker behind it. Together the texts give what the chunks and the markers between them give
(`flatMap_textsOf`), as if no chunk had been taken apart.
-/

namespace HtmlTemplate

namespace Markup

/-! ## Text that is fed in parts -/

/-- Nothing waits behind a dollar sign with letters and digits behind it. -/
theorem splitUnfinished_of_dollar {tail : Text} (kept : ∀ c ∈ tail, isReferenceChar c = true)
    (front : Text) :
    splitUnfinished (front ++ '$' :: tail) = (front ++ '$' :: tail, []) := by
  have left : (front ++ '$' :: tail).reverse.dropWhile isReferenceChar = '$' :: front.reverse := by
    have sign : isReferenceChar '$' = false := by decide
    rw [List.reverse_append, List.reverse_cons, List.append_assoc,
      List.dropWhile_append_of_pos (by simpa using kept)]
    simp [sign]
  simp only [splitUnfinished, left]
  rfl

/-- The texts that a tokenizer gives for a text without less-than signs: one, unless the text
is empty. -/
def writtenText (text : Text) : List Text :=
  if text.isEmpty then [] else [decodeReferences text]

theorem writtenText_eq_nil_iff {text : Text} : writtenText text = [] ↔ text = [] := by
  simp [writtenText]

theorem textToken_eq_map (text : Text) : textToken text = (writtenText text).map .text := by
  unfold textToken writtenText
  split <;> rfl

/-- Feeding text without less-than signs gives all of it, less an unfinished reference. -/
theorem Tokenizer.feed_run {pending part : Text} (run : '<' ∉ pending ++ part) :
    ({ pending } : Tokenizer).feed part =
      ((writtenText (splitUnfinished (pending ++ part)).1).map .text,
        { pending := (splitUnfinished (pending ++ part)).2 }) := by
  simp only [Tokenizer.feed]
  cases whole : pending ++ part with
  | nil =>
    rw [scan_nil]
    rfl
  | cons c rest =>
    rw [whole] at run
    have other : c ≠ '<' := fun same => run (by simp [same])
    have stop : (c :: rest).dropWhile (· ≠ '<') = [] := by
      have all := (takeWhile_append_of_notMem run []).2
      rwa [List.append_nil] at all
    have step : scanStep false none c rest =
        .stop (textToken (splitUnfinished (c :: rest)).1) (splitUnfinished (c :: rest)).2 := by
      rw [scanStep_text other, textStep, stop]
      rfl
    rw [scan_of_stop step, textToken_eq_map]

/-- Closing behind such text gives what still waits. -/
theorem Tokenizer.close_run {pending : Text} (run : '<' ∉ pending) :
    ({ pending } : Tokenizer).close.1 = (writtenText pending).map .text := by
  have all := takeWhile_append_of_notMem run []
  simp only [List.append_nil, List.takeWhile_nil, List.dropWhile_nil] at all
  have tokens := tokensOf_run pending
  rw [all.1, all.2, tokensOf_nil, List.append_nil, textToken_eq_map] at tokens
  exact tokens

end Markup

namespace Skeleton

open Markup

/-! ## The skeleton of literal text -/

/-- The part of a chunk that goes into the skeleton when the chunk is fed. -/
def settledPart (chunk : Chunk) : Text :=
  (splitUnfinished (protect chunk.decoded)).1

/-- The part of a chunk that waits for what comes behind. -/
def waitingPart (chunk : Chunk) : Text :=
  (splitUnfinished (protect chunk.decoded)).2

theorem isUnfinished_waitingPart (chunk : Chunk) : IsUnfinished (waitingPart chunk) :=
  isUnfinished_splitUnfinished _

/-- The texts of a skeleton that interpolations from an index on and the chunks behind them
give, with some text waiting in front. -/
def textsFrom (index : Nat) (waiting : Text) : List Chunk → List Text
  | [] => writtenText waiting
  | chunk :: chunks =>
    (waiting ++ marker index) ::
      (writtenText (settledPart chunk) ++ textsFrom (index + 2) (waitingPart chunk) chunks)

/-- The texts of the skeleton of literal text with interpolations in it. -/
def textsOf (first : Chunk) (chunks : List Chunk) : List Text :=
  writtenText (settledPart first) ++ textsFrom 1 (waitingPart first) chunks

/-- An interpolation and the chunk behind it as items, one place behind the other. -/
def itemsOf (rest : List (Interpolation × Chunk)) : List Item :=
  rest.flatMap fun (interpolation, chunk) => [.interpolation interpolation, .text chunk]

theorem itemsOf_cons (interpolation : Interpolation) (chunk : Chunk)
    (rest : List (Interpolation × Chunk)) :
    itemsOf ((interpolation, chunk) :: rest) =
      .interpolation interpolation :: .text chunk :: itemsOf rest := rfl

theorem not_mem_protect {mark : Char} {text : Text} (absent : mark ∉ text) (other : mark ≠ '$') :
    mark ∉ protect text := by
  intro member
  obtain ⟨c, within, among⟩ := List.mem_flatMap.mp member
  split at among
  · simp at among
    exact other among
  · rw [List.mem_singleton] at among
    exact absent (among ▸ within)

theorem not_mem_marker {mark : Char} (digit : Text.isAsciiDigit mark = false)
    (other : mark ∉ ['x', '$']) (index : Nat) : mark ∉ marker index := by
  simp only [List.mem_cons, List.not_mem_nil, or_false, not_or] at other
  simp only [marker, List.cons_append, List.mem_cons, List.mem_append, List.not_mem_nil, or_false,
    not_or]
  refine ⟨other.1, other.2, ?_, other.1⟩
  intro member
  rw [Decimal.isAsciiDigit_of_mem_natural index mark member] at digit
  cases digit

/-- Nothing waits behind a marker. -/
theorem splitUnfinished_marker (waiting : Text) (index : Nat) :
    splitUnfinished (waiting ++ marker index) = (waiting ++ marker index, []) := by
  have kept : ∀ c ∈ Decimal.natural index ++ ['x'], isReferenceChar c = true := by
    intro c member
    rcases List.mem_append.mp member with digit | letter
    · simp [isReferenceChar, Decimal.isAsciiDigit_of_mem_natural index c digit]
    · obtain rfl := List.mem_singleton.mp letter
      decide
  have split := splitUnfinished_of_dollar kept (waiting ++ ['x'])
  simpa [marker] using split

/-- A marker and what waits in front of it are one text, in which nothing is decoded. -/
theorem writtenText_marker {waiting : Text} (unfinished : IsUnfinished waiting) (index : Nat) :
    writtenText (waiting ++ marker index) = [waiting ++ marker index] := by
  have unended : ';' ∉ waiting ++ marker index := by
    rw [List.mem_append, not_or]
    exact ⟨unfinished.not_mem (by decide) (by decide), not_mem_marker (by decide) (by decide) _⟩
  rw [writtenText, if_neg (by simp [marker]), decodeReferences_eq_self_of_unended unended]

namespace Builder

/-- Feeding an item without less-than signs outside of all elements adds texts. -/
theorem feed_run {builder : Builder} {waiting : Text} (outside : builder.opened = [])
    (waits : builder.tokenizer = { pending := waiting }) (item : Item)
    (run : '<' ∉ waiting ++ marked builder.index item) :
    builder.feed item =
      (.ok (),
        { tokenizer := { pending := (splitUnfinished (waiting ++ marked builder.index item)).2 }
          opened := []
          roots := builder.roots ++
            (writtenText (splitUnfinished (waiting ++ marked builder.index item)).1).map .text
          index := builder.index + 1
          exprs := builder.exprsWith item }) := by
  simp only [feed, waits, Tokenizer.feed_run run]
  rw [handleAll_texts, appendAll_roots]
  · rw [outside]
    rfl
  · exact outside

/-- A builder to which interpolations and chunks without less-than signs are fed comes to hold
their texts, less what still waits. -/
theorem feedAll_itemsOf {builder : Builder} {waiting : Text} (outside : builder.opened = [])
    (waits : builder.tokenizer = { pending := waiting }) (unfinished : IsUnfinished waiting)
    {rest : List (Interpolation × Chunk)} (run : ∀ chunk ∈ rest.map Prod.snd, '<' ∉ chunk.decoded) :
    ∃ built last, builder.feedAll (itemsOf rest) = .ok built ∧ built.opened = [] ∧
      built.tokenizer = { pending := last } ∧ '<' ∉ last ∧
      built.roots ++ (writtenText last).map .text =
        builder.roots ++ (textsFrom builder.index waiting (rest.map Prod.snd)).map .text := by
  induction rest generalizing builder waiting with
  | nil =>
    exact ⟨builder, waiting, rfl, outside, waits, unfinished.not_mem (by decide) (by decide), rfl⟩
  | cons place rest inductionHypothesis =>
    obtain ⟨interpolation, chunk⟩ := place
    have runMarker : '<' ∉ waiting ++ marker builder.index := by
      rw [List.mem_append, not_or]
      exact ⟨unfinished.not_mem (by decide) (by decide),
        not_mem_marker (by decide) (by decide) _⟩
    have runChunk : '<' ∉ [] ++ protect chunk.decoded :=
      not_mem_protect (run chunk (by simp)) (by decide)
    let behindMarker : Builder :=
      { tokenizer := {}
        roots := builder.roots ++ [.text (waiting ++ marker builder.index)]
        index := builder.index + 1
        exprs := builder.exprsWith (.interpolation interpolation) }
    let behindChunk : Builder :=
      { tokenizer := { pending := waitingPart chunk }
        roots := behindMarker.roots ++ (writtenText (settledPart chunk)).map .text
        index := builder.index + 2
        exprs := behindMarker.exprsWith (.text chunk) }
    have fedMarker : builder.feed (.interpolation interpolation) = (.ok (), behindMarker) := by
      have fed := feed_run outside waits (.interpolation interpolation) runMarker
      simp only [marked, splitUnfinished_marker, writtenText_marker unfinished] at fed
      exact fed
    have fedChunk : behindMarker.feed (.text chunk) = (.ok (), behindChunk) :=
      feed_run rfl rfl (.text chunk) runChunk
    obtain ⟨built, last, fed, outside', waits', run', texts⟩ :=
      @inductionHypothesis behindChunk (waitingPart chunk) rfl rfl
        (isUnfinished_splitUnfinished _)
        (fun chunk member => run chunk (List.mem_cons_of_mem _ member))
    refine ⟨built, last, ?_, outside', waits', run', ?_⟩
    · rw [itemsOf_cons, feedAll_of_ok fedMarker, feedAll_of_ok fedChunk, fed]
    · rw [texts]
      simp [textsFrom, behindChunk, behindMarker]

/-- A builder with texts outside of all elements gives them under a root. -/
theorem result_of_texts {builder : Builder} {last : Text} {texts : List Text}
    (outside : builder.opened = []) (waits : builder.tokenizer = { pending := last })
    (run : '<' ∉ last)
    (holds : builder.roots ++ (writtenText last).map .text = texts.map .text)
    (nonempty : texts ≠ []) : builder.result = .ok { children := texts.map .text } := by
  have tokens : builder.tokenizer.close.1 = (writtenText last).map .text := by
    rw [waits, Tokenizer.close_run run]
  have closed : builder.handleAll (builder.index - 1) builder.tokenizer.close.1 =
      (.ok (), { builder with roots := texts.map .text }) := by
    rw [tokens, handleAll_texts, appendAll_roots _ outside, holds]
  rw [result, closed]
  simp only [outside]
  cases texts with
  | nil => exact absurd rfl nonempty
  | cons text texts => cases texts <;> rfl

end Builder

theorem textsOf_ne_nil {first : Chunk} {chunks : List Chunk}
    (shows : chunks ≠ [] ∨ first.decoded ≠ []) : textsOf first chunks ≠ [] := by
  intro nothing
  obtain ⟨settled, waiting⟩ := List.append_eq_nil_iff.mp nothing
  cases chunks with
  | cons chunk chunks => cases waiting
  | nil =>
    have parts : protect first.decoded = settledPart first ++ waitingPart first :=
      (splitUnfinished_spec (protect first.decoded)).1
    rw [writtenText_eq_nil_iff] at settled
    rw [textsFrom, writtenText_eq_nil_iff] at waiting
    rw [settled, waiting, List.append_nil, protect_eq_nil_iff] at parts
    rcases shows with shows | shows
    · exact shows rfl
    · exact shows parts

/-- The skeleton of literal text with interpolations in it is a root with the texts. -/
theorem ofItems_itemsOf {first : Chunk} {rest : List (Interpolation × Chunk)}
    (runFirst : '<' ∉ first.decoded) (run : ∀ chunk ∈ rest.map Prod.snd, '<' ∉ chunk.decoded)
    (shows : rest.map Prod.snd ≠ [] ∨ first.decoded ≠ []) :
    ofItems (.text first :: itemsOf rest) =
      .ok { children := (textsOf first (rest.map Prod.snd)).map .text } := by
  let behindFirst : Builder :=
    { tokenizer := { pending := waitingPart first }
      roots := (writtenText (settledPart first)).map .text
      index := 1
      exprs := [] }
  have fedFirst : ({} : Builder).feed (.text first) = (.ok (), behindFirst) :=
    @Builder.feed_run {} [] rfl rfl (.text first) (not_mem_protect runFirst (by decide))
  obtain ⟨built, last, fed, outside, waits, runLast, holds⟩ :=
    @Builder.feedAll_itemsOf behindFirst (waitingPart first) rfl rfl
      (isUnfinished_splitUnfinished _) rest run
  have texts : built.roots ++ (writtenText last).map .text =
      (textsOf first (rest.map Prod.snd)).map .text := by
    rw [holds]
    simp [behindFirst, textsOf]
  rw [ofItems, Builder.feedAll_of_ok fedFirst, fed]
  exact Builder.result_of_texts outside waits runLast texts (textsOf_ne_nil shows)

/-! ## What the texts give -/

section Given

variable {α : Type} {give : Segment → List α}

/-- What the markers from an index on and the literal chunks behind them give. -/
def givenFrom (give : Segment → List α) (index : Nat) : List Chunk → List α
  | [] => []
  | chunk :: chunks =>
    give (.marker index) ++
      ((split (builtText chunk.decoded)).flatMap give ++ givenFrom give (index + 2) chunks)

/-- What waits gives itself. -/
theorem flatMap_split_waiting {waiting : Text} (unfinished : IsUnfinished waiting)
    (additive : Segment.IsAdditive give) :
    (split waiting).flatMap give = give (.literal waiting) := by
  have single : '$' ∉ waiting := unfinished.not_mem (by decide) (by decide)
  by_cases empty : waiting = []
  · subst empty
    have nothing := flatMap_gatheredLiteral give additive []
    rw [split_nil]
    exact nothing
  · rw [split_eq_self empty single, List.flatMap_singleton]

/-- What was settled of a chunk and what still waits of it give together what the chunk
gives. -/
theorem flatMap_settledPart (chunk : Chunk) (additive : Segment.IsAdditive give) :
    (writtenText (settledPart chunk)).flatMap (fun text => (split text).flatMap give) ++
        give (.literal (waitingPart chunk)) =
      (split (builtText chunk.decoded)).flatMap give := by
  have unfinished := isUnfinished_waitingPart chunk
  have unended : ';' ∉ waitingPart chunk := unfinished.not_mem (by decide) (by decide)
  have parts : protect chunk.decoded = settledPart chunk ++ waitingPart chunk :=
    (splitUnfinished_spec (protect chunk.decoded)).1
  have apart : ¬ SpansReference (settledPart chunk) (waitingPart chunk) := by
    rintro ⟨_, _, back, behind, _, _, split, _⟩
    exact unended (by simp [split])
  have built : builtText chunk.decoded =
      decodeReferences (settledPart chunk) ++ waitingPart chunk := by
    rw [builtText, parts, decodeReferences_append apart,
      decodeReferences_eq_self_of_unended unended]
  have settled : (writtenText (settledPart chunk)).flatMap (fun text => (split text).flatMap give) =
      (split (decodeReferences (settledPart chunk))).flatMap give := by
    by_cases empty : settledPart chunk = []
    · simp [empty, writtenText, split_nil]
    · simp [writtenText, empty]
  rw [built, settled, ← flatMap_split_waiting unfinished additive]
  rcases unfinished with empty | ⟨name, begins, _⟩
  · simp [empty, split_nil]
  · rw [begins, flatMap_split_ampersand additive]

/-- What the texts behind some waiting text give: the waiting text itself, and what the markers
and the chunks behind them give. -/
theorem flatMap_textsFrom (additive : Segment.IsAdditive give) {waiting : Text}
    (unfinished : IsUnfinished waiting) {index : Nat} {chunks : List Chunk}
    (fits : index + 2 * chunks.length ≤ markerLimit + 2) :
    (textsFrom index waiting chunks).flatMap (fun text => (split text).flatMap give) =
      give (.literal waiting) ++ givenFrom give index chunks := by
  induction chunks generalizing index waiting with
  | nil =>
    have unended : ';' ∉ waiting := unfinished.not_mem (by decide) (by decide)
    have nothing : (split []).flatMap give = [] := by rw [split_nil, List.flatMap_nil]
    have whole := flatMap_split_waiting unfinished additive
    rw [textsFrom, givenFrom, List.append_nil, ← whole, writtenText,
      decodeReferences_eq_self_of_unended unended]
    by_cases empty : waiting = [] <;> simp [empty, nothing]
  | cons chunk chunks inductionHypothesis =>
    have single : '$' ∉ waiting := unfinished.not_mem (by decide) (by decide)
    rw [List.length_cons] at fits
    have first : (split (waiting ++ marker index)).flatMap give =
        give (.literal waiting) ++ give (.marker index) := by
      have restored : restore waiting = waiting := by
        have whole := restore_protect waiting
        rwa [protect_eq_self single] at whole
      rw [split_append_marker single (by omega), List.flatMap_append,
        flatMap_gatheredLiteral give additive, List.reverse_reverse, restored,
        List.flatMap_singleton]
    have later := inductionHypothesis (isUnfinished_waitingPart chunk)
      (show index + 2 + 2 * chunks.length ≤ markerLimit + 2 by omega)
    have settled := flatMap_settledPart chunk additive
    rw [textsFrom, List.flatMap_cons, List.flatMap_append, first, later, givenFrom, ← settled]
    simp

/-- What the texts of a skeleton give. -/
theorem flatMap_textsOf (additive : Segment.IsAdditive give) {first : Chunk}
    {chunks : List Chunk} (fits : 1 + 2 * chunks.length ≤ markerLimit + 2) :
    (textsOf first chunks).flatMap (fun text => (split text).flatMap give) =
      (split (builtText first.decoded)).flatMap give ++ givenFrom give 1 chunks := by
  rw [textsOf, List.flatMap_append,
    flatMap_textsFrom additive (isUnfinished_waitingPart first) fits, ← List.append_assoc,
    flatMap_settledPart first additive]

end Given

/-! ## Lengths -/

/-- Without anything in place of the markers, chunks give no more characters than their
decodings have. -/
theorem length_givenFrom_le (index : Nat) (chunks : List Chunk) :
    (givenFrom (Segment.replaced fun _ => []) index chunks).length ≤
      (chunks.flatMap fun chunk => decodeReferences chunk.decoded).length := by
  induction chunks generalizing index with
  | nil => exact Nat.le_refl 0
  | cons chunk chunks inductionHypothesis =>
    have first := length_substitute_builtText_le chunk.decoded
    have rest := inductionHypothesis (index + 2)
    rw [substitute_eq_flatMap] at first
    simp only [givenFrom, Segment.replaced, List.nil_append, List.length_append,
      List.flatMap_cons]
    omega

/-- If they give as many, they are transparent. -/
theorem transparent_of_length_le {index : Nat} {chunks : List Chunk}
    (long : (chunks.flatMap fun chunk => decodeReferences chunk.decoded).length ≤
      (givenFrom (Segment.replaced fun _ => []) index chunks).length) :
    ∀ chunk ∈ chunks, Transparent chunk.decoded := by
  induction chunks generalizing index with
  | nil => simp
  | cons chunk chunks inductionHypothesis =>
    have first := length_substitute_builtText_le chunk.decoded
    have rest := length_givenFrom_le (index + 2) chunks
    have whole := substitute_eq_flatMap (fun _ => []) (builtText chunk.decoded)
    simp only [givenFrom, Segment.replaced, List.nil_append, List.length_append,
      List.flatMap_cons, ← whole] at long
    intro other member
    rcases List.mem_cons.mp member with rfl | member
    · exact .of_length_le (by omega)
    · have later : (chunks.flatMap fun chunk => decodeReferences chunk.decoded).length ≤
          (givenFrom (Segment.replaced fun _ => []) (index + 2) chunks).length := by omega
      exact inductionHypothesis later other member

end Skeleton

end HtmlTemplate
