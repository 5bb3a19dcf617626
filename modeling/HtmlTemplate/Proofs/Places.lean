import HtmlTemplate.Proofs.Bracketing
import HtmlTemplate.Proofs.Waiting

/-!
# Where tags are completed

A template that is fed item by item has the tokens of its whole text, up to joining neighbouring
texts, and every tag comes out with the item that holds the greater-than sign at its end
(`numbered_feedAll`): what waits between two items never holds a complete tag
(`Tokenizer.Settled`). So the items that faults are told with are those in which the tags at fault
are completed.
-/

namespace HtmlTemplate

namespace Markup

/-! ## Tags with what stands behind them -/

/-- The tags among the tokens of a text, each with what stands behind it. -/
def tagsFrom (atEnd : Bool) (rawElement : Option Text) (text : Text) : List (Token × Text) :=
  match text with
  | [] => []
  | c :: rest =>
    match step : scanStep atEnd rawElement c rest with
    | .stop _ _ => []
    | .forward tokens rawElement' behind =>
      have := scanStep_measure step
      (tokens.filter (!·.isText)).map (·, behind) ++ tagsFrom atEnd rawElement' behind
termination_by scanMeasure rawElement text

@[simp] theorem tagsFrom_nil (atEnd : Bool) (rawElement : Option Text) :
    tagsFrom atEnd rawElement [] = [] := by
  rw [tagsFrom]

theorem tagsFrom_of_stop {atEnd : Bool} {rawElement : Option Text} {c : Char} {rest : Text}
    {tokens : List Token} {pending : Text}
    (step : scanStep atEnd rawElement c rest = .stop tokens pending) :
    tagsFrom atEnd rawElement (c :: rest) = [] := by
  rw [tagsFrom]
  split <;> simp_all

theorem tagsFrom_of_forward {atEnd : Bool} {rawElement rawElement' : Option Text} {c : Char}
    {rest : Text} {tokens : List Token} {behind : Text}
    (step : scanStep atEnd rawElement c rest = .forward tokens rawElement' behind) :
    tagsFrom atEnd rawElement (c :: rest) =
      (tokens.filter (!·.isText)).map (·, behind) ++ tagsFrom atEnd rawElement' behind := by
  rw [tagsFrom]
  split <;> simp_all

theorem filter_textToken (text : Text) : (textToken text).filter (!·.isText) = [] := by
  unfold textToken
  split <;> rfl

theorem filter_rawTextToken (text : Text) : (rawTextToken text).filter (!·.isText) = [] := by
  unfold rawTextToken
  split <;> rfl

/-- Without what stands behind them, these are the tokens that are no texts. -/
theorem map_fst_tagsFrom (atEnd : Bool) (rawElement : Option Text) (text : Text) :
    (tagsFrom atEnd rawElement text).map Prod.fst =
      (scan atEnd rawElement text).1.filter (!·.isText) := by
  induction size : scanMeasure rawElement text using Nat.strong_induction_on
      generalizing rawElement text with
  | _ size inductionHypothesis =>
    subst size
    cases text with
    | nil => simp
    | cons c rest =>
      cases step : scanStep atEnd rawElement c rest with
      | stop tokens pending =>
        have taken := takenFrom_scanStep atEnd rawElement c rest
        rw [step] at taken
        rw [tagsFrom_of_stop step, scan_of_stop step, List.map_nil, eq_comm,
          List.filter_eq_nil_iff]
        intro token member
        simp [taken.2 token member]
      | forward tokens rawElement' behind =>
        have later := inductionHypothesis _ (scanStep_measure step) rawElement' behind rfl
        rw [tagsFrom_of_forward step, scan_of_forward step, List.map_append, later,
          List.filter_append]
        simp [Function.comp_def]

/-- A step that gives a tag has read it as markup. -/
theorem read_of_scanStep {atEnd : Bool} {rawElement rawElement' : Option Text} {c : Char}
    {rest behind : Text} {tokens : List Token}
    (step : scanStep atEnd rawElement c rest = .forward tokens rawElement' behind) {tag : Token}
    (member : tag ∈ tokens.filter (!·.isText)) :
    c = '<' ∧ readMarkup rest = .token tag behind := by
  have case := stepCase atEnd rawElement c rest
  rw [step] at case
  cases case with
  | raw => simp [filter_rawTextToken] at member
  | token read =>
    obtain rfl := List.mem_singleton.mp (List.mem_filter.mp member).1
    exact ⟨rfl, read⟩
  | nothing => cases member
  | literal => simp [filter_textToken] at member
  | run => simp [filter_textToken] at member

/-- Every tag is read as markup at its place, which begins with a less-than sign. -/
theorem exists_of_mem_tagsFrom {atEnd : Bool} {rawElement : Option Text} {text behind : Text}
    {tag : Token} (member : (tag, behind) ∈ tagsFrom atEnd rawElement text) :
    ∃ rest, '<' :: rest <:+ text ∧ readMarkup rest = .token tag behind := by
  induction size : scanMeasure rawElement text using Nat.strong_induction_on
      generalizing rawElement text with
  | _ size inductionHypothesis =>
    subst size
    cases text with
    | nil => simp at member
    | cons c rest =>
      cases step : scanStep atEnd rawElement c rest with
      | stop tokens pending =>
        rw [tagsFrom_of_stop step] at member
        cases member
      | forward tokens rawElement' behind' =>
        have taken := takenFrom_scanStep atEnd rawElement c rest
        rw [step] at taken
        rw [tagsFrom_of_forward step] at member
        rcases List.mem_append.mp member with here | later
        · obtain ⟨token, among, same⟩ := List.mem_map.mp here
          cases same
          obtain ⟨rfl, read⟩ := read_of_scanStep step among
          exact ⟨rest, List.suffix_refl _, read⟩
        · obtain ⟨inside, suffix, read⟩ :=
            inductionHypothesis _ (scanStep_measure step) later rfl
          exact ⟨inside, suffix.trans taken.1, read⟩

/-- The markup of a tag stands between a less-than sign and the greater-than sign in front of what
stands behind it. -/
theorem markup_of_mem_tagsFrom {atEnd : Bool} {rawElement : Option Text} {text behind : Text}
    {tag : Token} (member : (tag, behind) ∈ tagsFrom atEnd rawElement text) :
    ∃ front markup, text = front ++ '<' :: (markup ++ '>' :: behind) ∧
      readMarkup (markup ++ '>' :: behind) = .token tag behind := by
  obtain ⟨rest, ⟨front, whole⟩, read⟩ := exists_of_mem_tagsFrom member
  have ends := readMarkup_endsIn rest
  rw [read] at ends
  obtain ⟨markup, rfl⟩ := ends
  exact ⟨front, markup, whole.symm, read⟩

theorem length_lt_of_mem_tagsFrom {atEnd : Bool} {rawElement : Option Text} {text : Text}
    {entry : Token × Text} (member : entry ∈ tagsFrom atEnd rawElement text) :
    entry.2.length < text.length := by
  obtain ⟨front, markup, rfl, _⟩ := markup_of_mem_tagsFrom member
  simp only [List.length_append, List.length_cons]
  omega

/-- Text in front of a less-than sign holds no tags. -/
theorem tagsFrom_run (text : Text) :
    tagsFrom true none text = tagsFrom true none (text.dropWhile (· ≠ '<')) := by
  cases text with
  | nil => rfl
  | cons c rest =>
    by_cases sign : c = '<'
    · simp [sign]
    cases stop : (c :: rest).dropWhile (· ≠ '<') with
    | nil => rw [tagsFrom_of_stop (scanStep_last sign stop), tagsFrom_nil]
    | cons d behind =>
      rw [tagsFrom_of_forward (scanStep_run sign stop true), filter_textToken, List.map_nil,
        List.nil_append]

theorem GivesText.tagsFrom {c : Char} {rest text behind : Text}
    (gives : GivesText c rest text behind) :
    tagsFrom true none (c :: rest) = tagsFrom true none behind := by
  rcases gives with step | ⟨rfl, step⟩
  · rw [tagsFrom_of_forward step, filter_textToken, List.map_nil, List.nil_append]
  · rw [tagsFrom_of_stop step, tagsFrom_nil]

/-! ## Cuts -/

/-- The tags of a text that goes on behind a cut are those that are complete in front of it, and
those that come out of what waits. -/
theorem tagsFrom_append (rawElement : Option Text) (text more : Text) :
    tagsFrom true rawElement (text ++ more) =
      (tagsFrom false rawElement text).map (fun (tag, behind) => (tag, behind ++ more)) ++
        tagsFrom true (scan false rawElement text).2.rawElement
          ((scan false rawElement text).2.pending ++ more) := by
  induction size : scanMeasure rawElement text using Nat.strong_induction_on
      generalizing rawElement text with
  | _ size inductionHypothesis =>
    subst size
    cases text with
    | nil => simp
    | cons c rest =>
      cases stepAtCut rawElement c rest with
      | forward tokens rawElement' behind step stepMore spans =>
        have later := inductionHypothesis _ (scanStep_measure step) rawElement' behind rfl
        rw [List.cons_append, tagsFrom_of_forward (stepMore more), tagsFrom_of_forward step,
          scan_of_forward step, later]
        simp
      | waiting step =>
        rw [tagsFrom_of_stop step, scan_of_stop step]
        rfl
      | openText settled unfinished outside scanned parts reference run onward =>
        subst outside
        have nothing : tagsFrom false none (c :: rest) = [] := by
          rw [← List.map_eq_nil_iff (f := Prod.fst), map_fst_tagsFrom, scanned, filter_textToken]
        rw [List.cons_append, (onward more).tagsFrom, nothing, scanned,
          tagsFrom_run (unfinished ++ more), (takeWhile_append_of_notMem run more).2]
        rfl

/-- Where an end tag's opening reaches over a cut, what stands in front of the cut is markup that
waits. -/
theorem exists_of_opensEndTag_append {element more : Text} (absent : '>' ∉ element) (text : Text)
    (nonempty : text ≠ []) (other : ¬ OpensEndTag element text)
    (opens : OpensEndTag element (text ++ more)) :
    ∃ inside, text = '<' :: inside ∧ readMarkup inside = .incomplete := by
  have short : text.length < ('<' :: '/' :: element).length := by
    by_contra long
    rw [OpensEndTag, List.take_append_of_le_length (Nat.le_of_not_lt long)] at opens
    exact other opens
  rw [OpensEndTag, List.take_append, List.take_of_length_le (Nat.le_of_lt short),
    List.map_append] at opens
  rcases text with _ | ⟨c, _ | ⟨d, inside⟩⟩
  · exact absurd rfl nonempty
  · obtain ⟨first, _⟩ := List.cons.inj opens
    obtain rfl := Text.eq_of_asciiLower first (by decide)
    exact ⟨[], rfl, rfl⟩
  · obtain ⟨first, opens⟩ := List.cons.inj opens
    obtain ⟨second, named⟩ := List.cons.inj opens
    obtain rfl := Text.eq_of_asciiLower first (by decide)
    obtain rfl := Text.eq_of_asciiLower second (by decide)
    refine ⟨'/' :: inside, rfl, ?_⟩
    rw [readMarkup_slash, readEndTag_eq_incomplete_iff]
    intro member
    apply absent
    rw [← named]
    exact List.mem_append_left _ (List.mem_map.mpr ⟨'>', member, by decide⟩)

/-- An end tag that comes to light only behind a cut begins behind it, or has only begun in front
of it. -/
theorem found_of_cutAtEndTag? {element text before found more : Text} (absent : '>' ∉ element)
    (waits : cutAtEndTag? element text = none)
    (cut : cutAtEndTag? element (text ++ more) = some (before, found)) :
    found <:+ more ∨
      ∃ inside, found = '<' :: (inside ++ more) ∧ readMarkup inside = .incomplete := by
  induction text generalizing before with
  | nil => exact .inl ⟨before, (cutAtEndTag?_spec cut).1.symm⟩
  | cons c rest inductionHypothesis =>
    simp only [cutAtEndTag?] at waits
    simp only [List.cons_append, cutAtEndTag?] at cut
    split at waits
    · cases waits
    rename_i other
    split at cut
    · rename_i opening
      obtain ⟨_, rfl⟩ := Prod.mk.inj (Option.some.inj cut)
      obtain ⟨inside, parts, incomplete⟩ :=
        exists_of_opensEndTag_append absent (c :: rest) (by simp) other opening
      exact .inr ⟨inside, by rw [← List.cons_append, parts, List.cons_append], incomplete⟩
    · obtain ⟨⟨front, back⟩, later, pair⟩ := Option.map_eq_some_iff.mp cut
      obtain ⟨_, rfl⟩ := Prod.mk.inj pair
      exact inductionHypothesis (by simpa using waits) later

/-- Tags that come out of markup that had to wait end behind it. -/
theorem length_lt_of_incomplete {rest more : Text} (waits : readMarkup rest = .incomplete)
    {entry : Token × Text} (member : entry ∈ tagsFrom true none ('<' :: (rest ++ more))) :
    entry.2.length < more.length := by
  have beyond := readMarkup_endsBeyond waits more
  cases read : readMarkup (rest ++ more) with
  | token token behind =>
    rw [read] at beyond
    rw [tagsFrom_of_forward (scanStep_token read true)] at member
    rcases List.mem_append.mp member with here | later
    · obtain ⟨_, _, rfl⟩ := List.mem_map.mp here
      exact beyond
    · exact Nat.lt_trans (length_lt_of_mem_tagsFrom later) beyond
  | nothing behind =>
    rw [read] at beyond
    rw [tagsFrom_of_forward (scanStep_nothing read true)] at member
    exact Nat.lt_trans (length_lt_of_mem_tagsFrom member) beyond
  | literal =>
    obtain rfl := eq_nil_of_readMarkup_literal waits read
    rw [tagsFrom_of_forward (scanStep_literal read true), filter_textToken] at member
    exact Nat.lt_of_lt_of_le (length_lt_of_mem_tagsFrom member) (dropWhile_length_le _ more)
  | incomplete =>
    rw [tagsFrom_of_stop (scanStep_unended read)] at member
    cases member

namespace Tokenizer

/-- No tag is complete in what a tokenizer lets wait: whatever comes behind it, all tags end
there. -/
structure Settled (tokenizer : Tokenizer) : Prop where
  element : ∀ element ∈ tokenizer.rawElement, '>' ∉ element
  ahead : ∀ more, ∀ entry ∈ tagsFrom true tokenizer.rawElement (tokenizer.pending ++ more),
    entry.2.length < more.length

/-- What waits gives no tag by itself. -/
theorem Settled.tagsFrom_pending {tokenizer : Tokenizer} (settled : tokenizer.Settled) :
    tagsFrom true tokenizer.rawElement tokenizer.pending = [] := by
  rw [List.eq_nil_iff_forall_not_mem]
  intro entry member
  have ahead := settled.ahead [] entry
  rw [List.append_nil] at ahead
  exact absurd (ahead member) (Nat.not_lt_zero _)

theorem settled_of_nil {rawElement : Option Text} (element : ∀ name ∈ rawElement, '>' ∉ name) :
    Settled ⟨[], rawElement⟩ :=
  ⟨element, fun _ _ member => length_lt_of_mem_tagsFrom member⟩

/-- A raw element that has not ended holds no complete tag. -/
theorem settled_raw {element text : Text} (absent : '>' ∉ element)
    (waits : cutAtEndTag? element text = none) : Settled ⟨text, some element⟩ := by
  refine ⟨fun name same => Option.some.inj same ▸ absent, ?_⟩
  intro more entry member
  dsimp only at member
  rcases whole : text ++ more with _ | ⟨c, rest⟩
  · rw [whole, tagsFrom_nil] at member
    cases member
  rw [whole] at member
  cases cut : cutAtEndTag? element (c :: rest) with
  | none =>
    rw [tagsFrom_of_stop (scanStep_raw_unended cut)] at member
    cases member
  | some parts =>
    obtain ⟨before, found⟩ := parts
    rw [tagsFrom_of_forward (scanStep_raw cut true), filter_rawTextToken, List.map_nil,
      List.nil_append] at member
    rw [← whole] at cut
    rcases found_of_cutAtEndTag? absent waits cut with suffix | ⟨inside, rfl, incomplete⟩
    · exact Nat.lt_of_lt_of_le (length_lt_of_mem_tagsFrom member) suffix.length_le
    · exact length_lt_of_incomplete incomplete member

/-- Text without less-than signs holds no tag. -/
theorem settled_run {text : Text} (run : '<' ∉ text) : Settled ⟨text, none⟩ := by
  refine ⟨by simp, ?_⟩
  intro more entry member
  dsimp only at member
  rw [tagsFrom_run, (takeWhile_append_of_notMem run more).2] at member
  exact Nat.lt_of_lt_of_le (length_lt_of_mem_tagsFrom member) (dropWhile_length_le _ more)

/-- What waits behind a text is settled. -/
theorem settled_scan {rawElement : Option Text} (element : ∀ name ∈ rawElement, '>' ∉ name)
    (text : Text) : (scan false rawElement text).2.Settled := by
  induction size : scanMeasure rawElement text using Nat.strong_induction_on
      generalizing rawElement text with
  | _ size inductionHypothesis =>
    subst size
    rcases text with _ | ⟨c, rest⟩
    · rw [scan_nil]
      exact settled_of_nil element
    have onward {tokens : List Token} {rawElement' : Option Text} {behind : Text}
        (step : scanStep false rawElement c rest = .forward tokens rawElement' behind)
        (element' : ∀ name ∈ rawElement', '>' ∉ name) :
        (scan false rawElement (c :: rest)).2.Settled := by
      rw [scan_of_forward step]
      exact inductionHypothesis _ (scanStep_measure step) element' behind rfl
    have case := stepCase false rawElement c rest
    generalize same : scanStep false rawElement c rest = step at case
    cases case with
    | raw => exact onward same (by simp)
    | token => exact onward same not_mem_of_rawElementAfter
    | nothing => exact onward same (by simp)
    | literal => exact onward same (by simp)
    | run => exact onward same (by simp)
    | rawWaiting cut =>
      rw [scan_of_stop same]
      exact settled_raw (element _ rfl) cut
    | waiting read =>
      rw [scan_of_stop same]
      exact ⟨by simp, fun more entry member => length_lt_of_incomplete read member⟩
    | settled =>
      rw [scan_of_stop same]
      exact settled_run ((isUnfinished_splitUnfinished _).not_mem (by decide) (by decide))

theorem Settled.feed {tokenizer : Tokenizer} (settled : tokenizer.Settled) (part : Text) :
    (tokenizer.feed part).2.Settled :=
  settled_scan settled.element _

theorem Settled.feedAll {tokenizer : Tokenizer} (settled : tokenizer.Settled)
    (parts : List Text) : (tokenizer.feedAll parts).2.Settled := by
  induction parts generalizing tokenizer with
  | nil => exact settled
  | cons part parts inductionHypothesis => exact inductionHypothesis (settled.feed part)

/-- What is left at the end gives texts only. -/
theorem Settled.isText_of_mem_close {tokenizer : Tokenizer} (settled : tokenizer.Settled) :
    ∀ token ∈ tokenizer.close.1, token.isText = true := by
  have none : tokenizer.close.1.filter (!·.isText) = [] := by
    rw [close, ← map_fst_tagsFrom, settled.tagsFrom_pending, List.map_nil]
  simpa using none

end Tokenizer

/-! ## Places -/

/-- The number of the piece that holds the character at a place. -/
def pieceAt : List Text → Nat → Nat
  | [], _ => 0
  | piece :: pieces, place =>
    if place < piece.length then 0 else pieceAt pieces (place - piece.length) + 1

theorem pieceAt_of_lt {piece : Text} {place : Nat} (within : place < piece.length)
    (pieces : List Text) : pieceAt (piece :: pieces) place = 0 :=
  if_pos within

theorem pieceAt_of_le {piece : Text} {place : Nat} (beyond : piece.length ≤ place)
    (pieces : List Text) :
    pieceAt (piece :: pieces) place = pieceAt pieces (place - piece.length) + 1 :=
  if_neg (Nat.not_lt_of_le beyond)

/-- The tags of a text in pieces, each with the number of the piece that holds the greater-than
sign at its end. -/
def placedTags (pieces : List Text) : List (Token × Nat) :=
  (tagsFrom true none pieces.flatten).map fun (tag, behind) =>
    (tag, pieceAt pieces (pieces.flatten.length - behind.length - 1))

end Markup

namespace Skeleton

open Markup

theorem numbered_cons_filter (index : Nat) (tokens : List Token) (lists : List (List Token)) :
    (numbered index (tokens :: lists)).filter (!·.1.isText) =
      (tokens.filter (!·.isText)).map (·, index) ++
        (numbered (index + 1) lists).filter (!·.1.isText) := by
  rw [numbered, List.filter_append, List.filter_map]
  rfl

/-- Every tag comes out with the piece that holds the greater-than sign at its end. -/
theorem numbered_feedAll {tokenizer : Tokenizer} (settled : tokenizer.Settled) (index : Nat)
    (pieces : List Text) :
    (numbered index (tokenizer.feedAll pieces).1).filter (!·.1.isText) =
      (tagsFrom true tokenizer.rawElement (tokenizer.pending ++ pieces.flatten)).map
        fun (tag, behind) =>
          (tag, index + pieceAt pieces (pieces.flatten.length - behind.length - 1)) := by
  induction pieces generalizing tokenizer index with
  | nil =>
    rw [List.flatten_nil, List.append_nil, settled.tagsFrom_pending]
    rfl
  | cons piece pieces inductionHypothesis =>
    have later := inductionHypothesis (settled.feed piece) (index + 1)
    have parts := tagsFrom_append tokenizer.rawElement (tokenizer.pending ++ piece) pieces.flatten
    rw [List.append_assoc] at parts
    have bounds := settled.ahead (piece ++ pieces.flatten)
    rw [parts] at bounds
    rw [Tokenizer.feedAll, numbered_cons_filter, later, List.flatten_cons, parts, List.map_append]
    congr 1
    · rw [Tokenizer.feed, ← map_fst_tagsFrom, List.map_map, List.map_map]
      apply List.map_congr_left
      rintro ⟨tag, behind⟩ member
      have below := bounds (tag, behind ++ pieces.flatten)
        (List.mem_append_left _ (List.mem_map.mpr ⟨(tag, behind), member, rfl⟩))
      have within : (piece ++ pieces.flatten).length - (behind ++ pieces.flatten).length - 1 <
          piece.length := by
        simp only [List.length_append] at below ⊢
        omega
      exact Prod.ext rfl (by simp only [pieceAt_of_lt within, Nat.add_zero, Function.comp_apply])
    · apply List.map_congr_left
      rintro ⟨tag, behind⟩ member
      have below := (settled.feed piece).ahead pieces.flatten (tag, behind) member
      have beyond : piece.length ≤ (piece ++ pieces.flatten).length - behind.length - 1 := by
        simp only [List.length_append] at below ⊢
        omega
      have place : (piece ++ pieces.flatten).length - behind.length - 1 - piece.length =
          pieces.flatten.length - behind.length - 1 := by
        simp only [List.length_append] at below ⊢
        omega
      dsimp only
      rw [pieceAt_of_le beyond, place, Nat.add_assoc, Nat.add_comm 1]

/-! ## Faults without texts -/

variable {shown : Text → Text} {tokens : List (Token × Nat)}

theorem openedBehind_of_isText {token : Token × Nat} (text : token.1.isText = true)
    (opened : List (Text × Nat)) : openedBehind opened token = opened := by
  rcases token with ⟨_ | _ | _ | _, _⟩ <;> first | rfl | cases text

theorem closeFault?_of_isText {token : Token × Nat} (text : token.1.isText = true)
    (opened : List (Text × Nat)) : closeFault? shown opened token = none := by
  rcases token with ⟨_ | _ | _ | _, _⟩ <;> first | rfl | cases text

/-- Texts open no element. -/
theorem openElements_filter (tokens : List (Token × Nat)) :
    openElements (tokens.filter (!·.1.isText)) = openElements tokens := by
  induction tokens using List.reverseRecOn with
  | nil => rfl
  | append_singleton tokens token inductionHypothesis =>
    rw [List.filter_append, openElements_append]
    cases text : token.1.isText with
    | true =>
      rw [openedBehind_of_isText text, ← inductionHypothesis]
      simp [text]
    | false =>
      have kept : [token].filter (!·.1.isText) = [token] := by simp [text]
      rw [kept, openElements_append, inductionHypothesis]

theorem exists_of_filter_eq {before after : List (Token × Nat)} {token : Token × Nat}
    (parts : tokens.filter (!·.1.isText) = before ++ token :: after) :
    ∃ front back, tokens = front ++ token :: back ∧ front.filter (!·.1.isText) = before := by
  obtain ⟨front, rest, rfl, rfl, behind⟩ := List.filter_eq_append_iff.mp parts
  obtain ⟨between, back, rfl, texts, _, _⟩ := List.filter_eq_cons_iff.mp behind
  refine ⟨front ++ between, back, by simp, ?_⟩
  rw [List.filter_append, List.filter_eq_nil_iff.mpr texts, List.append_nil]

/-- Texts are no faults. -/
theorem faultless_filter_iff :
    Faultless shown (tokens.filter (!·.1.isText)) ↔ Faultless shown tokens := by
  constructor
  · rintro faultless before token after rfl
    cases text : token.1.isText with
    | true => exact closeFault?_of_isText text _
    | false =>
      rw [← openElements_filter before]
      exact faultless _ token (after.filter (!·.1.isText)) (by simp [text])
  · intro faultless before token after parts
    obtain ⟨front, back, whole, rfl⟩ := exists_of_filter_eq parts
    rw [openElements_filter]
    exact faultless front token back whole

/-- Without the texts the first fault is the same. -/
theorem firstFault_filter_iff {error : Error} :
    FirstFault shown (tokens.filter (!·.1.isText)) error ↔ FirstFault shown tokens error := by
  constructor
  · rintro ⟨before, token, after, parts, faultless, broken⟩
    obtain ⟨front, back, whole, rfl⟩ := exists_of_filter_eq parts
    rw [openElements_filter] at broken
    exact ⟨front, token, back, whole, faultless_filter_iff.mp faultless, broken⟩
  · rintro ⟨before, token, after, rfl, faultless, broken⟩
    cases text : token.1.isText with
    | true =>
      rw [closeFault?_of_isText text] at broken
      cases broken
    | false =>
      refine ⟨before.filter (!·.1.isText), token, after.filter (!·.1.isText), by simp [text],
        faultless_filter_iff.mpr faultless, ?_⟩
      rw [openElements_filter, broken]

/-- A fault that lies in an item is told by the tags alone. -/
theorem fault_filter_iff {error : Error} {item : Nat} (located : error.item? = some item) :
    Fault shown (tokens.filter (!·.1.isText)) error ↔ Fault shown tokens error := by
  constructor
  · intro fault
    cases fault with
    | close first => exact .close (firstFault_filter_iff.mp first)
    | unclosed faultless inside =>
      rw [openElements_filter] at inside
      exact .unclosed (faultless_filter_iff.mp faultless) inside
    | empty => cases located
  · intro fault
    cases fault with
    | close first => exact .close (firstFault_filter_iff.mpr first)
    | unclosed faultless inside =>
      rw [← openElements_filter] at inside
      exact .unclosed (faultless_filter_iff.mpr faultless) inside
    | empty => cases located

/-! ## Templates -/

/-- No reference reaches behind a marker, for there is a dollar sign in it. -/
theorem not_spansReference_marker (before : Text) (index : Nat) (after : Text) :
    ¬ SpansReference (before ++ marker index) after := by
  have parts : before ++ marker index =
      (before ++ ['x']) ++ '$' :: (Decimal.natural index ++ ['x']) := by simp [marker]
  rw [parts, spansReference_append_cons (by decide) (by decide)]
  rintro ⟨settled, front, _, _, _, split, _⟩
  have member : '&' ∈ Decimal.natural index ++ ['x'] := by rw [split]; simp
  rcases List.mem_append.mp member with digit | letter
  · exact absurd (Decimal.isAsciiDigit_of_mem_natural index _ digit) (by decide)
  · exact absurd letter (by decide)

/-- No reference ends behind the dollar sign of a marker. -/
theorem not_spansReference_behind_marker (before after : Text) :
    ¬ SpansReference before ('x' :: '$' :: after) := by
  rintro ⟨settled, front, back, behind, c, _, split, _, valid⟩
  have member : '$' ∈ back := by
    rcases back with _ | ⟨d, _ | ⟨e, back⟩⟩
    · cases split
    · cases split
    · obtain ⟨_, split⟩ := List.cons.inj split
      obtain ⟨rfl, _⟩ := List.cons.inj split
      simp
  exact not_mem_of_reference? '$' valid (by decide) (List.mem_append_right _ member)

theorem not_spansReference_nil (before : Text) : ¬ SpansReference before [] := by
  rintro ⟨_, _, back, _, _, _, split, _⟩
  simp at split

theorem not_spansReference_itemsOf (before : Text) (index : Nat)
    (rest : List (Interpolation × Chunk)) :
    ¬ SpansReference before (markedFrom index (itemsOf rest)).flatten := by
  cases rest with
  | nil => exact not_spansReference_nil before
  | cons place rest => exact not_spansReference_behind_marker before _

/-- No reference spans the end of an interpolation or that of a chunk behind which an
interpolation comes. -/
theorem not_cutsReference_itemsOf (tokenizer : Tokenizer) (index : Nat)
    (rest : List (Interpolation × Chunk)) :
    ¬ tokenizer.CutsReference (markedFrom index (itemsOf rest)) := by
  induction rest generalizing tokenizer index with
  | nil => exact id
  | cons place rest inductionHypothesis =>
    rintro (⟨_, spans⟩ | ⟨_, spans⟩ | later)
    · exact not_spansReference_marker _ index _ spans
    · exact not_spansReference_itemsOf _ _ rest spans
    · exact inductionHypothesis _ _ later

theorem not_cutsReference_items (template : Template) :
    ¬ ({} : Tokenizer).CutsReference (markedFrom 0 template.items) := by
  rintro (⟨_, spans⟩ | later)
  · exact not_spansReference_itemsOf _ _ template.rest spans
  · exact not_cutsReference_itemsOf _ _ template.rest later

/-- Without the texts, the tokens of items are the tags in their places. -/
theorem filter_locatedTokens (items : List Item) :
    (locatedTokens items).filter (!·.1.isText) = placedTags (markedFrom 0 items) := by
  have settled : Tokenizer.Settled {} := Tokenizer.settled_of_nil (by simp)
  have fed := numbered_feedAll settled 0 (markedFrom 0 items)
  have closed : ((({} : Tokenizer).feedAll (markedFrom 0 items)).2.close.1.map
      (·, items.length - 1)).filter (!·.1.isText) = [] := by
    rw [List.filter_eq_nil_iff]
    intro token member
    obtain ⟨text, among, rfl⟩ := List.mem_map.mp member
    simp [(settled.feedAll _).isText_of_mem_close text among]
  simp only [locatedTokens, List.filter_append, closed, fed, List.append_nil, placedTags,
    List.nil_append, Nat.zero_add]

/-- A template that is fed item by item has, up to joining neighbouring texts, the tokens of its
whole text. Every tag comes out of the feed of the item that holds the greater-than sign at its
end, and only texts come out when the input ends. So the item of a fault in the structure is the
one in which the closing tag that is the fault, or the start tag of the element that stays open, is
completed. -/
theorem feedAll_template (template : Template) :
    let pieces := markedFrom 0 template.items
    let fed := ({} : Tokenizer).feedAll pieces
    joinTexts (tokenize pieces) = joinTexts (tokenize [pieces.flatten]) ∧
      (numbered 0 fed.1).filter (!·.1.isText) = placedTags pieces ∧
      (∀ token ∈ fed.2.close.1, token.isText = true) ∧
      (∀ tag behind, (tag, behind) ∈ tagsFrom true none pieces.flatten →
        ∃ front markup, pieces.flatten = front ++ '<' :: (markup ++ '>' :: behind) ∧
          readMarkup (markup ++ '>' :: behind) = .token tag behind) ∧
      ∀ error item, error.item? = some item →
        (ofItems template.items = .error error ↔
          Fault (shownName template.items) (placedTags pieces) error) := by
  intro pieces fed
  have settled : Tokenizer.Settled {} := Tokenizer.settled_of_nil (by simp)
  refine ⟨?_, ?_, (settled.feedAll pieces).isText_of_mem_close,
    fun _ _ => markup_of_mem_tagsFrom, ?_⟩
  · have law := Tokenizer.tokensOfParts_cutLaw {} pieces
    rw [joinTexts_tokenize_singleton, tokenize_eq]
    exact (law.same (not_cutsReference_items template)).symm
  · have fed := numbered_feedAll settled 0 pieces
    simpa only [placedTags, List.nil_append, Nat.zero_add] using fed
  · intro error item located
    rw [ofItems_eq_error_iff, ← fault_filter_iff located, filter_locatedTokens]

/-- A start tag that goes on behind an interpolation is completed, and closed wrongly, in the last
item. -/
theorem feedAll_template_mismatch :
    let place : Interpolation := { expr := ['v'], source := .held (.text []) }
    let template : Template :=
      { first := .ofText "<p title=".toList, rest := [(place, .ofText "></b>".toList)] }
    ofItems template.items = .error (.mismatchedTag ['p'] ['b'] 2) := by
  intro place template
  have placed : placedTags (markedFrom 0 template.items) =
      [(.startTag ['p'] [("title".toList, some "x$1x".toList)] false, 2), (.endTag ['b'], 2)] := by
    decide +kernel
  have shown : ∀ name ∈ [['p'], ['b']], shownName template.items name = name := by decide +kernel
  refine ((feedAll_template template).2.2.2.2 _ 2 rfl).mpr (.close ?_)
  refine ⟨[_], _, [], placed, (faultless_nil _).append rfl, ?_⟩
  simp [closeFault?, openElements, openedBehind, shown]

end Skeleton

end HtmlTemplate
