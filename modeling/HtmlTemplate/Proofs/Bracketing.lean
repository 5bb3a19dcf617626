import HtmlTemplate.Proofs.TagRules

/-!
# Skeletons and their tokens

A skeleton is its tokens in another form: which tokens make up a skeleton is told by the rules of
tags, and writing the skeleton in order gives the tokens again (`ofItems_tokens`). The elements
that are open in a builder are those that the tokens so far leave open, and what it has built is
written as those tokens (`Builder.Holds`).
-/

namespace HtmlTemplate.Skeleton

open Markup (Token)

/-! ## What a builder holds -/

/-- The elements that are still open in order, up to what stands inside the innermost one. -/
def writtenOpened : List OpenElement → List Token
  | [] => []
  | element :: outer =>
    writtenOpened outer ++
      .startTag element.tag element.attributes false :: writtenParts element.children

namespace Builder

/-- What a builder has built, in order. -/
def written (builder : Builder) : List Token :=
  writtenParts builder.roots ++ writtenOpened builder.opened

/-- The open elements of a builder, by their names and the items of their start tags. -/
def openNames (builder : Builder) : List (Text × Nat) :=
  builder.opened.map fun element => (element.tag, element.item)

/-- Every element in a builder has a tag. -/
structure Tagged (builder : Builder) : Prop where
  roots : ∀ part ∈ builder.roots, part.Tagged
  opened : ∀ element ∈ builder.opened, ∀ child ∈ element.children, child.Tagged

/-- A part is written behind those of the builder. -/
theorem written_append (builder : Builder) (part : Part) :
    (builder.append part).written = builder.written ++ part.written := by
  unfold append
  split
  · rename_i outside
    simp [written, outside, writtenOpened, writtenParts_append, writtenParts_singleton]
  · rename_i element outer inside
    simp [written, inside, writtenOpened, writtenParts_append, writtenParts_singleton]

/-- A part that is added opens no element. -/
theorem openNames_append (builder : Builder) (part : Part) :
    (builder.append part).openNames = builder.openNames := by
  unfold append
  split
  · rfl
  · rename_i element outer inside
    simp [openNames, inside]

/-- The elements of a builder stay named when a part is added. -/
theorem Tagged.append {builder : Builder} (tagged : builder.Tagged) {part : Part}
    (further : part.Tagged) : (builder.append part).Tagged := by
  constructor
  · intro other member
    rcases mem_roots_append member with member | rfl
    · exact tagged.roots other member
    · exact further
  · intro element member child within
    obtain ⟨before, among, _, _, children⟩ := exists_of_mem_opened_append member
    rcases children child within with within | rfl
    · exact tagged.opened before among child within
    · exact further

variable {builder : Builder} {element : OpenElement} {outer : List OpenElement}

/-- An element that is finished gets its end tag. -/
theorem written_finish (inside : builder.opened = element :: outer) :
    (builder.finish element outer).written = builder.written ++ [.endTag element.tag] := by
  rw [finish, written_append]
  simp [written, inside, writtenOpened, OpenElement.toPart, Part.written]

/-- An element that is finished is no longer open. -/
theorem openNames_finish (inside : builder.opened = element :: outer) :
    (builder.finish element outer).openNames = builder.openNames.tail := by
  rw [finish, openNames_append]
  simp [openNames, inside]

/-- The elements of a builder stay named when one is finished. -/
theorem Tagged.finish (tagged : builder.Tagged) (inside : builder.opened = element :: outer) :
    (builder.finish element outer).Tagged := by
  have outside : ({ builder with opened := outer } : Builder).Tagged :=
    ⟨tagged.roots, fun other member => tagged.opened other (by simp [inside, member])⟩
  exact outside.append (.element (tagged.opened element (by simp [inside])))

/-- A closing tag that is a fault is handled as that fault. -/
theorem handle_of_fault {token : Token} {item : Nat} {error : Error}
    (fault : closeFault? builder.recover builder.openNames (token, item) = some error) :
    builder.handle token item = .error error := by
  cases token with
  | startTag => cases fault
  | text => cases fault
  | endTag name =>
    cases inside : builder.opened with
    | nil =>
      simp only [openNames, inside, closeFault?, List.map_nil, Option.some.injEq] at fault
      simp only [handle, inside, fault]
    | cons element outer =>
      simp only [openNames, inside, closeFault?, List.map_cons] at fault
      split at fault
      · cases fault
      · rename_i other
        simp only [Option.some.injEq] at fault
        simp only [handle, inside, if_neg other, fault]
  | genericClose =>
    cases inside : builder.opened with
    | nil =>
      simp only [openNames, inside, closeFault?, List.map_nil, Option.some.injEq] at fault
      simp only [handle, inside, fault]
    | cons element outer =>
      simp only [openNames, inside, closeFault?, List.map_cons] at fault
      cases fault

/-- Every other token is handled: it changes what is open, and adds what it is written as. -/
theorem exists_handle_of_fits {token : Token} {item : Nat}
    (fits : closeFault? builder.recover builder.openNames (token, item) = none)
    (tagged : builder.Tagged) :
    ∃ builder', builder.handle token item = .ok builder' ∧
      builder'.openNames = openedBehind builder.openNames (token, item) ∧
      builder'.written = builder.written ++ writtenAs builder.openNames token ∧
      builder'.Tagged := by
  have head {element : OpenElement} {outer : List OpenElement}
      (inside : builder.opened = element :: outer) :
      builder.openNames.head?.toList.map (fun innermost => Token.endTag innermost.1) =
        [.endTag element.tag] := by
    simp [openNames, inside]
  cases token with
  | startTag name attributes closing =>
    cases closing with
    | true =>
      refine ⟨_, rfl, openNames_append _ _, ?_, tagged.append (.element (by simp))⟩
      rw [written_append]
      simp [Part.written, writtenParts, writtenAs]
    | false =>
      refine ⟨_, rfl, rfl, ?_, tagged.roots, List.forall_mem_cons.mpr ⟨by simp, tagged.opened⟩⟩
      simp [written, writtenOpened, writtenParts, writtenAs]
  | endTag name =>
    cases inside : builder.opened with
    | nil =>
      simp only [openNames, inside, closeFault?, List.map_nil] at fits
      cases fits
    | cons element outer =>
      have same : builder.recover element.tag = builder.recover name := by
        simp only [openNames, inside, closeFault?, List.map_cons] at fits
        split at fits
        · rename_i same
          exact same
        · cases fits
      refine ⟨builder.finish element outer, ?_, openNames_finish inside, ?_, tagged.finish inside⟩
      · simp only [handle, inside, if_pos same]
      · rw [written_finish inside, writtenAs, head inside]
  | genericClose =>
    cases inside : builder.opened with
    | nil =>
      simp only [openNames, inside, closeFault?, List.map_nil] at fits
      cases fits
    | cons element outer =>
      refine ⟨builder.finish element outer, ?_, openNames_finish inside, ?_, tagged.finish inside⟩
      · simp only [handle, inside]
      · rw [written_finish inside, writtenAs, head inside]
  | text content =>
    refine ⟨_, rfl, openNames_append _ _, ?_, tagged.append (.text content)⟩
    rw [written_append, Part.written, writtenAs]

/-- A builder holds what some tokens describe: the elements that they leave open are open, and
what is built is written as these tokens. -/
structure Holds (shown : Text → Text) (tokens : List (Token × Nat)) (builder : Builder) :
    Prop where
  opened : builder.openNames = openElements tokens
  written : builder.written = writtenOut [] tokens
  faultless : Faultless shown tokens
  tagged : builder.Tagged

variable {shown : Text → Text} {done : List (Token × Nat)}

/-- Names in some tokens are shown in the way of a builder. -/
def Recovers (builder : Builder) (shown : Text → Text) (tokens : List Token) : Prop :=
  ∀ token ∈ tokens, ∀ name, token.name? = some name → builder.recover name = shown name

/-- The builder finds the faults that its tokens have. -/
theorem Holds.closeFault?_eq (holds : Holds shown done builder) {token : Token}
    (recovers : builder.Recovers shown (done.map Prod.fst ++ [token])) (item : Nat) :
    closeFault? builder.recover builder.openNames (token, item) =
      closeFault? shown (openElements done) (token, item) := by
  rw [holds.opened]
  refine closeFault?_congr ?_ fun name named => recovers token (by simp) name named
  intro element member
  obtain ⟨other, among, named⟩ := exists_of_mem_openElements member
  exact recovers other.1 (List.mem_append_left _ (List.mem_map_of_mem among)) element.1 named

/-- A token that is no fault is added to what a builder holds. -/
theorem Holds.handle (holds : Holds shown done builder) {token : Token} {item : Nat}
    (recovers : builder.Recovers shown (done.map Prod.fst ++ [token]))
    (fits : closeFault? shown (openElements done) (token, item) = none) :
    ∃ builder', builder.handle token item = .ok builder' ∧
      Holds shown (done ++ [(token, item)]) builder' := by
  have same := holds.closeFault?_eq recovers item
  obtain ⟨builder', handled, opened, written, tagged⟩ :=
    exists_handle_of_fits (same.trans fits) holds.tagged
  refine ⟨builder', handled, ?_, ?_, holds.faultless.append fits, tagged⟩
  · rw [opened, holds.opened, openElements_append]
  · rw [written, holds.opened, holds.written, writtenOut_append]
    rfl

/-- Some tokens of one item are added to what a builder holds, up to the first fault. -/
theorem Holds.handleAll (holds : Holds shown done builder) (item : Nat) {tokens : List Token}
    (recovers : builder.Recovers shown (done.map Prod.fst ++ tokens)) :
    (∃ builder', builder.handleAll item tokens = (.ok (), builder') ∧
        Holds shown (done ++ tokens.map (·, item)) builder') ∨
      ∃ error builder', builder.handleAll item tokens = (.error error, builder') ∧
        FirstFault shown (done ++ tokens.map (·, item)) error := by
  induction tokens generalizing builder done with
  | nil => exact .inl ⟨builder, rfl, by simpa using holds⟩
  | cons token tokens inductionHypothesis =>
    have first : builder.Recovers shown (done.map Prod.fst ++ [token]) := by
      intro other member
      exact recovers other (by simp_all; tauto)
    cases fits : closeFault? shown (openElements done) (token, item) with
    | some error =>
      have fault := holds.closeFault?_eq first item
      rw [fits] at fault
      refine .inr ⟨error, builder, ?_, done, (token, item), tokens.map (·, item), by simp,
        holds.faultless, fits⟩
      simp only [Builder.handleAll, handle_of_fault fault]
    | none =>
      obtain ⟨between, handled, holdsBetween⟩ := holds.handle first fits
      have same : between.recover = builder.recover := by
        funext name
        simp only [recover, (sameInput_handle handled).exprs]
      have later : between.Recovers shown ((done ++ [(token, item)]).map Prod.fst ++ tokens) := by
        intro other member
        rw [same]
        exact recovers other (by simpa using member)
      have onward := inductionHypothesis holdsBetween later
      rw [handleAll_of_ok handled]
      simpa using onward

/-- A builder to which some items have been fed knows their expressions, and the text that waits
is the end of the text that they went into the markup by. -/
structure HasFed (items : List Item) (builder : Builder) : Prop where
  index : builder.index = items.length
  exprs : ∀ index, builder.exprs.lookup index = exprAt? items index
  reads : HasRead items builder.tokenizer

/-- The builder shows names as they are shown from its items. -/
theorem HasFed.recover {items : List Item} (fed : HasFed items builder) :
    builder.recover = shownName items := by
  funext name
  unfold Builder.recover shownName
  congr 1
  funext index
  rw [fed.exprs]
  cases exprAt? items index <;> rfl

/-- What a builder has been fed depends on its input only. -/
theorem HasFed.of_sameInput {items : List Item} {builder' : Builder}
    (fed : HasFed items builder) (same : SameInput builder' builder) : HasFed items builder' :=
  ⟨by rw [same.index, fed.index], by rw [same.exprs]; exact fed.exprs,
    by rw [same.tokenizer]; exact fed.reads⟩

/-- With one more item the builder knows the expressions of all of them. -/
theorem lookup_exprsWith {items : List Item} (fed : HasFed items builder) (item : Item)
    (index : Nat) : (builder.exprsWith item).lookup index = exprAt? (items ++ [item]) index := by
  rw [exprAt?_append_singleton]
  cases item with
  | text chunk =>
    split
    · rename_i last
      rw [last]
      exact (fed.exprs items.length).trans (exprAt?_of_le (Nat.le_refl _))
    · exact fed.exprs index
  | interpolation place =>
    rw [← fed.exprs index]
    by_cases last : index = items.length
    · simp [exprsWith, Item.interpolation?, fed.index, last]
    · have other : (index == items.length) = false := by simpa using last
      simp [exprsWith, Item.interpolation?, fed.index, List.lookup_cons, last, other]

/-- One more item is fed behind the others. -/
theorem HasFed.withItem {items : List Item} (fed : HasFed items builder) (item : Item) :
    HasFed (items ++ [item]) (builder.withItem item) := by
  refine ⟨by simp [Builder.withItem, fed.index], lookup_exprsWith fed item, ?_⟩
  rw [Builder.withItem, fed.index]
  exact (fed.reads.feed item).1

/-- A builder shows known names as all items together do. -/
theorem HasFed.recovers {items : List Item} (fed : HasFed items builder) {tokens : List Token}
    (known : KnownNames items tokens) (more : List Item) :
    builder.Recovers (shownName (items ++ more)) tokens := by
  intro token member name named
  rw [fed.recover, shownName_append (known token member name named)]

/-! ## Runs -/

/-- An item that is fed adds its tokens to what a builder holds, up to the first fault. -/
theorem Holds.feed {front : List Item} (fed : HasFed front builder)
    (holds : Holds shown done builder) (item : Item)
    (recovers : (builder.withItem item).Recovers shown (done.map Prod.fst ++
      (builder.tokenizer.feed (marked front.length item)).1)) :
    (∃ builder', builder.feed item = (.ok (), builder') ∧ HasFed (front ++ [item]) builder' ∧
        builder'.tokenizer = (builder.tokenizer.feed (marked front.length item)).2 ∧
        Holds shown (done ++ (builder.tokenizer.feed (marked front.length item)).1.map
          (·, front.length)) builder') ∨
      ∃ error builder', builder.feed item = (.error error, builder') ∧
        FirstFault shown (done ++ (builder.tokenizer.feed (marked front.length item)).1.map
          (·, front.length)) error := by
  have holdsItem : Holds shown done (builder.withItem item) :=
    ⟨holds.opened, holds.written, holds.faultless, holds.tagged.roots, holds.tagged.opened⟩
  have feeds := feed_eq builder item
  rw [fed.index] at feeds
  rw [feeds]
  refine (holdsItem.handleAll front.length recovers).imp_left ?_
  rintro ⟨builder', handled, holds'⟩
  have same := sameInput_handleAll (builder.withItem item) front.length
    (builder.tokenizer.feed (marked front.length item)).1
  rw [handled] at same
  refine ⟨builder', handled, (fed.withItem item).of_sameInput same, ?_, holds'⟩
  rw [same.tokenizer, Builder.withItem, fed.index]

/-- Items that are fed add their tokens to what a builder holds, up to the first fault. -/
theorem Holds.feedAll {front rest : List Item} (fed : HasFed front builder)
    (holds : Holds (shownName (front ++ rest)) done builder)
    (known : KnownNames front (done.map Prod.fst)) :
    (∃ builder', builder.feedAll rest = .ok builder' ∧ HasFed (front ++ rest) builder' ∧
        builder'.tokenizer = (builder.tokenizer.feedAll (markedFrom front.length rest)).2 ∧
        KnownNames (front ++ rest) ((done ++ numbered front.length
          (builder.tokenizer.feedAll (markedFrom front.length rest)).1).map Prod.fst) ∧
        Holds (shownName (front ++ rest)) (done ++ numbered front.length
          (builder.tokenizer.feedAll (markedFrom front.length rest)).1) builder') ∨
      ∃ error, builder.feedAll rest = .error error ∧
        FirstFault (shownName (front ++ rest)) (done ++ numbered front.length
          (builder.tokenizer.feedAll (markedFrom front.length rest)).1) error := by
  induction rest generalizing front builder done with
  | nil =>
    refine .inl ⟨builder, rfl, by simpa using fed, rfl, ?_, ?_⟩
    · simpa [markedFrom, Markup.Tokenizer.feedAll, numbered] using known
    · simpa [markedFrom, Markup.Tokenizer.feedAll, numbered] using holds
  | cons item rest inductionHypothesis =>
    let tokens := (builder.tokenizer.feed (marked front.length item)).1
    have knownItem : KnownNames (front ++ [item]) (done.map Prod.fst ++ tokens) :=
      (known.mono [item]).append (fed.reads.feed item).2
    have all : (front ++ [item]) ++ rest = front ++ item :: rest := by simp
    have recovers : (builder.withItem item).Recovers (shownName (front ++ item :: rest))
        (done.map Prod.fst ++ tokens) := by
      rw [← all]
      exact (fed.withItem item).recovers knownItem rest
    have split : done ++ numbered front.length
          (builder.tokenizer.feedAll (markedFrom front.length (item :: rest))).1 =
        (done ++ tokens.map (·, front.length)) ++ numbered (front ++ [item]).length
          ((builder.tokenizer.feed (marked front.length item)).2.feedAll
            (markedFrom (front ++ [item]).length rest)).1 := by
      simp [markedFrom, Markup.Tokenizer.feedAll, numbered, tokens]
    rw [split]
    rcases holds.feed fed item recovers with
      ⟨builder', feeds, fed', tokenizer, holds'⟩ | ⟨error, builder', feeds, fault⟩
    · have known' : KnownNames (front ++ [item])
          ((done ++ tokens.map (·, front.length)).map Prod.fst) := by
        simpa [Function.comp_def] using knownItem
      have onward := inductionHypothesis fed' (by rw [all]; exact holds') known'
      rw [all, tokenizer] at onward
      rw [feedAll_of_ok feeds]
      simpa [markedFrom, Markup.Tokenizer.feedAll] using onward
    · rw [feedAll_of_error feeds]
      exact .inr ⟨error, rfl, fault.append _⟩

/-- What becomes of some tokens: a skeleton that is written as they are, or a fault. -/
inductive Outcome (shown : Text → Text) (tokens : List (Token × Nat)) : Except Error Tree → Prop
  where
  | built {tree : Tree} (balanced : Balanced shown tokens)
      (written : tree.written = writtenOut [] tokens) (proper : tree.IsProper)
      (tagged : ∀ part ∈ tree.children, part.Tagged) : Outcome shown tokens (.ok tree)
  | failed {error : Error} (fault : Fault shown tokens error) : Outcome shown tokens (.error error)

/-- A builder that has handled all tokens comes to their outcome. -/
theorem Holds.result {last : Builder} (holds : Holds shown done last)
    (handled : builder.handleAll (builder.index - 1) builder.tokenizer.close.1 = (.ok (), last))
    (recover : last.recover = shown) : Outcome shown done builder.result := by
  cases inside : last.opened with
  | cons element outer =>
    have opened : openElements done =
        (element.tag, element.item) :: outer.map fun other => (other.tag, other.item) := by
      rw [← holds.opened, openNames, inside, List.map_cons]
    rw [result_of_opened handled inside, recover]
    exact .failed (.unclosed holds.faultless opened)
  | nil =>
    have closed : openElements done = [] := by
      rw [← holds.opened, openNames, inside, List.map_nil]
    have written : writtenParts last.roots = writtenOut [] done := by
      rw [← holds.written, Builder.written, inside, writtenOpened, List.append_nil]
    rw [result_of_closed handled inside]
    split
    · rename_i empty
      refine .failed (.empty ?_)
      by_contra nonempty
      apply holds.faultless.writtenOut_ne_nil nonempty
      rw [← written, empty, writtenParts]
    · rename_i nonempty
      obtain ⟨proper, tagged⟩ := isProper_treeOf holds.tagged.roots
      refine .built ⟨?_, holds.faultless, closed⟩ ?_ proper tagged
      · intro nothing
        rw [nothing, writtenOut, writtenParts_eq_nil_iff] at written
        exact nonempty written
      · rw [written_treeOf holds.tagged.roots, written]

end Builder

/-- Some items come to the outcome of their tokens. -/
theorem ofItems_outcome (items : List Item) :
    Builder.Outcome (shownName items) (locatedTokens items) (ofItems items) := by
  have fed : Builder.HasFed [] {} := ⟨rfl, fun _ => rfl, .nil⟩
  have holds : Builder.Holds (shownName ([] ++ items)) [] {} :=
    ⟨rfl, rfl, faultless_nil _, by simp, by simp⟩
  rcases holds.feedAll fed (by simp [KnownNames]) with
    ⟨builder, feeds, fed, tokenizer, known, holds⟩ | ⟨error, feeds, first⟩
  · simp only [List.nil_append, List.length_nil] at fed tokenizer known holds
    have outcome : ofItems items = builder.result := by
      rw [ofItems, feeds]
      rfl
    have recovers : builder.Recovers (shownName items) _ :=
      List.append_nil items ▸ fed.recovers (known.append fed.reads.close) []
    have located : numbered 0 (({} : Markup.Tokenizer).feedAll (markedFrom 0 items)).1 ++
        builder.tokenizer.close.1.map (·, builder.index - 1) = locatedTokens items := by
      rw [tokenizer, fed.index]
      rfl
    rw [outcome]
    rcases holds.handleAll (builder.index - 1) recovers with
      ⟨last, handled, holdsLast⟩ | ⟨error, last, handled, first⟩
    · have same := Builder.sameInput_handleAll builder (builder.index - 1)
        builder.tokenizer.close.1
      rw [handled] at same
      rw [located] at holdsLast
      exact holdsLast.result handled (fed.of_sameInput same).recover
    · rw [located] at first
      rw [Builder.result_of_fault handled]
      exact .failed (.close first)
  · have outcome : ofItems items = .error error := by
      rw [ofItems, feeds]
      rfl
    rw [outcome]
    exact .failed (.close (first.append _))

/-- Which error some items give is told by their tokens. -/
theorem ofItems_eq_error_iff {items : List Item} {error : Error} :
    ofItems items = .error error ↔ Fault (shownName items) (locatedTokens items) error := by
  have outcome := ofItems_outcome items
  generalize ofItems items = result at outcome ⊢
  constructor
  · rintro rfl
    cases outcome with
    | failed fault => exact fault
  · intro fault
    cases outcome with
    | built balanced => exact absurd fault (balanced.not_fault error)
    | failed fault' => rw [fault.unique fault']

/-- Some items make up a skeleton exactly if their tokens are balanced. -/
theorem exists_ofItems_iff {items : List Item} :
    (∃ tree, ofItems items = .ok tree) ↔ Balanced (shownName items) (locatedTokens items) := by
  have outcome := ofItems_outcome items
  generalize ofItems items = result at outcome ⊢
  constructor
  · rintro ⟨tree, rfl⟩
    cases outcome with
    | built balanced => exact balanced
  · intro balanced
    cases outcome with
    | built => exact ⟨_, rfl⟩
    | failed fault => exact absurd fault (balanced.not_fault _)

/-- Some items make up a skeleton exactly if their tokens are balanced. The skeleton in order
then is these tokens, with every start tag that closes itself as a start and an end, and every
closing tag as the end of the element that it closes. Otherwise the error is the first closing tag
that is a fault, else the innermost element that stays open, else that there is nothing. Names are
compared as they are shown: with the expression in braces for every marker, unless there are more
items than markers. -/
theorem ofItems_tokens (items : List Item) :
    (locatedTokens items).map Prod.fst = Markup.tokenize (markedFrom 0 items) ∧
      ((∃ tree, ofItems items = .ok tree) ↔
        Balanced (shownName items) (locatedTokens items)) ∧
      (∀ tree, ofItems items = .ok tree →
        tree.written = writtenOut [] (locatedTokens items) ∧ tree.IsProper ∧
          ∀ part ∈ tree.children, part.Tagged) ∧
      (∀ error, ofItems items = .error error ↔
        Fault (shownName items) (locatedTokens items) error) ∧
      (items.length ≤ markerLimit + 1 → ∀ token ∈ locatedTokens items, ∀ name,
        token.1.name? = some name → IsShownAs items name (shownName items name)) := by
  refine ⟨map_fst_locatedTokens items, exists_ofItems_iff, ?_, fun error => ofItems_eq_error_iff, ?_⟩
  · intro tree built
    have outcome := ofItems_outcome items
    rw [built] at outcome
    cases outcome with
    | built _ written proper tagged => exact ⟨written, proper, tagged⟩
  · intro fits token member name named
    have written := knownNames_locatedTokens items token.1 (List.mem_map_of_mem member) name named
    exact isShownAs_shownName fits written

/-- Two interpolations of one expression name the same element. -/
theorem ofItems_tokens_same_expression :
    let written (text : String) : Item := .text (.ofText text.toList)
    let tag : Item := .interpolation { expr := "tag".toList, source := .held (.text []) }
    ∃ tree, ofItems [written "<", tag, written ">a<br/></", tag, written ">"] = .ok tree ∧
      tree.written =
        [.startTag "x$1x".toList [] false, .text ['a'], .startTag "br".toList [] false,
          .endTag "br".toList, .endTag "x$1x".toList] := by
  intro written tag
  let items : List Item := [written "<", tag, written ">a<br/></", tag, written ">"]
  have succeeds : (ofItems items).isOk = true := by decide +kernel
  cases built : ofItems items with
  | error error =>
    rw [built] at succeeds
    cases succeeds
  | ok tree =>
    refine ⟨tree, rfl, ?_⟩
    rw [((ofItems_tokens items).2.2.1 tree built).1]
    decide +kernel

end HtmlTemplate.Skeleton
