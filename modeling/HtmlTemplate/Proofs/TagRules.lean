import HtmlTemplate.Proofs.Building
import HtmlTemplate.Proofs.NameMarkers
import Mathlib.Data.List.Induction

/-!
# The rules of tags

How the tags among some tokens have to stand to each other for the tokens to make up a skeleton
(`Balanced`), which fault there is if they do not (`Fault`), and how tokens and skeletons are
written in order.
-/

namespace HtmlTemplate.Skeleton

open Markup (Token)

/-! ## The tokens of items -/

/-- The texts by which items go into the markup, from an index on. -/
def markedFrom (index : Nat) : List Item → List Text
  | [] => []
  | item :: items => marked index item :: markedFrom (index + 1) items

/-- The tokens of some lists, each with the number of its list. -/
def numbered (index : Nat) : List (List Token) → List (Token × Nat)
  | [] => []
  | tokens :: lists => tokens.map (·, index) ++ numbered (index + 1) lists

/-- All tokens of some items, each with the index of the item in which it is completed. What is
left at the end belongs to the last item. -/
def locatedTokens (items : List Item) : List (Token × Nat) :=
  let (lists, tokenizer) := ({} : Markup.Tokenizer).feedAll (markedFrom 0 items)
  numbered 0 lists ++ tokenizer.close.1.map (·, items.length - 1)

/-- The numbered tokens are those of all lists, one after the other. -/
theorem map_fst_numbered (index : Nat) (lists : List (List Token)) :
    (numbered index lists).map Prod.fst = lists.flatten := by
  induction lists generalizing index with
  | nil => rfl
  | cons tokens lists inductionHypothesis =>
    simp [numbered, inductionHypothesis, Function.comp_def]

/-- Without the indices, these are the tokens of the texts. -/
theorem map_fst_locatedTokens (items : List Item) :
    (locatedTokens items).map Prod.fst = Markup.tokenize (markedFrom 0 items) := by
  simp [locatedTokens, Markup.tokenize, map_fst_numbered, Function.comp_def]

/-! ## Names as they are shown -/

/-- The expression of the interpolation with an index. -/
def exprAt? (items : List Item) (index : Nat) : Option Text :=
  (items[index]?.bind Item.interpolation?).map Interpolation.expr

/-- An index is that of an interpolation among some items. -/
def IsPlace (items : List Item) (index : Nat) : Prop :=
  ∃ expr, exprAt? items index = some expr

/-- How a name is shown that is made of literal texts and of the markers of interpolations among
some items: with the literal texts as they are, and the expression in braces for every marker. -/
inductive IsShownAs (items : List Item) : Text → Text → Prop where
  | nil : IsShownAs items [] []
  | literal (text : Text) {name shown : Text} (rest : IsShownAs items name shown) :
      IsShownAs items (protect text ++ name) (text ++ shown)
  | marker {index : Nat} {expr : Text} (place : exprAt? items index = some expr)
      {name shown : Text} (rest : IsShownAs items name shown) :
      IsShownAs items (marker index ++ name) ('{' :: (expr ++ '}' :: shown))

/-- A name with the expression in braces for the marker of every interpolation among some items.
Doubled dollar signs are made one in the rest. -/
def shownName (items : List Item) (name : Text) : Text :=
  substitute (fun index =>
    (exprAt? items index).elim (marker index) fun expr => '{' :: expr ++ ['}']) name

/-- Further items do not change the expressions of those in front. -/
theorem exprAt?_append {items : List Item} {index : Nat} (within : index < items.length)
    (more : List Item) : exprAt? (items ++ more) index = exprAt? items index := by
  rw [exprAt?, List.getElem?_append_left within, exprAt?]

/-- Behind the last item there is no expression. -/
theorem exprAt?_of_le {items : List Item} {index : Nat} (beyond : items.length ≤ index) :
    exprAt? items index = none := by
  rw [exprAt?, List.getElem?_eq_none beyond]
  rfl

/-- A further item has its expression at its own place. -/
theorem exprAt?_append_singleton (items : List Item) (item : Item) (index : Nat) :
    exprAt? (items ++ [item]) index =
      if index = items.length then item.interpolation?.map Interpolation.expr
      else exprAt? items index := by
  split
  · rename_i last
    simp [exprAt?, last]
  · by_cases within : index < items.length
    · exact exprAt?_append within [item]
    · have beyond : (items ++ [item]).length ≤ index := by
        rw [List.length_append, List.length_singleton]
        omega
      rw [exprAt?_of_le beyond, exprAt?_of_le (Nat.le_of_not_lt within)]

/-- The place of an interpolation is one of the items. -/
theorem IsPlace.lt {items : List Item} {index : Nat} (place : IsPlace items index) :
    index < items.length := by
  obtain ⟨expr, found⟩ := place
  by_contra beyond
  rw [exprAt?_of_le (Nat.le_of_not_lt beyond)] at found
  cases found

/-- A place stays one when further items come. -/
theorem IsPlace.append {items : List Item} {index : Nat} (place : IsPlace items index)
    (more : List Item) : IsPlace (items ++ more) index := by
  rwa [IsPlace, exprAt?_append place.lt]

/-- A name with markers of some items only is shown in the same way when more items follow. -/
theorem shownName_append {items : List Item} {name : Text}
    (written : WrittenWith (IsPlace items) name) (more : List Item) :
    shownName (items ++ more) name = shownName items name := by
  refine substitute_congr fun index member => ?_
  rw [exprAt?_append (written.of_mem_markers index member).lt]

/-- A name that is made of literal texts and markers is shown as it is made. -/
theorem isShownAs_shownName {items : List Item} (fits : items.length ≤ markerLimit + 1)
    {name : Text} (written : WrittenWith (IsPlace items) name) :
    IsShownAs items name (shownName items name) := by
  obtain ⟨segments, among, rfl⟩ := written
  have fit : ∀ index, .marker index ∈ segments → index ≤ markerLimit :=
    fun index member => Nat.le_of_lt_succ (Nat.lt_of_lt_of_le (among index member).lt fits)
  rw [shownName, substitute_flatMap_written fit]
  clear fit
  induction segments with
  | nil => exact .nil
  | cons segment segments inductionHypothesis =>
    have behind := inductionHypothesis fun index member =>
      among index (List.mem_cons_of_mem segment member)
    cases segment with
    | literal text => exact .literal text behind
    | marker index =>
      obtain ⟨expr, place⟩ := among index (by simp)
      have here := IsShownAs.marker place behind
      simpa [Segment.written, Segment.replaced, place] using here

/-! ## Names of the tokens of items -/

/-- The names of some tokens are made of literal texts and of markers of some items. -/
def KnownNames (items : List Item) (tokens : List Token) : Prop :=
  ∀ token ∈ tokens, ∀ name, token.name? = some name → WrittenWith (IsPlace items) name

/-- Known names are those of each run of tokens. -/
theorem KnownNames.append {items : List Item} {tokens more : List Token}
    (known : KnownNames items tokens) (knownMore : KnownNames items more) :
    KnownNames items (tokens ++ more) := by
  intro token member
  rcases List.mem_append.mp member with member | member
  · exact known token member
  · exact knownMore token member

/-- A known name stays one when further items come. -/
theorem KnownNames.mono {items : List Item} {tokens : List Token} (known : KnownNames items tokens)
    (more : List Item) : KnownNames (items ++ more) tokens :=
  fun token member name named =>
    (known token member name named).mono fun _ place => place.append more

/-- The text that waits in a tokenizer is the end of what some items went into the markup by. -/
def HasRead (items : List Item) (tokenizer : Markup.Tokenizer) : Prop :=
  ∃ text, WrittenWith (IsPlace items) text ∧ tokenizer.pending <:+ text

namespace HasRead

variable {items : List Item} {tokenizer : Markup.Tokenizer}

/-- A tokenizer that has seen nothing has read no items. -/
theorem nil : HasRead [] {} :=
  ⟨[], .nil, List.suffix_refl _⟩

/-- An item goes into the markup by a literal text, or by a marker of its own. -/
theorem writtenWith_marked (items : List Item) (item : Item) :
    WrittenWith (IsPlace (items ++ [item])) (marked items.length item) := by
  cases item with
  | text chunk => exact .protect chunk.decoded
  | interpolation place =>
    exact .marker ⟨place.expr, by rw [exprAt?_append_singleton, if_pos rfl]; rfl⟩

/-- The names in a text with known markers are known. -/
theorem knownNames_scan {text : Text} (written : WrittenWith (IsPlace items) text)
    {waiting : Text} (suffix : waiting <:+ text) (atEnd : Bool) (rawElement : Option Text) :
    KnownNames items (Markup.scan atEnd rawElement waiting).1 := by
  intro token member name named
  obtain ⟨source, framed, rfl⟩ :=
    (Markup.takenFrom_scan atEnd rawElement waiting).2 token member name named
  exact (written.of_framedIn (framed.mono suffix.isInfix)).lowercase

/-- Feeding a further item gives known names, and what waits then is the end of what all of them
went into the markup by. -/
theorem feed (reads : HasRead items tokenizer) (item : Item) :
    HasRead (items ++ [item]) (tokenizer.feed (marked items.length item)).2 ∧
      KnownNames (items ++ [item]) (tokenizer.feed (marked items.length item)).1 := by
  obtain ⟨text, written, front, parts⟩ := reads
  have whole : WrittenWith (IsPlace (items ++ [item])) (text ++ marked items.length item) :=
    (written.mono fun _ place => place.append [item]).append (writtenWith_marked items item)
  have suffix : tokenizer.pending ++ marked items.length item <:+
      text ++ marked items.length item := ⟨front, by rw [← parts]; simp⟩
  refine ⟨⟨_, whole, ?_⟩, knownNames_scan whole suffix false tokenizer.rawElement⟩
  exact (Markup.takenFrom_scan false tokenizer.rawElement _).1.trans suffix

/-- So does what waits at the end. -/
theorem close (reads : HasRead items tokenizer) : KnownNames items tokenizer.close.1 := by
  obtain ⟨text, written, suffix⟩ := reads
  exact knownNames_scan written suffix true tokenizer.rawElement

/-- Items that are fed one by one are read, and the names among their tokens are known. -/
theorem feedAll {front : List Item} (reads : HasRead front tokenizer) (rest : List Item) :
    HasRead (front ++ rest) (tokenizer.feedAll (markedFrom front.length rest)).2 ∧
      KnownNames (front ++ rest)
        (tokenizer.feedAll (markedFrom front.length rest)).1.flatten := by
  induction rest generalizing front tokenizer with
  | nil => exact ⟨by simpa [markedFrom, Markup.Tokenizer.feedAll] using reads,
      by simp [markedFrom, Markup.Tokenizer.feedAll, KnownNames]⟩
  | cons item rest inductionHypothesis =>
    obtain ⟨readsItem, known⟩ := reads.feed item
    obtain ⟨readsAll, knownAll⟩ := inductionHypothesis readsItem
    have further := known.mono rest
    rw [List.append_assoc, List.singleton_append] at readsAll knownAll further
    rw [List.length_append, List.length_singleton] at readsAll knownAll
    exact ⟨readsAll, further.append knownAll⟩

end HasRead

/-- All names in the markup of some items are made of literal texts and of their markers. -/
theorem knownNames_locatedTokens (items : List Item) :
    KnownNames items ((locatedTokens items).map Prod.fst) := by
  obtain ⟨reads, known⟩ := HasRead.nil.feedAll items
  rw [map_fst_locatedTokens]
  exact known.append reads.close

/-! ## The rules of tags -/

/-- The elements that are open behind a token, innermost first: the name of each, and the item of
its start tag. -/
def openedBehind (opened : List (Text × Nat)) : Token × Nat → List (Text × Nat)
  | (.startTag name _ false, item) => (name, item) :: opened
  | (.startTag _ _ true, _) => opened
  | (.endTag _, _) => opened.tail
  | (.genericClose, _) => opened.tail
  | (.text _, _) => opened

/-- The elements that some tokens leave open. -/
def openElements (tokens : List (Token × Nat)) : List (Text × Nat) :=
  tokens.foldl openedBehind []

/-- The fault that a closing tag is, if it is one: no element is open, or the innermost one has
another name. -/
def closeFault? (shown : Text → Text) (opened : List (Text × Nat)) : Token × Nat → Option Error
  | (.endTag name, item) =>
    match opened with
    | [] => some (.strayClosingTag (shown name) item)
    | (tag, _) :: _ =>
      if shown tag = shown name then none
      else some (.mismatchedTag (shown tag) (shown name) item)
  | (.genericClose, item) =>
    match opened with
    | [] => some (.strayClosingTag ['/'] item)
    | _ :: _ => none
  | _ => none

/-- No closing tag is a fault. -/
def Faultless (shown : Text → Text) (tokens : List (Token × Nat)) : Prop :=
  ∀ before token after, tokens = before ++ token :: after →
    closeFault? shown (openElements before) token = none

/-- Some tokens make up a skeleton. -/
structure Balanced (shown : Text → Text) (tokens : List (Token × Nat)) : Prop where
  nonempty : tokens ≠ []
  faultless : Faultless shown tokens
  closed : openElements tokens = []

/-- The first closing tag that is a fault. -/
def FirstFault (shown : Text → Text) (tokens : List (Token × Nat)) (error : Error) : Prop :=
  ∃ before token after, tokens = before ++ token :: after ∧ Faultless shown before ∧
    closeFault? shown (openElements before) token = some error

/-- Why some tokens make up no skeleton. -/
inductive Fault (shown : Text → Text) (tokens : List (Token × Nat)) : Error → Prop where
  | close {error : Error} (first : FirstFault shown tokens error) : Fault shown tokens error
  | unclosed {name : Text} {item : Nat} {outer : List (Text × Nat)}
      (faultless : Faultless shown tokens) (inside : openElements tokens = (name, item) :: outer) :
      Fault shown tokens (.unclosedTag (shown name) item)
  | empty (nothing : tokens = []) : Fault shown tokens .empty

/-- One more token opens or closes an element behind the others. -/
theorem openElements_append (tokens : List (Token × Nat)) (token : Token × Nat) :
    openElements (tokens ++ [token]) = openedBehind (openElements tokens) token := by
  simp [openElements]

/-- An element that is open behind a token was open before, or the token has its name. -/
theorem mem_openedBehind {opened : List (Text × Nat)} {token : Token × Nat}
    {element : Text × Nat} (member : element ∈ openedBehind opened token) :
    token.1.name? = some element.1 ∨ element ∈ opened := by
  obtain ⟨token, item⟩ := token
  cases token with
  | startTag name attributes closing =>
    cases closing with
    | true => exact .inr member
    | false =>
      rcases List.mem_cons.mp member with rfl | outer
      · exact .inl rfl
      · exact .inr outer
  | endTag _ => exact .inr (List.mem_of_mem_tail member)
  | genericClose => exact .inr (List.mem_of_mem_tail member)
  | text _ => exact .inr member

/-- Every name of an open element is that of one of the tokens. -/
theorem exists_of_mem_openElements {tokens : List (Token × Nat)} {element : Text × Nat}
    (member : element ∈ openElements tokens) :
    ∃ token ∈ tokens, token.1.name? = some element.1 := by
  induction tokens using List.reverseRecOn with
  | nil => cases member
  | append_singleton tokens token inductionHypothesis =>
    rw [openElements_append] at member
    rcases mem_openedBehind member with named | earlier
    · exact ⟨token, by simp, named⟩
    · obtain ⟨other, among, named⟩ := inductionHypothesis earlier
      exact ⟨other, List.mem_append_left _ among, named⟩

/-- Without tokens there is no fault. -/
theorem faultless_nil (shown : Text → Text) : Faultless shown [] := by
  intro before token after parts
  simp at parts

/-- A further token is no fault. -/
theorem Faultless.append {shown : Text → Text} {tokens : List (Token × Nat)} {token : Token × Nat}
    (faultless : Faultless shown tokens)
    (fits : closeFault? shown (openElements tokens) token = none) :
    Faultless shown (tokens ++ [token]) := by
  intro before other after parts
  cases after using List.reverseRecOn with
  | nil =>
    obtain ⟨rfl, same⟩ := List.append_inj' parts rfl
    cases same
    exact fits
  | append_singleton after last =>
    have shorter : tokens ++ [token] = (before ++ other :: after) ++ [last] := by
      rw [parts]
      simp
    obtain ⟨rfl, _⟩ := List.append_inj' shorter rfl
    exact faultless before other after rfl

/-- The first fault stays the first one, whatever comes behind it. -/
theorem FirstFault.append {shown : Text → Text} {tokens : List (Token × Nat)} {error : Error}
    (first : FirstFault shown tokens error) (more : List (Token × Nat)) :
    FirstFault shown (tokens ++ more) error := by
  obtain ⟨before, token, after, rfl, faultless, broken⟩ := first
  exact ⟨before, token, after ++ more, by simp, faultless, broken⟩

/-- Tokens with a first fault are not faultless. -/
theorem FirstFault.not_faultless {shown : Text → Text} {tokens : List (Token × Nat)}
    {error : Error} (first : FirstFault shown tokens error) : ¬ Faultless shown tokens := by
  obtain ⟨before, token, after, parts, _, broken⟩ := first
  intro faultless
  rw [faultless before token after parts] at broken
  cases broken

/-- A fault does not stand in what is faultless. -/
theorem Faultless.eq_nil_of_fault {shown : Text → Text}
    {before between after rest : List (Token × Nat)} {token : Token × Nat} {error : Error}
    (faultless : Faultless shown (before ++ between))
    (parts : token :: after = between ++ rest)
    (broken : closeFault? shown (openElements before) token = some error) : between = [] := by
  cases between with
  | nil => rfl
  | cons other between =>
    cases parts
    rw [faultless before token between rfl] at broken
    cases broken

/-- There is only one first fault. -/
theorem FirstFault.unique {shown : Text → Text} {tokens : List (Token × Nat)}
    {error error' : Error} (first : FirstFault shown tokens error)
    (first' : FirstFault shown tokens error') : error = error' := by
  obtain ⟨before, token, after, rfl, faultless, broken⟩ := first
  obtain ⟨before', token', after', parts, faultless', broken'⟩ := first'
  -- The one that stands further in front lies in what the other says is faultless.
  rcases List.append_eq_append_iff.mp parts with ⟨between, rfl, rest⟩ | ⟨between, rfl, rest⟩
  · obtain rfl := faultless'.eq_nil_of_fault rest broken
    rw [List.append_nil] at broken'
    cases rest
    exact Option.some.inj (broken.symm.trans broken')
  · obtain rfl := faultless.eq_nil_of_fault rest broken'
    rw [List.append_nil] at broken
    cases rest
    exact Option.some.inj (broken.symm.trans broken')

/-- There is only one reason. -/
theorem Fault.unique {shown : Text → Text} {tokens : List (Token × Nat)} {error error' : Error}
    (fault : Fault shown tokens error) (fault' : Fault shown tokens error') : error = error' := by
  cases fault with
  | close first =>
    cases fault' with
    | close first' => exact first.unique first'
    | unclosed faultless _ => exact absurd faultless first.not_faultless
    | empty nothing =>
      subst nothing
      exact absurd (faultless_nil shown) first.not_faultless
  | unclosed faultless inside =>
    cases fault' with
    | close first => exact absurd faultless first.not_faultless
    | unclosed _ inside' =>
      rw [inside] at inside'
      cases inside'
      rfl
    | empty nothing =>
      subst nothing
      cases inside
  | empty nothing =>
    subst nothing
    cases fault' with
    | close first => exact absurd (faultless_nil shown) first.not_faultless
    | unclosed _ inside => cases inside
    | empty _ => rfl

/-- Where all elements are closed there is no fault. -/
theorem Balanced.not_fault {shown : Text → Text} {tokens : List (Token × Nat)}
    (balanced : Balanced shown tokens) (error : Error) : ¬ Fault shown tokens error := by
  intro fault
  cases fault with
  | close first => exact first.not_faultless balanced.faultless
  | unclosed _ inside =>
    rw [balanced.closed] at inside
    cases inside
  | empty nothing => exact balanced.nonempty nothing

/-- Two ways to show names that agree on the names in play find the same faults. -/
theorem closeFault?_congr {shown shown' : Text → Text} {opened : List (Text × Nat)}
    {token : Token × Nat} (agreeOpened : ∀ element ∈ opened, shown element.1 = shown' element.1)
    (agree : ∀ name, token.1.name? = some name → shown name = shown' name) :
    closeFault? shown opened token = closeFault? shown' opened token := by
  obtain ⟨token, item⟩ := token
  cases token with
  | endTag name =>
    have same := agree name rfl
    cases opened with
    | nil => simp only [closeFault?, same]
    | cons element outer =>
      have sameOpened := agreeOpened element (by simp)
      simp only [closeFault?, same, sameOpened]
  | _ => rfl

/-! ## Writing in order -/

/-- What a token is written as where some elements are open: a start tag that closes itself is
written with its end, and a closing tag as the end of the innermost element. -/
def writtenAs (opened : List (Text × Nat)) : Token → List Token
  | .startTag name attributes true => [.startTag name attributes false, .endTag name]
  | .startTag name attributes false => [.startTag name attributes false]
  | .endTag _ => opened.head?.toList.map fun innermost => .endTag innermost.1
  | .genericClose => opened.head?.toList.map fun innermost => .endTag innermost.1
  | .text content => [.text content]

/-- What some tokens are written as, one after the other. -/
def writtenOut (opened : List (Text × Nat)) : List (Token × Nat) → List Token
  | [] => []
  | token :: tokens => writtenAs opened token.1 ++ writtenOut (openedBehind opened token) tokens

mutual

/-- A part in order: a text, or the start of an element, what stands inside, and its end. -/
def Part.written : Part → List Token
  | .text content => [.text content]
  | .element tag attributes children =>
    .startTag (tag.getD []) attributes false :: (writtenParts children ++ [.endTag (tag.getD [])])

/-- Some parts in order. -/
def writtenParts : List Part → List Token
  | [] => []
  | part :: parts => part.written ++ writtenParts parts

end

/-- A skeleton in order. A root only groups, and what it groups is written. -/
def Tree.written (tree : Tree) : List Token :=
  if tree.isRoot then writtenParts tree.children else tree.toPart.written

/-- Parts are written one after the other. -/
theorem writtenParts_append (parts more : List Part) :
    writtenParts (parts ++ more) = writtenParts parts ++ writtenParts more := by
  induction parts with
  | nil => rfl
  | cons part parts inductionHypothesis => simp [writtenParts, inductionHypothesis]

/-- A single part is written as itself. -/
theorem writtenParts_singleton (part : Part) : writtenParts [part] = part.written := by
  simp [writtenParts]

/-- No part is written as nothing. -/
theorem writtenParts_eq_nil_iff {parts : List Part} : writtenParts parts = [] ↔ parts = [] := by
  rcases parts with _ | ⟨_ | _, _⟩ <;> simp [writtenParts, Part.written]

/-- One more token is written behind the others, by what is open there. -/
theorem writtenOut_append (opened : List (Text × Nat)) (tokens : List (Token × Nat))
    (token : Token × Nat) :
    writtenOut opened (tokens ++ [token]) =
      writtenOut opened tokens ++ writtenAs (tokens.foldl openedBehind opened) token.1 := by
  induction tokens generalizing opened with
  | nil => simp [writtenOut]
  | cons first tokens inductionHypothesis =>
    simp [writtenOut, inductionHypothesis]

/-- Some tokens without a fault are written as some tokens. -/
theorem Faultless.writtenOut_ne_nil {shown : Text → Text} {tokens : List (Token × Nat)}
    (faultless : Faultless shown tokens) (nonempty : tokens ≠ []) : writtenOut [] tokens ≠ [] := by
  obtain ⟨⟨token, item⟩, tokens, rfl⟩ := List.exists_cons_of_ne_nil nonempty
  have fits := faultless [] (token, item) tokens rfl
  cases token with
  | startTag name attributes closing => cases closing <;> simp [writtenOut, writtenAs]
  | endTag name => cases fits
  | genericClose => cases fits
  | text content => simp [writtenOut, writtenAs]

/-- A part in which every element has a tag. -/
inductive Part.Tagged : Part → Prop where
  | text (content : Text) : Part.Tagged (.text content)
  | element {tag : Text} {attributes : List Markup.WrittenAttribute} {children : List Part}
      (inside : ∀ child ∈ children, Part.Tagged child) :
      Part.Tagged (.element (some tag) attributes children)

/-- The skeleton of some parts is written as these parts. -/
theorem written_treeOf {parts : List Part} (tagged : ∀ part ∈ parts, part.Tagged) :
    (treeOf parts).written = writtenParts parts := by
  unfold treeOf
  split
  · rename_i attributes children
    cases tagged _ (List.mem_singleton.mpr rfl)
    exact (writtenParts_singleton _).symm
  · rfl

/-- A skeleton is an element, or it groups some parts that are no single element. -/
def Tree.IsProper (tree : Tree) : Prop :=
  tree.isRoot → tree.attributes = [] ∧
    ∀ tag attributes children, tree.children ≠ [.element tag attributes children]

/-- Parts whose elements are named make a proper tree, and are so inside it. -/
theorem isProper_treeOf {parts : List Part} (tagged : ∀ part ∈ parts, part.Tagged) :
    (treeOf parts).IsProper ∧ ∀ part ∈ (treeOf parts).children, part.Tagged := by
  unfold treeOf
  split
  · rename_i attributes children
    cases tagged _ (List.mem_singleton.mpr rfl) with
    | element inside => exact ⟨fun root => (by cases root), inside⟩
  · rename_i several
    exact ⟨fun _ => ⟨rfl, several⟩, tagged⟩

end HtmlTemplate.Skeleton
