import HtmlTemplate.Template.Basic
import Mathlib.Data.List.Basic

/-!
# Templates in alternating form

A list of texts and interpolations becomes a template whose items alternate. Nothing is lost: the
interpolations are those of the list, and each text is made of those that stand between two of
them. The same items come of the list if it is gone through one by one, with a text merged into
the one in front of it and an empty text put wherever one is missing (`alternates_ofItems`).
-/

namespace HtmlTemplate

/-- An empty chunk at the end adds nothing. -/
@[simp] theorem Chunk.append_empty (chunk : Chunk) : chunk.append {} = chunk := by
  simp [Chunk.append]

/-- An empty chunk in front adds nothing. -/
@[simp] theorem Chunk.empty_append (chunk : Chunk) : ({} : Chunk).append chunk = chunk := by
  simp [Chunk.append]

/-- Three chunks are the same one, whichever two are put together first. -/
theorem Chunk.append_assoc (first second third : Chunk) :
    (first.append second).append third = first.append (second.append third) := by
  simp [Chunk.append]

/-- The chunk, if the item is one. -/
def Item.chunk? : Item → Option Chunk
  | .text chunk => some chunk
  | .interpolation _ => none

namespace Template

/-! ## Runs of texts -/

/-- Chunks one behind the other as one. -/
def mergeChunks (chunks : List Chunk) : Chunk :=
  ⟨chunks.flatMap Chunk.raw, chunks.flatMap Chunk.decoded⟩

/-- The texts in front of, between and behind the interpolations of a list. -/
def textRuns (items : List Item) : List (List Chunk) :=
  (items.splitOnP (·.interpolation?.isSome)).map (·.filterMap Item.chunk?)

/-- In front of an interpolation stands a run of its own, which may be empty. -/
theorem textRuns_interpolation (interpolation : Interpolation) (items : List Item) :
    textRuns (.interpolation interpolation :: items) = [] :: textRuns items := by
  rw [textRuns, List.splitOnP_cons_eq_if_modifyHead]
  rfl

/-- A text in front belongs to the first run. -/
theorem textRuns_text (chunk : Chunk) (items : List Item) :
    textRuns (.text chunk :: items) = (textRuns items).modifyHead (chunk :: ·) := by
  rw [textRuns, textRuns, List.splitOnP_cons_eq_if_modifyHead]
  cases items.splitOnP (·.interpolation?.isSome) <;> rfl

/-! ## What a template keeps -/

/-- The interpolations of a template are those of its items. -/
theorem interpolations_ofItems (items : List Item) :
    (ofItems items).interpolations = items.filterMap Item.interpolation? := by
  induction items with
  | nil => rfl
  | cons item items inductionHypothesis =>
    cases item with
    | text chunk => exact inductionHypothesis
    | interpolation interpolation =>
      simp only [ofItems, interpolations, List.map_cons] at inductionHypothesis ⊢
      rw [inductionHypothesis]
      rfl

/-- The chunks of a template are the runs of texts in its items, each as one. -/
theorem chunks_ofItems (items : List Item) :
    (ofItems items).chunks = (textRuns items).map mergeChunks := by
  induction items with
  | nil => rfl
  | cons item items inductionHypothesis =>
    cases item with
    | text chunk =>
      rw [textRuns_text]
      cases runs : textRuns items with
      | nil =>
        rw [runs] at inductionHypothesis
        cases inductionHypothesis
      | cons run runs =>
        rw [runs] at inductionHypothesis
        obtain ⟨first, behind⟩ := List.cons.inj inductionHypothesis
        simp only [ofItems, chunks, List.modifyHead_cons, List.map_cons, first, behind]
        rfl
    | interpolation interpolation =>
      rw [textRuns_interpolation, List.map_cons, ← inductionHypothesis]
      rfl

/-! ## Items of a template -/

/-- A template begins with a text and an interpolation, if it has one. -/
theorem items_cons (first : Chunk) (place : Interpolation × Chunk)
    (rest : List (Interpolation × Chunk)) (spans : List Span) :
    items ⟨first, place :: rest, spans⟩ =
      .text first :: .interpolation place.1 :: items ⟨place.2, rest, spans⟩ :=
  rfl

/-- A template has one text more than interpolations. -/
theorem length_items (template : Template) :
    template.items.length = 2 * template.interpolations.length + 1 := by
  obtain ⟨first, rest, spans⟩ := template
  induction rest generalizing first with
  | nil => rfl
  | cons place rest inductionHypothesis =>
    have behind := inductionHypothesis place.2
    simp only [items_cons, interpolations, List.map_cons, List.length_cons] at behind ⊢
    omega

/-- The chunks stand at the even places. -/
theorem getElem?_items_even (template : Template) (index : Nat) :
    template.items[2 * index]? = template.chunks[index]?.map .text := by
  obtain ⟨first, rest, spans⟩ := template
  induction rest generalizing first index with
  | nil => cases index <;> rfl
  | cons place rest inductionHypothesis =>
    cases index with
    | zero => rfl
    | succ index => exact inductionHypothesis index place.2

/-- The interpolations stand at the odd places. -/
theorem getElem?_items_odd (template : Template) (index : Nat) :
    template.items[2 * index + 1]? = template.interpolations[index]?.map .interpolation := by
  obtain ⟨first, rest, spans⟩ := template
  induction rest generalizing first index with
  | nil => rfl
  | cons place rest inductionHypothesis =>
    cases index with
    | zero => rfl
    | succ index => exact inductionHypothesis index place.2

/-- The interpolations among the items of a template are those of the template. -/
theorem filterMap_items (template : Template) :
    template.items.filterMap Item.interpolation? = template.interpolations := by
  obtain ⟨first, rest, spans⟩ := template
  induction rest generalizing first with
  | nil => rfl
  | cons place rest inductionHypothesis =>
    exact congrArg (place.1 :: ·) (inductionHypothesis place.2)

/-- The items of a template give that template again, without the places in a source. -/
theorem ofItems_items (template : Template) :
    ofItems template.items = { template with spans := [] } := by
  obtain ⟨first, rest, spans⟩ := template
  induction rest generalizing first with
  | nil => simp only [items, List.flatMap_nil, ofItems, Chunk.append_empty]
  | cons place rest inductionHypothesis =>
    simp only [items_cons, ofItems, inductionHypothesis, Chunk.append_empty]

/-! ## Item by item -/

/-- Some items with an empty text at the end, unless a text stands there. -/
def endWithText (items : List Item) : List Item :=
  match items.getLast? with
  | some (.text _) => items
  | _ => items ++ [.text {}]

/-- One more item behind some that alternate: a text is merged into a text in front of it, and an
interpolation goes behind a text. -/
def addItem (done : List Item) : Item → List Item
  | .text chunk =>
    match done.getLast? with
    | some (.text last) => done.dropLast ++ [.text (last.append chunk)]
    | _ => done ++ [.text chunk]
  | .interpolation interpolation => endWithText done ++ [.interpolation interpolation]

/-- Some items brought into alternating form one by one. -/
def normalize (items : List Item) : List Item :=
  endWithText (items.foldl addItem [])

/-- Items that end with a text stay as they are. -/
theorem endWithText_append_text (front : List Item) (last : Chunk) :
    endWithText (front ++ [.text last]) = front ++ [.text last] := by
  simp [endWithText]

/-- Items that end with an interpolation get an empty text behind it. -/
theorem endWithText_append_interpolation (front : List Item) (interpolation : Interpolation) :
    endWithText (front ++ [.interpolation interpolation]) =
      front ++ [.interpolation interpolation] ++ [.text {}] := by
  simp [endWithText]

/-- A text is merged into a text that it comes behind. -/
theorem addItem_text (front : List Item) (last chunk : Chunk) :
    addItem (front ++ [.text last]) (.text chunk) = front ++ [.text (last.append chunk)] := by
  simp [addItem]

/-- Whether the text at the end is there already makes no difference to the next item. -/
theorem addItem_endWithText (done : List Item) (item : Item) :
    addItem (endWithText done) item = addItem done item := by
  rcases List.eq_nil_or_concat done with rfl | ⟨front, last, rfl⟩
  · cases item <;> rfl
  · rw [List.concat_eq_append]
    cases last with
    | text last => rw [endWithText_append_text]
    | interpolation last =>
      rw [endWithText_append_interpolation]
      cases item with
      | text chunk =>
        rw [addItem_text]
        simp [addItem]
      | interpolation interpolation => simp [addItem, endWithText]

/-- Whether the text at the end is there already makes no difference to all further items. -/
theorem endWithText_foldl_addItem (items done : List Item) :
    endWithText (items.foldl addItem (endWithText done)) =
      endWithText (items.foldl addItem done) := by
  cases items with
  | nil =>
    rcases List.eq_nil_or_concat done with rfl | ⟨front, last, rfl⟩
    · rfl
    · cases last <;> simp [endWithText]
  | cons item items => rw [List.foldl_cons, List.foldl_cons, addItem_endWithText]

/-- An empty text in front of some items adds nothing to their template. -/
theorem items_ofItems_empty (items : List Item) :
    (ofItems (.text {} :: items)).items = (ofItems items).items := by
  simp [ofItems, Template.items]

/-- The items of a template with a text in front, where an interpolation comes next. -/
theorem items_ofItems_text_interpolation (chunk : Chunk) (interpolation : Interpolation)
    (items : List Item) :
    (ofItems (.text chunk :: .interpolation interpolation :: items)).items =
      .text chunk :: .interpolation interpolation :: (ofItems items).items := by
  simp [ofItems, Template.items]

/-- Behind a text the items that follow are brought into the form of their template. -/
theorem endWithText_foldl_addItem_text (items front : List Item) (last : Chunk) :
    endWithText (items.foldl addItem (front ++ [.text last])) =
      front ++ (ofItems (.text last :: items)).items := by
  induction items generalizing front last with
  | nil =>
    rw [List.foldl_nil, endWithText_append_text]
    simp [ofItems, Template.items]
  | cons item items inductionHypothesis =>
    rw [List.foldl_cons]
    cases item with
    | text chunk =>
      rw [addItem_text, inductionHypothesis]
      simp only [ofItems, Template.items, Chunk.append_assoc]
    | interpolation interpolation =>
      rw [addItem, endWithText_append_text, ← endWithText_foldl_addItem,
        endWithText_append_interpolation, inductionHypothesis, items_ofItems_empty,
        items_ofItems_text_interpolation]
      simp

/-- Gone through one by one, some items become those of their template. -/
theorem normalize_eq (items : List Item) : normalize items = (ofItems items).items := by
  have built := endWithText_foldl_addItem_text items [] {}
  rw [normalize, ← endWithText_foldl_addItem]
  refine built.trans ?_
  rw [List.nil_append, items_ofItems_empty]

/-! ## Alternating form -/

/-- A list of items is the alternating form of another one: texts and interpolations take turns,
and nothing of the other list is lost. -/
structure IsAlternatingForm (items normal : List Item) : Prop where
  /-- The number of items is odd. -/
  odd : normal.length = 2 * (items.filterMap Item.interpolation?).length + 1
  texts : ∀ index item, normal[2 * index]? = some item → ∃ chunk, item = .text chunk
  places : ∀ index item, normal[2 * index + 1]? = some item →
    ∃ interpolation, item = .interpolation interpolation
  kept : normal.filterMap Item.interpolation? = items.filterMap Item.interpolation?
  /-- Each text is made of those that the other list has in its place. -/
  merged : ∀ index chunk, normal[2 * index]? = some (.text chunk) →
    ∃ run, (textRuns items)[index]? = some run ∧ chunk.raw = run.flatMap Chunk.raw ∧
      chunk.decoded = run.flatMap Chunk.decoded
  /-- The list is its own alternating form. -/
  settled : (ofItems normal).items = normal

/-- The items of a template are the alternating form of those that it was made of. -/
theorem isAlternatingForm_ofItems (items : List Item) :
    IsAlternatingForm items (ofItems items).items where
  odd := by rw [length_items, interpolations_ofItems]
  texts := by
    intro index item found
    rw [getElem?_items_even] at found
    obtain ⟨chunk, -, same⟩ := Option.map_eq_some_iff.mp found
    exact ⟨chunk, same.symm⟩
  places := by
    intro index item found
    rw [getElem?_items_odd] at found
    obtain ⟨interpolation, -, same⟩ := Option.map_eq_some_iff.mp found
    exact ⟨interpolation, same.symm⟩
  kept := by rw [filterMap_items, interpolations_ofItems]
  merged := by
    intro index chunk found
    rw [getElem?_items_even, chunks_ofItems, List.getElem?_map] at found
    obtain ⟨merged, known, same⟩ := Option.map_eq_some_iff.mp found
    obtain ⟨run, listed, rfl⟩ := Option.map_eq_some_iff.mp known
    obtain rfl := Item.text.inj same
    exact ⟨run, listed, rfl, rfl⟩
  settled := by
    rw [ofItems_items]
    rfl

/-- The items of a template are the alternating form of the items that it was made of, and what
these become when they are gone through one by one. -/
theorem alternates_ofItems (items : List Item) :
    IsAlternatingForm items (ofItems items).items ∧ normalize items = (ofItems items).items :=
  ⟨isAlternatingForm_ofItems items, normalize_eq items⟩

end Template

end HtmlTemplate
