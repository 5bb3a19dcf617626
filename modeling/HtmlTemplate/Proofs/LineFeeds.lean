import HtmlTemplate.Proofs.Texts
import HtmlTemplate.Toml.Scalar

/-!
# Readers and a line feed at the end

A reader is run on a text with a line feed at its end, and on the text without it. An `Exact` reader
gives the same both times, and leaves the line feed. A `Steady` one may also take the line feed, and
then what the other run leaves is dead, so that whatever needs more text fails in both runs. A
`Lenient` one may take the line feed even where it fails without it, as do the readers of single
pieces; repeated, it is steady (`Lenient.many`).

Carriage returns are left out, for in front of a line feed they belong to the line end.
-/

namespace HtmlTemplate.Toml.Reader

variable {α β γ δ : Type}

/-! ## Steps of readers -/

section Steps

variable {reader second : Reader α} {text rest : Text} {item : α}

/-- The second of two readers goes on with what the first has left. -/
theorem bind_apply (reader : Reader α) (next : α → Reader β) (text : Text) :
    (reader >>= next) text = (reader text).bind fun (item, rest) => next item rest :=
  rfl

/-- Behind a reader that fails nothing is read. -/
theorem bind_of_none (failed : reader text = none) (next : α → Reader β) :
    (reader >>= next) text = none := by
  rw [bind_apply, failed]
  rfl

/-- Behind a reader that takes an item the next one reads the rest. -/
theorem bind_of_some (taken : reader text = some (item, rest)) (next : α → Reader β) :
    (reader >>= next) text = next item rest := by
  rw [bind_apply, taken]
  rfl

/-- Of two readers the second is asked where the first gives nothing. -/
theorem orElse_apply (first second : Reader α) (text : Text) :
    (first <|> second) text = (first text).or (second text) := by
  show (first text).orElse (fun _ => second text) = _
  cases first text <;> rfl

/-- Where the first of two readers fails the second one decides. -/
theorem orElse_of_none (failed : reader text = none) (second : Reader α) :
    (reader <|> second) text = second text := by
  rw [orElse_apply, failed, Option.none_or]

/-- Where the first of two readers takes an item the second is not asked. -/
theorem orElse_of_some (taken : reader text = some (item, rest)) (second : Reader α) :
    (reader <|> second) text = some (item, rest) := by
  rw [orElse_apply, taken, Option.some_or]

/-- Two readers that both fail give nothing together. -/
theorem orElse_eq_none (failed : reader text = none) (failedToo : second text = none) :
    (reader <|> second) text = none := by
  rw [orElse_of_none failed, failedToo]

/-- A reader that need not succeed takes nothing where it would fail. -/
theorem maybe_of_none (failed : reader text = none) : maybe reader text = some (none, text) :=
  orElse_of_none (bind_of_none failed fun item => pure (some item)) (pure none)

/-- A reader that need not succeed takes its item where it can. -/
theorem maybe_of_some (taken : reader text = some (item, rest)) :
    maybe reader text = some (some item, rest) :=
  orElse_of_some (bind_of_some taken fun item => pure (some item)) (pure none)

/-- A character is taken if the text begins with it. -/
theorem takeChar_cons (c d : Char) (rest : Text) :
    takeChar c (d :: rest) = if d = c then some ((), rest) else none := by
  rw [takeChar, bind_apply, takeIf]
  by_cases same : d = c
  · simp [same]
    rfl
  · simp [same]

/-- The texts that a character is taken from are those that begin with it. -/
theorem takeChar_eq_some_iff {c : Char} :
    takeChar c text = some ((), rest) ↔ text = c :: rest := by
  cases text with
  | nil => simp [takeChar, bind_apply, takeIf]
  | cons d tail =>
    rw [takeChar_cons]
    split
    · rename_i same
      simp [same]
    · rename_i other
      simp [other]

/-- A reader that fails at once is repeated no time. -/
theorem repeatUpTo_of_none (failed : reader text = none) (times : Nat) :
    repeatUpTo reader times text = some ([], text) := by
  cases times with
  | zero => rfl
  | succ times => exact bind_of_some (maybe_of_none failed) _

/-- A reader that takes an item is repeated behind it, one time less. -/
theorem repeatUpTo_of_some (taken : reader text = some (item, rest)) (times : Nat) :
    repeatUpTo reader (times + 1) text =
      (repeatUpTo reader times rest).map fun (items, rest) => (item :: items, rest) := by
  rw [repeatUpTo, bind_of_some (maybe_of_some taken)]
  show (repeatUpTo reader times rest).bind _ = _
  cases repeatUpTo reader times rest <;> rfl

/-- A reader that fails at once gives no items. -/
theorem many_of_none (failed : reader text = none) : many reader text = some ([], text) :=
  repeatUpTo_of_none failed text.length

end Steps

/-! ## Two runs -/

/-- What two runs of a reader give, of which the first has a line feed more at the end of its text.
`kept` is what matters of an item where the first run takes the line feed. -/
inductive Parallel (dead : Text → Prop) (kept : α → γ) (text : Text) :
    Option (α × Text) → Option (α × Text) → Prop where
  | failed : Parallel dead kept text none none
  | live (item : α) {rest : Text} (within : rest <:+ text) :
      Parallel dead kept text (some (item, rest ++ ['\n'])) (some (item, rest))
  | dead {item item' : α} {rest : Text} (alike : kept item = kept item')
      (within : rest <:+ text) (lost : dead rest) :
      Parallel dead kept text (some (item, [])) (some (item', rest))

/-- The two runs go alike on every text, but where the first takes the line feed at the end the
second leaves dead text. -/
def Steady (dead : Text → Prop) (kept : α → γ) (reader : Reader α) : Prop :=
  ∀ text, '\r' ∉ text → Parallel dead kept text (reader (text ++ ['\n'])) (reader text)

/-- Nothing of an item matters. -/
abbrev nothing (_ : α) : List Unit :=
  []

/-- The two runs go alike, and neither takes the line feed at the end. -/
def Exact (reader : Reader α) : Prop :=
  Steady (fun _ => False) nothing reader

/-- The two runs go alike, but there are texts where the reader is stuck without the line feed, and
takes all with it. -/
def Lenient (dead stuck : Text → Prop) (kept : α → List β) (reader : Reader α) : Prop :=
  ∀ text, '\r' ∉ text →
    Parallel dead kept text (reader (text ++ ['\n'])) (reader text) ∨
      (stuck text ∧ reader text = none ∧
        ∃ item, kept item = [] ∧ reader (text ++ ['\n']) = some (item, []))

/-- What the reader leaves is an end of the text. -/
def Within (reader : Reader α) : Prop :=
  ∀ text, '\r' ∉ text → ∀ item rest, reader text = some (item, rest) → rest <:+ text

/-- The reader takes at least one character. -/
def Advances (reader : Reader α) : Prop :=
  ∀ text, '\r' ∉ text → ∀ item rest, reader text = some (item, rest) →
    rest <:+ text ∧ rest.length < text.length

variable {dead dead' stuck stuck' : Text → Prop} {kept : α → γ} {kept' : β → δ}
  {reader second : Reader α} {next : α → Reader β} {text : Text}

/-- A character that is not in a text is not in an end of it. -/
theorem not_mem_of_suffix {mark : Char} {rest : Text} (within : rest <:+ text)
    (absent : mark ∉ text) : mark ∉ rest :=
  fun member => absent (within.subset member)

namespace Parallel

variable {first other : Option (α × Text)}

/-- Two runs alike on a text are alike on a text that ends with it. -/
theorem mono {longer : Text} (within : text <:+ longer)
    (runs : Parallel dead kept text first other) : Parallel dead kept longer first other := by
  cases runs with
  | failed => exact .failed
  | live item inside => exact .live item (inside.trans within)
  | dead alike inside lost => exact .dead alike (inside.trans within) lost

/-- What the run without the line feed leaves is an end of its text. -/
theorem within {item : α} {rest : Text}
    (runs : Parallel dead kept text first (some (item, rest))) : rest <:+ text := by
  cases runs with
  | live _ within => exact within
  | dead _ within _ => exact within

/-- Where nothing is dead it does not matter what is kept. -/
theorem change {kept' : α → δ} (runs : Parallel (fun _ => False) kept text first other) :
    Parallel dead kept' text first other := by
  cases runs with
  | failed => exact .failed
  | live item within => exact .live item within
  | dead _ _ impossible => exact impossible.elim

/-- Two runs go on alike if they do so behind all that they can leave. -/
theorem bind (runs : Parallel dead kept text first other)
    (live : ∀ item rest, rest <:+ text →
      Parallel dead' kept' rest (next item (rest ++ ['\n'])) (next item rest))
    (lost : ∀ item item' rest, kept item = kept item' → dead rest →
      Parallel dead' kept' rest (next item []) (next item' rest)) :
    Parallel dead' kept' text (first.bind fun (item, rest) => next item rest)
      (other.bind fun (item, rest) => next item rest) := by
  cases runs with
  | failed => exact .failed
  | live item within => exact (live item _ within).mono within
  | dead alike within gone => exact (lost _ _ _ alike gone).mono within

/-- Where two runs do not fail what is tried behind them does not matter. -/
theorem or_cases (runs : Parallel dead kept text first other) :
    (first = none ∧ other = none) ∨
      ∀ more others, Parallel dead kept text (first.or more) (other.or others) := by
  cases runs with
  | failed => exact .inl ⟨rfl, rfl⟩
  | live item within => exact .inr fun _ _ => .live item within
  | dead alike within gone => exact .inr fun _ _ => .dead alike within gone

end Parallel

/-- A steady reader leaves an end of its text. -/
theorem Steady.within (steady : Steady dead kept reader) : Within reader := by
  intro text clean item rest taken
  have runs := steady text clean
  rw [taken] at runs
  exact runs.within

/-- A lenient reader leaves an end of its text. -/
theorem Lenient.within {kept : α → List β} (lenient : Lenient dead stuck kept reader) :
    Within reader := by
  intro text clean item rest taken
  rcases lenient text clean with runs | ⟨_, failed, _⟩
  · rw [taken] at runs
    exact runs.within
  · rw [failed] at taken
    cases taken

/-- What is exact is steady, whatever is dead. -/
theorem Exact.steady (exact : Exact reader) : Steady dead kept reader :=
  fun text clean => (exact text clean).change

/-- A steady reader of which nothing is dead is exact. -/
theorem Steady.exact (steady : Steady (fun _ => False) kept reader) : Exact reader :=
  fun text clean => (steady text clean).change

/-- A steady reader is lenient, and nowhere stuck. -/
theorem Steady.lenient {kept : α → List β} (steady : Steady dead kept reader) :
    Lenient dead stuck kept reader :=
  fun text clean => .inl (steady text clean)

/-! ## Steady readers one after the other -/

/-- Readers one after the other are steady if each of them is and the second goes on alike behind
what the first leaves where it takes the line feed. -/
theorem Steady.bind (first : Steady dead kept reader)
    (live : ∀ item, Steady dead' kept' (next item))
    (lost : ∀ item item' rest, kept item = kept item' → dead rest →
      Parallel dead' kept' rest (next item []) (next item' rest)) :
    Steady dead' kept' (reader >>= next) :=
  fun text clean => (first text clean).bind
    (fun item rest within => live item rest (not_mem_of_suffix within clean)) lost

/-- Behind an exact reader all goes on as it does by itself. -/
theorem Exact.bind_steady (first : Exact reader) (live : ∀ item, Steady dead' kept' (next item)) :
    Steady dead' kept' (reader >>= next) :=
  Steady.bind first live fun _ _ _ _ impossible => impossible.elim

/-- Exact readers one after the other are exact. -/
theorem Exact.bind (first : Exact reader) (live : ∀ item, Exact (next item)) :
    Exact (reader >>= next) :=
  first.bind_steady live

/-- Behind what may take the line feed comes what fails on dead text, and then the two together
are exact. -/
theorem Steady.bind_exact (first : Steady dead kept reader) (live : ∀ item, Exact (next item))
    (empty : ∀ item, next item [] = none)
    (lost : ∀ item rest, dead rest → next item rest = none) :
    Exact (reader >>= next) := by
  refine Steady.bind first live fun item item' rest _ gone => ?_
  rw [empty item, lost item' rest gone]
  exact .failed

/-- A reader that takes nothing is exact. -/
theorem exact_pure (item : α) : Exact (pure item) :=
  fun _ _ => .live item (List.suffix_refl _)

/-- A reader that always fails is exact. -/
theorem exact_failure : Exact (failure : Reader α) :=
  fun _ _ => .failed

/-- A reader that does not look at the text is exact. -/
theorem exact_ofOption (answer : Option α) : Exact (ofOption answer) := by
  cases answer with
  | none => exact exact_failure
  | some item => exact exact_pure item

/-- A choice between exact readers that does not depend on the text is exact. -/
theorem Exact.ite {condition : Prop} [Decidable condition] (first : Exact reader)
    (other : Exact second) : Exact (if condition then reader else second) := by
  split
  · exact first
  · exact other

/-- What an item is turned into does not matter, if items alike are turned into items alike. -/
theorem Steady.bind_pure (first : Steady dead kept reader) {change : α → β}
    (alike : ∀ item item', kept item = kept item' → kept' (change item) = kept' (change item')) :
    Steady dead kept' (reader >>= fun item => pure (change item)) :=
  first.bind (fun item => (exact_pure (change item)).steady)
    fun item item' rest same gone => .dead (alike item item' same) (List.suffix_refl rest) gone

/-- A steady reader stays steady if its items are turned into others, alike ones into alike ones. -/
theorem Steady.map (first : Steady dead kept reader) {change : α → β}
    (alike : ∀ item item', kept item = kept item' → kept' (change item) = kept' (change item')) :
    Steady dead kept' (change <$> reader) :=
  first.bind_pure alike

/-- An exact reader stays exact, whatever its items are turned into. -/
theorem Exact.map (first : Exact reader) (change : α → β) : Exact (change <$> reader) :=
  first.bind fun item => exact_pure (change item)

/-- Two exact readers of which only the second item is kept are exact. -/
theorem Exact.seqRight (first : Exact reader) {behind : Reader β} (live : Exact behind) :
    Exact (reader *> behind) :=
  first.bind fun _ => live

/-- Of two steady readers the one tried behind the other makes them steady together. -/
theorem Steady.orElse (first : Steady dead kept reader) (other : Steady dead kept second) :
    Steady dead kept (reader <|> second) := by
  intro text clean
  rw [orElse_apply, orElse_apply]
  rcases (first text clean).or_cases with ⟨failed, failedToo⟩ | decided
  · rw [failed, failedToo, Option.none_or, Option.none_or]
    exact other text clean
  · exact decided _ _

/-- Exact readers tried one behind the other are exact. -/
theorem Exact.orElse (first : Exact reader) (other : Exact second) : Exact (reader <|> second) :=
  Steady.orElse first other

/-- An exact reader that need not succeed is exact. -/
theorem Exact.maybe (first : Exact reader) : Exact (maybe reader) :=
  (first.map some).orElse (exact_pure none)

/-! ## Lenient readers -/

/-- A lenient reader may be called stuck on more texts than it is. -/
theorem Lenient.mono {kept : α → List β} (lenient : Lenient dead stuck kept reader)
    (ended : ∀ text, stuck text → reader text = none → stuck' text) :
    Lenient dead stuck' kept reader :=
  fun text clean => (lenient text clean).imp_right fun ⟨gone, failed, taken⟩ =>
    ⟨ended text gone failed, failed, taken⟩

/-- Between two lenient readers the second is tried where the first is stuck, so it has to fail
there. -/
theorem Lenient.orElse {kept : α → List β} (first : Lenient dead stuck kept reader)
    (other : Lenient dead stuck' kept second)
    (after : ∀ text, stuck text → stuck' text ∧ second text = none) :
    Lenient dead stuck' kept (reader <|> second) := by
  intro text clean
  rw [orElse_apply, orElse_apply]
  rcases first text clean with runs | ⟨ended, failed, item, nothing, taken⟩
  · rcases runs.or_cases with ⟨failed, failedToo⟩ | decided
    · rw [failed, failedToo, Option.none_or, Option.none_or]
      exact other text clean
    · exact .inl (decided _ _)
  · refine .inr ⟨(after text ended).1, ?_, item, nothing, ?_⟩
    · rw [failed, (after text ended).2, Option.none_or]
    · rw [taken, Option.some_or]

/-- Behind a steady reader a lenient one may be tried, for the first is nowhere stuck. -/
theorem Steady.orElse_lenient {kept : α → List β} (first : Steady dead kept reader)
    (other : Lenient dead stuck kept second) : Lenient dead stuck kept (reader <|> second) :=
  have never : Lenient dead (fun _ => False) kept reader := first.lenient
  never.orElse other fun _ impossible => impossible.elim

/-- Behind an exact reader a lenient one is stuck where the two are. -/
theorem Exact.bind_lenient {kept' : β → List δ} (first : Exact reader)
    (live : ∀ item, Lenient dead stuck kept' (next item))
    (ended : ∀ text item rest, reader text = some (item, rest) → stuck rest → stuck' text) :
    Lenient dead stuck' kept' (reader >>= next) := by
  intro text clean
  rw [bind_apply, bind_apply]
  have runs := first text clean
  generalize reader (text ++ ['\n']) = whole at runs
  generalize alone : reader text = other at runs
  cases runs with
  | failed => exact .inl .failed
  | @live item rest within =>
    rcases live item rest (not_mem_of_suffix within clean) with runs | ⟨gone, failed, taken⟩
    · exact .inl (runs.mono within)
    · exact .inr ⟨ended text item rest alone gone, failed, taken⟩
  | dead _ _ impossible => exact impossible.elim

/-- What follows a lenient reader has to succeed where that has taken the line feed. -/
theorem Lenient.bind {kept : α → List γ} {kept' : β → List δ}
    (first : Lenient dead stuck kept reader) (live : ∀ item, Steady dead' kept' (next item))
    (lost : ∀ item item' rest, kept item = kept item' → dead rest →
      Parallel dead' kept' rest (next item []) (next item' rest))
    (ended : ∀ item, kept item = [] → ∃ item', kept' item' = [] ∧ next item [] = some (item', [])) :
    Lenient dead' stuck kept' (reader >>= next) := by
  intro text clean
  rw [bind_apply, bind_apply]
  rcases first text clean with runs | ⟨gone, failed, item, nothing, taken⟩
  · exact .inl (runs.bind
      (fun item rest within => live item rest (not_mem_of_suffix within clean)) lost)
  · obtain ⟨item', nothing', behind⟩ := ended item nothing
    refine .inr ⟨gone, ?_, item', nothing', ?_⟩
    · rw [failed]
      rfl
    · rw [taken]
      exact behind

/-- What a lenient reader is stuck on does not change with what its items are turned into. -/
theorem Lenient.bind_pure {kept : α → List γ} {kept' : β → List δ}
    (first : Lenient dead stuck kept reader) {change : α → β}
    (gone : ∀ rest, dead rest → dead' rest)
    (alike : ∀ item item', kept item = kept item' → kept' (change item) = kept' (change item'))
    (empty : ∀ item, kept item = [] → kept' (change item) = []) :
    Lenient dead' stuck kept' (reader >>= fun item => pure (change item)) :=
  first.bind (fun item => (exact_pure (change item)).steady)
    (fun item item' rest same ended =>
      .dead (alike item item' same) (List.suffix_refl rest) (gone rest ended))
    fun item nothing => ⟨change item, empty item nothing, rfl⟩

/-- Tried where it need not succeed, a lenient reader is steady. -/
theorem Lenient.maybe {kept : α → List β} (lenient : Lenient dead stuck kept reader)
    (gone : ∀ text, stuck text → dead text) : Steady dead nothing (maybe reader) := by
  intro text clean
  rcases lenient text clean with runs | ⟨ended, failed, item, _, taken⟩
  · generalize first : reader (text ++ ['\n']) = whole at runs
    generalize second : reader text = alone at runs
    cases runs with
    | failed =>
      rw [maybe_of_none first, maybe_of_none second]
      exact .live none (List.suffix_refl _)
    | live item within =>
      rw [maybe_of_some first, maybe_of_some second]
      exact .live (some item) within
    | dead _ within lost =>
      rw [maybe_of_some first, maybe_of_some second]
      exact .dead rfl within lost
  · rw [maybe_of_none failed, maybe_of_some taken]
    exact .dead rfl (List.suffix_refl _) (gone text ended)

/-! ## Readers of one character or some -/

/-- Taking one character is exact if it cannot be a line feed. -/
theorem exact_takeIf {condition : Char → Bool} (stop : condition '\n' = false) :
    Exact (takeIf condition) := by
  intro text _
  cases text with
  | nil =>
    simp only [takeIf, List.nil_append, stop, Bool.false_eq_true, if_false]
    exact .failed
  | cons c rest =>
    simp only [takeIf, List.cons_append]
    split
    · exact .live c (List.suffix_cons c rest)
    · exact .failed

/-- Where a line feed is taken but nothing can go on behind it, nothing is lost. -/
theorem exact_takeIf_bind {condition : Char → Bool} {next : Char → Reader β}
    (stop : next '\n' [] = none) (live : ∀ c, Exact (next c)) :
    Exact (takeIf condition >>= next) := by
  intro text clean
  rw [bind_apply, bind_apply]
  cases text with
  | nil =>
    simp only [takeIf, List.nil_append]
    split
    · rw [Option.bind_some, stop]
      exact .failed
    · exact .failed
  | cons c rest =>
    simp only [takeIf, List.cons_append]
    split
    · exact (live c rest (not_mem_of_suffix (List.suffix_cons c rest) clean)).mono
        (List.suffix_cons c rest)
    · exact .failed

/-- Taking characters is exact if it stops in front of a line feed. -/
theorem exact_takeWhile {condition : Char → Bool} (stop : condition '\n' = false) :
    Exact (takeWhile condition) := by
  intro text _
  have ends : ∀ c ∈ ['\n'].head?, condition c = false := by simpa using stop
  rw [takeWhile, takeWhile, Text.takeWhile_append_of_head ends, Text.dropWhile_append_of_head ends]
  exact .live _ (List.dropWhile_suffix condition)

/-- Taking a text without a line feed is exact. -/
theorem exact_takeText {expected : Text} (single : '\n' ∉ expected) :
    Exact (takeText expected) := by
  intro text _
  rw [takeText, takeText, Text.dropPrefix?_append_singleton single]
  cases found : Text.dropPrefix? expected text with
  | none => exact .failed
  | some rest =>
    obtain rfl := Text.dropPrefix?_eq_some_iff.mp found
    exact .live () (List.suffix_append expected rest)

/-! ## Readers that take something -/

/-- A reader that takes something leaves an end of its text. -/
theorem Advances.within (advances : Advances reader) : Within reader :=
  fun text clean item rest taken => (advances text clean item rest taken).1

/-- A reader of one character takes something, whatever is asked of the character. -/
theorem advances_takeIf (condition : Char → Bool) : Advances (takeIf condition) := by
  intro text _ item rest taken
  unfold takeIf at taken
  split at taken
  · split at taken
    · cases taken
      exact ⟨List.suffix_cons _ _, by simp⟩
    · cases taken
  · cases taken

/-- A reader of a text takes something, unless the text is empty. -/
theorem advances_takeText {expected : Text} (nonempty : expected ≠ []) :
    Advances (takeText expected) := by
  intro text _ item rest taken
  obtain ⟨_, found, same⟩ := Option.map_eq_some_iff.mp taken
  cases same
  obtain rfl := Text.dropPrefix?_eq_some_iff.mp found
  have positive := List.length_pos_iff.mpr nonempty
  exact ⟨List.suffix_append expected _, by rw [List.length_append]; omega⟩

/-- Two readers that leave ends of their texts leave one together. -/
theorem Within.bind (first : Within reader) (live : ∀ item, Within (next item)) :
    Within (reader >>= next) := by
  intro text clean item rest taken
  rw [bind_apply] at taken
  obtain ⟨⟨item', between⟩, begun, taken⟩ := Option.bind_eq_some_iff.mp taken
  have within := first text clean item' between begun
  exact (live item' between (not_mem_of_suffix within clean) item rest taken).trans within

/-- Two readers take something if the first of them does. -/
theorem Advances.bind (first : Advances reader) (live : ∀ item, Within (next item)) :
    Advances (reader >>= next) := by
  intro text clean item rest taken
  rw [bind_apply] at taken
  obtain ⟨⟨item', between⟩, begun, taken⟩ := Option.bind_eq_some_iff.mp taken
  obtain ⟨within, shorter⟩ := first text clean item' between begun
  have inside := live item' between (not_mem_of_suffix within clean) item rest taken
  exact ⟨inside.trans within, Nat.lt_of_le_of_lt inside.length_le shorter⟩

/-- Two readers take something if the second of them does. -/
theorem Advances.bind_of_within (first : Within reader) (live : ∀ item, Advances (next item)) :
    Advances (reader >>= next) := by
  intro text clean item rest taken
  rw [bind_apply] at taken
  obtain ⟨⟨item', between⟩, begun, taken⟩ := Option.bind_eq_some_iff.mp taken
  have within := first text clean item' between begun
  obtain ⟨inside, shorter⟩ :=
    live item' between (not_mem_of_suffix within clean) item rest taken
  exact ⟨inside.trans within, Nat.lt_of_lt_of_le shorter within.length_le⟩

/-- The reader of one given character takes something. -/
theorem advances_takeChar (c : Char) : Advances (takeChar c) :=
  (advances_takeIf _).bind fun _ => (exact_pure ()).within

/-- Two readers that take something do so if one is tried behind the other. -/
theorem Advances.orElse (first : Advances reader) (other : Advances second) :
    Advances (reader <|> second) := by
  intro text clean item rest taken
  rw [orElse_apply] at taken
  rcases Option.or_eq_some_iff.mp taken with begun | ⟨_, begun⟩
  · exact first text clean item rest begun
  · exact other text clean item rest begun

/-- What its items are turned into does not change that a reader takes something. -/
theorem Advances.map (first : Advances reader) (change : α → β) : Advances (change <$> reader) :=
  first.bind fun item => (exact_pure (change item)).within

/-- Nothing can be taken from an empty text. -/
theorem Advances.nil (advances : Advances reader) : reader [] = none := by
  rw [Option.eq_none_iff_forall_not_mem]
  rintro ⟨item, rest⟩ taken
  exact Nat.not_lt_zero _ (advances [] (by simp) item rest taken).2

/-! ## Repetition -/

section Repetition

variable {kept : α → List β}

/-- Where a lenient reader fails it is repeated no more, but for one piece with the line feed. -/
theorem Lenient.parallel_of_none (lenient : Lenient dead stuck kept reader)
    (advances : Advances reader) (gone : ∀ text, stuck text → dead text) (clean : '\r' ∉ text)
    (failed : reader text = none) (times : Nat) :
    Parallel dead (List.flatMap kept) text (repeatUpTo reader (times + 1) (text ++ ['\n']))
      (repeatUpTo reader times text) := by
  rw [repeatUpTo_of_none failed]
  rcases lenient text clean with runs | ⟨ended, _, item, nothing, taken⟩
  · rw [failed] at runs
    generalize first : reader (text ++ ['\n']) = whole at runs
    cases runs
    rw [repeatUpTo_of_none first]
    exact .live [] (List.suffix_refl _)
  · rw [repeatUpTo_of_some taken, repeatUpTo_of_none advances.nil]
    exact .dead (by simp [nothing]) (List.suffix_refl _) (gone text ended)

/-- A lenient reader that is repeated goes alike in two runs, of which the one with the line feed
may repeat it once more. -/
theorem Lenient.repeatUpTo (lenient : Lenient dead stuck kept reader) (advances : Advances reader)
    (gone : ∀ text, stuck text → dead text) (lost : ∀ rest, dead rest → reader rest = none)
    {times : Nat} (clean : '\r' ∉ text) (enough : text.length ≤ times) :
    Parallel dead (List.flatMap kept) text (repeatUpTo reader (times + 1) (text ++ ['\n']))
      (repeatUpTo reader times text) := by
  -- The text of the first run is longer by one character, and so is the bound on its repetitions.
  induction times generalizing text with
  | zero =>
    obtain rfl := List.length_eq_zero_iff.mp (Nat.le_zero.mp enough)
    exact lenient.parallel_of_none advances gone clean advances.nil 0
  | succ times inductionHypothesis =>
    cases second : reader text with
    | none => exact lenient.parallel_of_none advances gone clean second (times + 1)
    | some taken =>
      obtain ⟨item, rest⟩ := taken
      have shorter := (advances text clean item rest second).2
      have runs := (lenient text clean).resolve_right (by simp [second])
      rw [second] at runs
      generalize first : reader (text ++ ['\n']) = whole at runs
      cases runs with
      | live _ within =>
        have later := inductionHypothesis (not_mem_of_suffix within clean) (by omega)
        rw [repeatUpTo_of_some first, repeatUpTo_of_some second]
        generalize Reader.repeatUpTo reader (times + 1) (rest ++ ['\n']) = more at later ⊢
        generalize Reader.repeatUpTo reader times rest = others at later ⊢
        cases later with
        | failed => exact .failed
        | live items inside => exact .live (item :: items) (inside.trans within)
        | dead alike inside ended => exact .dead (by simp [alike]) (inside.trans within) ended
      | dead alike within ended =>
        rw [repeatUpTo_of_some first, repeatUpTo_of_some second,
          repeatUpTo_of_none advances.nil, repeatUpTo_of_none (lost rest ended)]
        exact .dead (by simp [alike]) within ended

/-- Repeated, a lenient reader is steady: it takes at most one piece more if there is a line feed
at the end. -/
theorem Lenient.many (lenient : Lenient dead stuck kept reader) (advances : Advances reader)
    (gone : ∀ text, stuck text → dead text) (lost : ∀ rest, dead rest → reader rest = none) :
    Steady dead (List.flatMap kept) (many reader) := by
  intro text clean
  have runs := lenient.repeatUpTo advances gone lost clean (Nat.le_refl text.length)
  show Parallel _ _ _ (Reader.repeatUpTo reader (text ++ ['\n']).length (text ++ ['\n'])) _
  rw [List.length_append]
  exact runs

end Repetition

/-- Repetition never fails, and stops where the reader fails. -/
theorem many_stops (advances : Advances reader) (clean : '\r' ∉ text) :
    ∃ items rest, Reader.many reader text = some (items, rest) ∧ reader rest = none := by
  have counted {times : Nat} (enough : text.length ≤ times) :
      ∃ items rest, Reader.repeatUpTo reader times text = some (items, rest) ∧
        reader rest = none := by
    induction times generalizing text with
    | zero =>
      obtain rfl := List.length_eq_zero_iff.mp (Nat.le_zero.mp enough)
      exact ⟨[], [], rfl, advances.nil⟩
    | succ times inductionHypothesis =>
      cases taken : reader text with
      | none => exact ⟨[], text, repeatUpTo_of_none taken _, taken⟩
      | some found =>
        obtain ⟨item, rest⟩ := found
        obtain ⟨within, shorter⟩ := advances text clean item rest taken
        obtain ⟨items, last, repeated, stopped⟩ :=
          inductionHypothesis (not_mem_of_suffix within clean) (by omega)
        exact ⟨item :: items, last, by rw [repeatUpTo_of_some taken, repeated]; rfl, stopped⟩
  exact counted (Nat.le_refl _)

/-! ## Exact readers that take something -/

/-- An exact reader that takes at least one character. -/
structure Consuming (reader : Reader α) : Prop where
  runs : Exact reader
  advances : Advances reader

/-- One character that is no line feed is taken exactly. -/
theorem consuming_takeIf {condition : Char → Bool} (stop : condition '\n' = false) :
    Consuming (takeIf condition) :=
  ⟨exact_takeIf stop, advances_takeIf condition⟩

/-- Behind a reader that takes something exactly, any exact one may follow. -/
theorem Consuming.bind (first : Consuming reader) (live : ∀ item, Exact (next item)) :
    Consuming (reader >>= next) :=
  ⟨first.runs.bind live, first.advances.bind fun item => (live item).within⟩

/-- A given character other than a line feed is taken exactly. -/
theorem consuming_takeChar {c : Char} (other : c ≠ '\n') : Consuming (takeChar c) :=
  (consuming_takeIf (by simpa using other.symm)).bind fun _ => exact_pure ()

/-- Taking a given character other than a line feed is exact. -/
theorem exact_takeChar {c : Char} (other : c ≠ '\n') : Exact (takeChar c) :=
  (consuming_takeChar other).runs

/-- Two readers that take something exactly do so if one is tried behind the other. -/
theorem Consuming.orElse (first : Consuming reader) (other : Consuming second) :
    Consuming (reader <|> second) :=
  ⟨first.runs.orElse other.runs, first.advances.orElse other.advances⟩

/-- The item of a reader that takes something exactly may be dropped. -/
theorem Consuming.seqRight (first : Consuming reader) {behind : Reader β} (live : Exact behind) :
    Consuming (reader *> behind) :=
  first.bind fun _ => live

/-- What takes something exactly can be repeated exactly. -/
theorem Consuming.many (consuming : Consuming reader) : Exact (many reader) := by
  have lenient : Lenient (fun _ => False) (fun _ => False) nothing reader :=
    consuming.runs.steady.lenient
  exact (lenient.many consuming.advances (fun _ impossible => impossible)
    fun _ impossible => impossible.elim).exact

/-- Items with something between them that is taken exactly are read exactly. -/
theorem Consuming.separated {separator : Reader Unit} (apart : Consuming separator)
    (live : Exact reader) : Exact (separated separator reader) :=
  live.bind fun first =>
    (apart.seqRight live).many.bind fun more => exact_pure (first :: more)

end HtmlTemplate.Toml.Reader
