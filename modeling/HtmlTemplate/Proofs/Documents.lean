import HtmlTemplate.Proofs.Scalars
import HtmlTemplate.Toml.Document

/-!
# Documents with a line feed at the end

A line feed at the end of a document makes no difference to it (`parse_append_lineFeed`): keys and
values never take it (`exact_value`), and behind the last statement it ends the line where the text
would have ended it.
-/

namespace HtmlTemplate.Toml

open Reader

/-! ## Keys and values -/

/-- A key is bare or a string of one line, and stops in front of a line feed. -/
theorem exact_simpleKey : Exact simpleKey :=
  exact_basicString.orElse (exact_literalString.orElse
    ((exact_takeIf (by decide)).bind fun _ =>
      (exact_takeWhile (by decide)).bind fun _ => exact_pure _))

/-- Keys with dots between them, and the blanks around each, are read exactly. -/
theorem exact_dottedKey : Exact dottedKey := by
  have part : Exact (do blanks; let part ← simpleKey; blanks; pure part) :=
    exact_blanks.bind fun _ => exact_simpleKey.bind fun _ => exact_blanks.bind fun _ =>
      exact_pure _
  exact ((consuming_takeChar (by decide)).separated part).bind fun _ =>
    exact_failure.ite (exact_ofOption _)

/-- A value that is neither an array nor a table is read exactly. -/
theorem exact_scalar : Exact scalar :=
  (exact_string.bind fun _ => exact_pure _).orElse <|
    (exact_moment.bind fun _ => exact_pure _).orElse <|
      (exact_float.bind fun _ => exact_pure _).orElse <|
        (exact_integer.bind fun _ => exact_pure _).orElse <|
          ((exact_takeText (by decide)).bind fun _ => exact_pure _).orElse <|
            (exact_takeText (by decide)).bind fun _ => exact_pure _

/-! ### Arrays -/

/-- The blanks of an array that a reader takes one by one. -/
def arrayBlank : Reader Unit :=
  newline <|> (do let _ ← takeIf isLineBlank) <|> (do comment; newline)

/-- A text that is at its end, or where a comment is all that is left. -/
def ArrayDead (text : Text) : Prop :=
  text = [] ∨ comment text = some ((), [])

namespace ArrayDead

variable {text : Text}

/-- At the end of the text nothing is left. -/
theorem nil : ArrayDead [] :=
  .inl rfl

/-- All that can begin there is a comment. -/
theorem head (dead : ArrayDead text) : ∀ c ∈ text.head?, c = '#' := by
  rcases dead with rfl | taken
  · simp
  · cases text with
    | nil => simp
    | cons c rest =>
      obtain ⟨⟨_, behind⟩, begun, _⟩ := Option.bind_eq_some_iff.mp taken
      have same := takeChar_eq_some_iff.mp begun
      simpa using (List.cons.inj same).1

/-- No character is taken there but the sign of a comment. -/
theorem takeIf_eq_none (dead : ArrayDead text) {condition : Char → Bool}
    (other : condition '#' = false) : takeIf condition text = none := by
  cases text with
  | nil => rfl
  | cons c rest =>
    obtain rfl := dead.head c rfl
    simp [takeIf, other]

/-- No other given character is taken there. -/
theorem takeChar_eq_none (dead : ArrayDead text) {c : Char} (other : c ≠ '#') :
    takeChar c text = none :=
  bind_of_none (dead.takeIf_eq_none (by simpa using other.symm)) _

/-- No text that begins otherwise is taken there. -/
theorem takeText_eq_none (dead : ArrayDead text) {c : Char} (other : c ≠ '#') (more : Text) :
    takeText (c :: more) text = none := by
  cases text with
  | nil => rfl
  | cons d rest =>
    obtain rfl := dead.head d rfl
    simp [takeText, Text.dropPrefix?, other]

/-- No number of a fixed length begins there. -/
theorem fixedNumber_eq_none (dead : ArrayDead text) (count low high : Nat) :
    fixedNumber (count + 1) low high text = none := by
  refine if_neg fun both => ?_
  cases text with
  | nil => simp at both
  | cons c rest =>
    obtain rfl := dead.head c rfl
    simp [Text.isAsciiDigit] at both

/-- No line ends there. -/
theorem newline_eq_none (dead : ArrayDead text) : newline text = none :=
  orElse_eq_none (dead.takeChar_eq_none (by decide)) (dead.takeText_eq_none (by decide) _)

/-- No sign stands there, and a number may lack one. -/
theorem sign_eq (dead : ArrayDead text) : sign text = some (false, text) := by
  rw [sign, orElse_of_none (bind_of_none (dead.takeChar_eq_none (by decide)) _),
    orElse_of_none (bind_of_none (dead.takeChar_eq_none (by decide)) _)]
  rfl

/-- No digits stand there. -/
theorem wholeDigits_eq_none (dead : ArrayDead text) : wholeDigits text = none := by
  have other : text.head? ≠ some '0' := fun first => absurd (dead.head '0' first) (by decide)
  rw [wholeDigits_apply, if_neg other]
  exact bind_of_none (dead.takeIf_eq_none (by decide)) _

/-- No string begins there. -/
theorem string_eq_none (dead : ArrayDead text) : string text = none :=
  orElse_eq_none (bind_of_none (dead.takeText_eq_none (by decide) _) _) <|
    orElse_eq_none (bind_of_none (dead.takeChar_eq_none (by decide)) _) <|
      orElse_eq_none (bind_of_none (dead.takeText_eq_none (by decide) _) _) <|
        bind_of_none (dead.takeChar_eq_none (by decide)) _

/-- No date or time begins there. -/
theorem moment_eq_none (dead : ArrayDead text) : moment text = none :=
  orElse_eq_none (bind_of_none (bind_of_none (dead.fixedNumber_eq_none 3 0 9999) _) _)
    (bind_of_none (bind_of_none (dead.fixedNumber_eq_none 1 0 23) _) _)

/-- No float begins there. -/
theorem float_eq_none (dead : ArrayDead text) : float text = none := by
  refine orElse_eq_none ?_ ?_
  · exact (bind_of_some dead.sign_eq _).trans (bind_of_none dead.wholeDigits_eq_none _)
  · exact (bind_of_some dead.sign_eq _).trans
      (orElse_eq_none (bind_of_none (dead.takeText_eq_none (by decide) _) _)
        (bind_of_none (dead.takeText_eq_none (by decide) _) _))

/-- No whole number begins there. -/
theorem integer_eq_none (dead : ArrayDead text) : integer text = none := by
  have based (more : Text) (base : Nat) : basedInteger ('0' :: more) base text = none :=
    bind_of_none (dead.takeText_eq_none (by decide) more) _
  exact orElse_eq_none (based _ 16) <| orElse_eq_none (based _ 8) <| orElse_eq_none (based _ 2) <|
    (bind_of_some dead.sign_eq _).trans (bind_of_none dead.wholeDigits_eq_none _)

/-- No value begins there that is neither an array nor a table. -/
theorem scalar_eq_none (dead : ArrayDead text) : scalar text = none :=
  orElse_eq_none (bind_of_none dead.string_eq_none _) <|
    orElse_eq_none (bind_of_none dead.moment_eq_none _) <|
      orElse_eq_none (bind_of_none dead.float_eq_none _) <|
        orElse_eq_none (bind_of_none dead.integer_eq_none _) <|
          orElse_eq_none (bind_of_none (dead.takeText_eq_none (by decide) _) _)
            (bind_of_none (dead.takeText_eq_none (by decide) _) _)

/-- No value begins there. -/
theorem value_eq_none (dead : ArrayDead text) (room : Nat) : value room text = none := by
  cases room with
  | zero => exact dead.scalar_eq_none
  | succ room =>
    exact orElse_eq_none (bind_of_none (dead.takeChar_eq_none (by decide)) _) <|
      orElse_eq_none (bind_of_none (dead.takeChar_eq_none (by decide)) _) dead.scalar_eq_none

/-- Neither a blank is taken there nor a comment, as its line does not end. -/
theorem blank_or_comment_eq_none (dead : ArrayDead text) :
    ((do let _ ← takeIf isLineBlank) <|> (do comment; newline) : Reader Unit) text = none := by
  refine orElse_eq_none (bind_of_none (dead.takeIf_eq_none (by decide)) _) ?_
  rcases dead with rfl | taken
  · rfl
  · exact bind_of_some taken _

/-- Nothing is taken there that may stand between the items of an array. -/
theorem arrayBlank_eq_none (dead : ArrayDead text) : arrayBlank text = none :=
  orElse_eq_none dead.newline_eq_none dead.blank_or_comment_eq_none

/-- So what stands between two items is empty there. -/
theorem arrayBlanks_eq (dead : ArrayDead text) : arrayBlanks text = some ((), text) :=
  bind_of_some (many_of_none dead.arrayBlank_eq_none) _

end ArrayDead

/-- Each of the blanks in an array takes something. -/
theorem advances_arrayBlank : Advances arrayBlank :=
  advances_newline.orElse (consuming_lineBlank.advances.orElse
    (consuming_comment.advances.bind fun _ => advances_newline.within))

/-- The blanks in an array may take the line feed, and leave a comment without one. -/
theorem steady_arrayBlanks : Steady ArrayDead nothing arrayBlanks := by
  have commented : Lenient ArrayDead ArrayDead nothing (do comment; newline) :=
    consuming_comment.runs.bind_lenient (fun _ => lenient_newline ArrayDead (· = []) rfl)
      fun text _ rest taken empty => .inr (by rw [taken, empty])
  have lenient : Lenient ArrayDead ArrayDead nothing arrayBlank :=
    (lenient_newline ArrayDead ArrayDead .nil).orElse
      (consuming_lineBlank.runs.steady.orElse_lenient commented)
        fun _ dead => ⟨dead, dead.blank_or_comment_eq_none⟩
  have blanks := lenient.many advances_arrayBlank (fun _ dead => dead)
    fun _ dead => dead.arrayBlank_eq_none
  exact blanks.bind_pure fun _ _ _ => rfl

/-- An item of an array, with the blanks around it. -/
def arrayItem (value : Reader Value) : Reader Value := do
  arrayBlanks
  let item ← value
  arrayBlanks
  pure item

section Array

variable {value : Reader Value}

/-- An item of an array is steady with the blanks around it, if its value is exact. -/
theorem steady_arrayItem (live : Exact value) (lost : ∀ rest, ArrayDead rest → value rest = none) :
    Steady ArrayDead nothing (arrayItem value) := by
  refine steady_arrayBlanks.bind (fun _ => live.bind_steady fun item => ?_)
    fun _ _ rest _ dead => ?_
  · exact steady_arrayBlanks.bind_pure fun _ _ _ => rfl
  · rw [bind_of_none (lost [] .nil), bind_of_none (lost rest dead)]
    exact .failed

/-- The items of an array are steady, as no comma stands where one of them is stuck. -/
theorem steady_arrayItems (live : Exact value)
    (lost : ∀ rest, ArrayDead rest → value rest = none) :
    Steady ArrayDead nothing (separated (takeChar ',') (arrayItem value)) := by
  have item := steady_arrayItem live lost
  have comma : Consuming (takeChar ',') := consuming_takeChar (by decide)
  have further : Steady ArrayDead nothing (takeChar ',' *> arrayItem value) :=
    comma.runs.bind_steady fun _ => item
  have advances : Advances (takeChar ',' *> arrayItem value) :=
    comma.advances.bind fun _ => item.within
  have stopped {rest : Text} (dead : ArrayDead rest) :
      (takeChar ',' *> arrayItem value) rest = none :=
    bind_of_none (dead.takeChar_eq_none (by decide)) fun _ => arrayItem value
  have lenient : Lenient ArrayDead ArrayDead nothing (takeChar ',' *> arrayItem value) :=
    further.lenient
  have more := lenient.many advances (fun _ dead => dead) fun _ dead => stopped dead
  refine item.bind (fun first => more.bind_pure fun _ _ _ => rfl) fun first first' rest _ dead => ?_
  rw [bind_of_some (many_of_none (stopped .nil)), bind_of_some (many_of_none (stopped dead))]
  exact .dead rfl (List.suffix_refl rest) dead

/-- The end of an array behind its items, or behind a comma. -/
def arrayEnd (items : Option (List Value)) : Reader Value := do
  arrayBlanks
  takeChar ']'
  pure (.array (items.getD []))

/-- The end of an array comes behind its blanks, and is read exactly. -/
theorem exact_arrayEnd (items : Option (List Value)) : Exact (arrayEnd items) :=
  steady_arrayBlanks.bind_exact
    (fun _ => (exact_takeChar (by decide)).bind fun _ => exact_pure _) (fun _ => rfl)
      fun _ _ dead => bind_of_none (dead.takeChar_eq_none (by decide)) _

/-- No array ends where only a comment is left. -/
theorem ArrayDead.arrayEnd_eq_none {rest : Text} (dead : ArrayDead rest)
    (items : Option (List Value)) : arrayEnd items rest = none :=
  (bind_of_some dead.arrayBlanks_eq _).trans
    (bind_of_none (dead.takeChar_eq_none (by decide)) _)

/-- An array does not end with the blanks in it. -/
theorem exact_array (live : Exact value) (lost : ∀ rest, ArrayDead rest → value rest = none) :
    Exact (array value) := by
  have items : Lenient ArrayDead ArrayDead nothing (separated (takeChar ',') (arrayItem value)) :=
    (steady_arrayItems live lost).lenient
  have comma : Exact (takeChar ',') := exact_takeChar (by decide)
  have unended {rest : Text} (dead : ArrayDead rest) (items : Option (List Value)) :
      (if items.isSome then (do let _ ← maybe (takeChar ','); arrayEnd items)
        else arrayEnd items : Reader Value) rest = none := by
    split
    · exact (bind_of_some (maybe_of_none (dead.takeChar_eq_none (by decide))) _).trans
        (dead.arrayEnd_eq_none items)
    · exact dead.arrayEnd_eq_none items
  exact (exact_takeChar (by decide)).bind fun _ =>
    (items.maybe fun _ dead => dead).bind_exact
      (fun items => (comma.maybe.bind fun _ => exact_arrayEnd items).ite (exact_arrayEnd items))
      (unended .nil) fun items _ dead => unended dead items

end Array

/-- A table between braces is read exactly, if its values are. -/
theorem exact_inlineTable {value : Reader Value} (live : Exact value) :
    Exact (inlineTable value) := by
  refine (exact_takeChar (by decide)).bind fun _ =>
    ((consuming_takeChar (by decide)).separated ?pair).maybe.bind fun _ =>
      exact_blanks.bind fun _ => (exact_takeChar (by decide)).bind fun _ =>
        (exact_ofOption _).bind fun _ => exact_pure _
  case pair =>
    exact exact_dottedKey.bind fun _ => (exact_takeChar (by decide)).bind fun _ =>
      exact_blanks.bind fun _ => live.bind fun _ => exact_blanks.bind fun _ => exact_pure _

/-- A value never takes a line feed at the end of a text. -/
theorem exact_value (room : Nat) : Exact (value room) := by
  induction room with
  | zero => exact exact_scalar
  | succ room inductionHypothesis =>
    exact (exact_array inductionHypothesis fun _ dead => dead.value_eq_none room).orElse
      ((exact_inlineTable inductionHypothesis).orElse exact_scalar)

/-! ## Statements -/

/-- The end of a line takes the line feed that the end of the text stands for. -/
theorem steady_lineEnd {γ : Type} {kept : Unit → γ} : Steady (· = []) kept lineEnd :=
  exact_blanks.bind_steady fun _ => consuming_comment.runs.maybe.bind_steady fun _ =>
    steady_newline_or_atEnd

/-- A statement ends with its line. -/
theorem steady_statement {γ : Type} {kept : Statement → γ} (statement : Statement) :
    Steady (· = []) kept (do lineEnd; pure statement) :=
  have ended : Steady (· = []) nothing lineEnd := steady_lineEnd
  ended.bind_pure fun _ _ _ => rfl

/-- A key with its value ends with its line. -/
theorem steady_keyedValue : Steady (· = []) id keyedValue :=
  exact_dottedKey.bind_steady fun _ => (exact_takeChar (by decide)).bind_steady fun _ =>
    exact_blanks.bind_steady fun _ => (exact_value _).bind_steady fun _ => steady_statement _

/-- The header of an element of an array of tables ends with its line. -/
theorem steady_elementHeader : Steady (· = []) id elementHeader :=
  (exact_takeText (by decide)).bind_steady fun _ => exact_dottedKey.bind_steady fun _ =>
    (exact_takeText (by decide)).bind_steady fun _ => steady_statement _

/-- The header of a table ends with its line. -/
theorem steady_tableHeader : Steady (· = []) id tableHeader :=
  (exact_takeChar (by decide)).bind_steady fun _ => exact_dottedKey.bind_steady fun _ =>
    (exact_takeChar (by decide)).bind_steady fun _ => steady_statement _

/-- A statement that is on a line. -/
def lineStatement : Reader (Option Statement) :=
  some <$> elementHeader <|> some <$> tableHeader <|> some <$> keyedValue

/-- Whichever statement a line holds, it ends with the line. -/
theorem steady_lineStatement : Steady (· = []) Option.toList lineStatement := by
  have toList (statement statement' : Statement) (same : id statement = id statement') :
      (some statement).toList = (some statement').toList := by
    rw [id, id] at same
    rw [same]
  exact (steady_elementHeader.map toList).orElse
    ((steady_tableHeader.map toList).orElse (steady_keyedValue.map toList))

/-- A line with a statement is not empty. -/
theorem advances_lineStatement : Advances lineStatement := by
  have ended (statement : Statement) : Within (do lineEnd; pure statement) :=
    (steady_statement statement : Steady (· = []) id _).within
  have element : Advances elementHeader :=
    (advances_takeText (by decide)).bind fun _ => exact_dottedKey.within.bind fun _ =>
      (exact_takeText (by decide)).within.bind fun _ => ended _
  have table : Advances tableHeader :=
    (advances_takeChar '[').bind fun _ => exact_dottedKey.within.bind fun _ =>
      (advances_takeChar ']').within.bind fun _ => ended _
  have keyed : Advances keyedValue :=
    Advances.bind_of_within exact_dottedKey.within fun _ => (advances_takeChar '=').bind fun _ =>
      exact_blanks.within.bind fun _ => (exact_value _).within.bind fun _ => ended _
  exact (element.map some).orElse ((table.map some).orElse (keyed.map some))

/-- A line without a statement takes a line feed that stands alone. -/
theorem lenient_emptyLine : Lenient (· = []) (· = []) Option.toList emptyLine := by
  have commented : Steady (· = []) nothing (do comment; newline <|> atEnd) :=
    consuming_comment.runs.bind_steady fun _ => steady_newline_or_atEnd
  exact (commented.orElse_lenient (lenient_newline (· = []) (· = []) rfl)).bind_pure
    (fun _ empty => empty) (fun _ _ _ => rfl) fun _ _ => rfl

/-- A line without a statement has its end. -/
theorem advances_emptyLine : Advances emptyLine :=
  ((consuming_comment.advances.bind fun _ =>
    (steady_newline_or_atEnd : Steady (· = []) nothing _).within).orElse advances_newline).bind
      fun _ => (exact_pure none).within

/-- A line of a document, and the blanks at the beginning of the next one. -/
def documentLine : Reader (Option Statement) := do
  let line ← emptyLine <|> lineStatement
  blanks
  pure line

/-- A line of a document takes a line feed that stands alone, as one more line without a
statement. -/
theorem lenient_documentLine : Lenient (· = []) (· = []) Option.toList documentLine := by
  have line : Lenient (· = []) (· = []) Option.toList (emptyLine <|> lineStatement) :=
    lenient_emptyLine.orElse steady_lineStatement.lenient fun text empty =>
      ⟨empty, by rw [empty, advances_lineStatement.nil]⟩
  refine line.bind (fun line => exact_blanks.bind_steady fun _ => (exact_pure line).steady)
    (fun line line' rest alike empty => ?_) fun line none => ⟨line, none, rfl⟩
  subst empty
  exact .dead alike (List.suffix_refl []) rfl

/-- Each line of a document takes something. -/
theorem advances_documentLine : Advances documentLine :=
  (advances_emptyLine.orElse advances_lineStatement).bind fun line =>
    exact_blanks.within.bind fun _ => (exact_pure line).within

/-! ## Documents -/

/-- A reader that gives the same with a line feed at the end, whatever it leaves. -/
def Indifferent {α : Type} (reader : Reader α) : Prop :=
  ∀ text, '\r' ∉ text →
    (reader (text ++ ['\n'])).map Prod.fst = (reader text).map Prod.fst

/-- Behind an exact reader the line feed is still at the end. -/
theorem Reader.Exact.bind_indifferent {α β : Type} {reader : Reader α} {next : α → Reader β}
    (first : Exact reader) (live : ∀ item, Indifferent (next item)) :
    Indifferent (reader >>= next) := by
  intro text clean
  have runs := first text clean
  generalize whole : reader (text ++ ['\n']) = more at runs
  generalize alone : reader text = other at runs
  cases runs with
  | failed => rw [bind_of_none whole, bind_of_none alone]
  | live item within =>
    rw [bind_of_some whole, bind_of_some alone]
    exact live item _ (not_mem_of_suffix within clean)
  | dead _ _ impossible => exact impossible.elim

/-- The lines of a document up to its end. -/
def documentLines : Reader (List Statement) := do
  let lines ← many documentLine
  atEnd
  pure (lines.filterMap id)

/-- One more line without a statement adds nothing to the lines of a document. -/
theorem indifferent_documentLines : Indifferent documentLines := by
  have steady := lenient_documentLine.many advances_documentLine (fun _ empty => empty)
    fun rest empty => by rw [empty, advances_documentLine.nil]
  intro text clean
  obtain ⟨lines, rest, first, stopped⟩ :=
    many_stops advances_documentLine (show '\r' ∉ text ++ ['\n'] by simpa using clean)
  obtain ⟨lines', rest', second, _⟩ := many_stops advances_documentLine clean
  have runs := steady text clean
  rw [first, second] at runs
  rw [documentLines, bind_of_some first, bind_of_some second]
  cases runs with
  | live _ within =>
    -- A line feed that is left would have been taken as one more line.
    cases rest' with
    | nil => cases stopped
    | cons c rest => rfl
  | dead alike _ empty =>
    subst empty
    show some (lines.filterMap id) = some (lines'.filterMap id)
    rw [List.filterMap_eq_flatMap_toList, List.filterMap_eq_flatMap_toList]
    exact congrArg some alike

/-- A document has the same statements with a line feed at its end. -/
theorem indifferent_statements : Indifferent statements :=
  (exact_takeChar (by decide)).maybe.bind_indifferent fun _ =>
    exact_blanks.bind_indifferent fun _ => indifferent_documentLines

/-- A line feed at the end of a document makes no difference to it. -/
theorem parse_append_lineFeed {text : Text} (clean : '\r' ∉ text) :
    parse (text ++ ['\n']) = parse text := by
  have same := indifferent_statements text clean
  exact congrArg (·.bind Table.ofStatements) same

end HtmlTemplate.Toml
