import HtmlTemplate.Fixture.Frontmatter
import HtmlTemplate.Proofs.Documents

/-!
# Heads of fixtures

The head of a fixture is what stands between two lines of hyphens, less the line feed at its end
(`splitFrontmatter_fixtureOf`). That line feed belongs to the line of hyphens behind the head, and
the one in front of the head to the line of hyphens in front of it, so the two lines must not share
a line feed: an empty head is never found (`readFixture_fixtureOf`). All of this holds with any
reader of TOML that keeps two rules of the language (`Toml.IsReader`).
-/

namespace HtmlTemplate

namespace Toml

open Reader

/-- Two rules of TOML that a reader of documents has to keep. -/
structure IsReader (readToml : Text → Option Table) : Prop where
  /-- The last statement may end with a line feed or with the document. A carriage return in front
  of the line feed would be a part of the line's end, so there must be none. -/
  lineFeed : ∀ text, '\r' ∉ text → readToml (text ++ ['\n']) = readToml text
  /-- A line with nothing but a bare key is no statement: what the key stands for is missing. -/
  hyphens : ∀ behind, behind = [] ∨ (∃ more, behind = '\n' :: more) →
    readToml ("---".toList ++ behind) = none

/-- Three hyphens alone on the first line are no statement. -/
theorem parse_hyphens {behind : Text} (ended : behind = [] ∨ ∃ more, behind = '\n' :: more) :
    parse ('-' :: '-' :: '-' :: behind) = none := by
  have line : documentLine ('-' :: '-' :: '-' :: behind) = none := by
    rcases ended with rfl | ⟨more, rfl⟩
    · decide
    · rfl
  have unread : statements ('-' :: '-' :: '-' :: behind) = none := by
    have lines : documentLines ('-' :: '-' :: '-' :: behind) = none :=
      bind_of_some (many_of_none line) _
    exact lines
  show ((statements _).map Prod.fst).bind Table.ofStatements = none
  rw [unread]
  rfl

/-- The reader of this library keeps the rules. -/
theorem isReader_parse : IsReader parse where
  lineFeed _ clean := parse_append_lineFeed clean
  hyphens _ ended := parse_hyphens ended

end Toml

namespace Fixture

/-- Some lines, each with a line feed at its end. -/
def lined (lines : List Text) : Text :=
  lines.flatMap (· ++ ['\n'])

/-- A fixture: a head between two lines of hyphens, and a body. -/
def fixtureOf (lines : List Text) (body : Text) : Text :=
  "---".toList ++ '\n' :: (lined lines ++ ("---".toList ++ '\n' :: body))

/-- A line that can stand in the head of a fixture. -/
structure IsHeadLine (line : Text) : Prop where
  single : '\n' ∉ line
  clean : '\r' ∉ line
  apart : ¬ "---".toList <+: line

/-- Lines that end with line feeds are lines between line feeds, with one more at the end. -/
theorem lined_eq_join {lines : List Text} (nonempty : lines ≠ []) :
    lined lines = Text.join ['\n'] lines ++ ['\n'] := by
  induction lines with
  | nil => exact absurd rfl nonempty
  | cons line lines inductionHypothesis =>
    cases lines with
    | nil => simp [lined, Text.join]
    | cons next lines =>
      have later := inductionHypothesis (by simp)
      rw [lined, List.flatMap_cons, ← lined, later, Text.join_cons_cons]
      simp

/-- Lines without carriage returns have none when they are joined. -/
theorem not_mem_join {lines : List Text} (plain : ∀ line ∈ lines, IsHeadLine line) :
    '\r' ∉ Text.join ['\n'] lines := by
  cases lines with
  | nil => simp [Text.join]
  | cons line lines =>
    intro member
    have within : '\r' ∈ lined (line :: lines) := by
      rw [lined_eq_join (by simp)]
      exact List.mem_append_left _ member
    obtain ⟨other, among, inside⟩ := List.mem_flatMap.mp within
    exact (plain other among).clean (by simpa using inside)

/-- The hyphens behind the lines of a head are the first that stand behind a line feed. -/
theorem cutAt?_lined {lines : List Text} (nonempty : lines ≠ [])
    (plain : ∀ line ∈ lines, IsHeadLine line) (behind : Text) :
    Text.cutAt? "\n---".toList (lined lines ++ ("---".toList ++ behind)) =
      some (Text.join ['\n'] lines, "\n---".toList ++ behind) := by
  induction lines with
  | nil => exact absurd rfl nonempty
  | cons line lines inductionHypothesis =>
    have whole : lined (line :: lines) ++ ("---".toList ++ behind) =
        line ++ '\n' :: (lined lines ++ ("---".toList ++ behind)) := by simp [lined]
    have cut := Text.cutAt?_line (plain line (by simp)).single "---".toList
      (lined lines ++ ("---".toList ++ behind))
    rw [whole]
    refine cut.trans ?_
    cases lines with
    | nil => rfl
    | cons next lines =>
      -- The next line stands behind the line feed of the first, and begins with no hyphens.
      have head := plain next (by simp)
      have further : ¬ "---".toList.isPrefixOf
          (lined (next :: lines) ++ ("---".toList ++ behind)) = true := by
        intro begins
        have whole : lined (next :: lines) ++ ("---".toList ++ behind) =
            next ++ '\n' :: (lined lines ++ ("---".toList ++ behind)) := by simp [lined]
        rw [whole, List.isPrefixOf_iff_prefix] at begins
        exact head.apart (Text.begins_front_of_mark (by decide) begins)
      have later := inductionHypothesis (by simp) fun line member =>
        plain line (List.mem_cons_of_mem _ member)
      rw [if_neg further]
      refine (congrArg (Option.map _) later).trans ?_
      rw [Option.map_some, Text.join_cons_cons]
      rfl

/-- Behind the line of hyphens that opens a fixture the next ones are looked for. -/
theorem splitFrontmatter_of_opening (lines : List Text) (body : Text) :
    splitFrontmatter (fixtureOf lines body) =
      match Text.cutAt? "\n---".toList (lined lines ++ ("---".toList ++ '\n' :: body)) with
      | none => .error .noClosing
      | some (head, rest) => .ok (Text.dropEndWhile (· = '\r') head, rest.drop 4) :=
  rfl

/-- The head of a fixture is split off at the lines of hyphens around it. -/
theorem splitFrontmatter_fixtureOf {lines : List Text} (nonempty : lines ≠ [])
    (plain : ∀ line ∈ lines, IsHeadLine line) (body : Text) :
    splitFrontmatter (fixtureOf lines body) =
      .ok (Text.join ['\n'] lines, '\n' :: body) := by
  have clean := not_mem_join plain
  have head : Text.dropEndWhile (· = '\r') (Text.join ['\n'] lines) = Text.join ['\n'] lines :=
    Text.dropEndWhile_eq_self fun c member => decide_eq_false fun same => clean (same ▸ member)
  rw [splitFrontmatter_of_opening, cutAt?_lined nonempty plain]
  exact congrArg (fun head => Except.ok (head, '\n' :: body)) head

/-- What is split off in front of a second line of hyphens is that line itself, or begins with
it. -/
theorem cutAt?_hyphens {body head found : Text}
    (cut : Text.cutAt? "\n---".toList ("---".toList ++ '\n' :: body) = some (head, found)) :
    ∃ behind, head = "---".toList ++ behind ∧ (behind = [] ∨ ∃ more, behind = '\n' :: more) := by
  have line : Text.cutAt? "\n---".toList ("---".toList ++ '\n' :: body) = _ :=
    Text.cutAt?_line (by decide) "---".toList body
  rw [line] at cut
  split at cut
  · cases cut
    exact ⟨[], rfl, .inl rfl⟩
  · obtain ⟨⟨before, _⟩, _, same⟩ := Option.map_eq_some_iff.mp cut
    cases same
    exact ⟨'\n' :: before, rfl, .inr ⟨before, rfl⟩⟩

section Reading

variable {readToml : Text → Option Toml.Table}

/-- A head that the reader refuses has no settings. -/
theorem read?_eq_none {head : Text} (unread : readToml head = none) :
    Settings.read? readToml head = none := by
  rw [Settings.read?, unread]
  rfl

/-- What a fixture is split into is read as its settings and its body. -/
theorem readFixture_of_split {text head body : Text}
    (split : splitFrontmatter text = .ok (head, body)) :
    readFixture readToml text =
      match Settings.read? readToml head with
      | some settings => .ok (settings, body)
      | none => .error .notSettings := by
  rw [readFixture, split]
  rfl

/-- An empty head is not found: the lines of hyphens around it share their line feed, and whatever
is split off is no document. -/
theorem exists_readFixture_fixtureOf_nil (reader : Toml.IsReader readToml) (body : Text) :
    ∃ fault, readFixture readToml (fixtureOf [] body) = .error fault := by
  have split := splitFrontmatter_of_opening [] body
  cases cut : Text.cutAt? "\n---".toList (lined [] ++ ("---".toList ++ '\n' :: body)) with
  | none =>
    rw [cut] at split
    exact ⟨.noClosing, by rw [readFixture, split]; rfl⟩
  | some parts =>
    obtain ⟨head, found⟩ := parts
    obtain ⟨behind, rfl, ended⟩ := cutAt?_hyphens cut
    have unread :
        Settings.read? readToml (Text.dropEndWhile (· = '\r') ("---".toList ++ behind)) = none := by
      rcases ended with rfl | ⟨more, rfl⟩
      · exact read?_eq_none (reader.hyphens [] (.inl rfl))
      · rw [Text.dropEndWhile_append_cons (by decide)]
        exact read?_eq_none (reader.hyphens _ (.inr ⟨_, rfl⟩))
    rw [cut] at split
    exact ⟨.notSettings, by rw [readFixture_of_split split, unread]⟩

/-- With any reader of TOML, a fixture is read with the settings of its head, and all of its body,
exactly if the head is not empty. An empty head is always a fault. -/
theorem readFixture_fixtureOf (reader : Toml.IsReader readToml) {lines : List Text}
    (plain : ∀ line ∈ lines, IsHeadLine line) {settings : Settings}
    (valid : Settings.read? readToml (lined lines) = some settings) (body : Text) :
    (lines ≠ [] →
      splitFrontmatter (fixtureOf lines body) = .ok (Text.join ['\n'] lines, '\n' :: body) ∧
        readFixture readToml (fixtureOf lines body) = .ok (settings, '\n' :: body)) ∧
      (lines = [] → ∃ fault, readFixture readToml (fixtureOf lines body) = .error fault) := by
  refine ⟨fun nonempty => ?_, fun empty => ?_⟩
  · have split := splitFrontmatter_fixtureOf nonempty plain body
    have read : Settings.read? readToml (Text.join ['\n'] lines) = some settings := by
      rw [← valid, lined_eq_join nonempty, Settings.read?, Settings.read?,
        reader.lineFeed _ (not_mem_join plain)]
    exact ⟨split, by rw [readFixture_of_split split, read]⟩
  · subst empty
    exact exists_readFixture_fixtureOf_nil reader body

/-- A fixture with a line of hyphens in its body. -/
theorem readFixture_fixtureOf_flag :
    let lines := ["expect_parse_error = true".toList]
    let body := "---\n".toList
    ∃ settings : Settings, settings.expectsSourceError = true ∧
      (lines ≠ [] →
        splitFrontmatter (fixtureOf lines body) = .ok (Text.join ['\n'] lines, '\n' :: body) ∧
          readFixture Toml.parse (fixtureOf lines body) = .ok (settings, '\n' :: body)) ∧
        (lines = [] → ∃ fault, readFixture Toml.parse (fixtureOf lines body) = .error fault) := by
  have read : (Settings.read? Toml.parse (lined ["expect_parse_error = true".toList])).map
      Settings.expectsSourceError = some true := by decide +kernel
  obtain ⟨settings, valid, flag⟩ := Option.map_eq_some_iff.mp read
  have plain : ∀ line ∈ ["expect_parse_error = true".toList], IsHeadLine line :=
    List.forall_mem_singleton.mpr ⟨by decide, by decide, by decide⟩
  exact ⟨settings, flag,
    readFixture_fixtureOf Toml.isReader_parse plain valid "---\n".toList⟩

/-- An empty head holds valid settings, but no fixture can have it. -/
theorem splitFrontmatter_fixtureOf_nil :
    (Settings.read? Toml.parse (lined [])).isSome = true ∧
      splitFrontmatter (fixtureOf [] "<p>x</p>".toList) = .error .noClosing := by
  constructor <;> decide

end Reading

end Fixture

end HtmlTemplate
