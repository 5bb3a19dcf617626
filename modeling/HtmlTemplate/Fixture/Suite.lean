import HtmlTemplate.Fixture.Check
import HtmlTemplate.Text.Order

/-!
# Suites of fixtures

The fixtures of a directory are grouped by category, which is the path of the directory
they lie in. A run checks the fixtures of all categories, or of those that are asked for.
-/

namespace HtmlTemplate.Fixture

/-- A fixture: the path it is named by, and its text or why it has none. -/
structure File where
  path : Text
  text : Except String Text

/-- Fixtures by category, in the order of the categories. -/
abbrev Suite := List (Text × List File)

/-- How the names of fixtures end. -/
def fileEnding : Text :=
  ".test.md".toList

/-- Whether a file is a fixture by its name. -/
def isFixtureName (name : Text) : Bool :=
  fileEnding.isSuffixOf name

/-- The category of a file, given by the directories it lies in. A backslash in their names
counts as a slash. -/
def categoryOf (directories : List Text) : Text :=
  (Text.join ['/'] directories).map fun c => if c = '\\' then '/' else c

/-- The path of a file in a directory that is itself named by a path. -/
def pathWithin (root : Text) (steps : List Text) : Text :=
  let root := if root.isEmpty ∨ root.getLast? = some '/' then root else root ++ ['/']
  root ++ Text.join ['/'] steps

/-- The suite of the fixtures in a directory, each with the steps of its path. -/
def suiteOf (root : Text) (files : List (List Text × Except String Text)) : Suite :=
  let files := files.mergeSort fun first second => Text.listNotAfter first.1 second.1
  let category (file : List Text × Except String Text) : Text := categoryOf file.1.dropLast
  let categories := (files.map category).eraseDups.mergeSort Text.notAfter
  categories.map fun name =>
    (name, (files.filter (category · = name)).map fun (steps, text) =>
      { path := pathWithin root steps, text })

/-! ## The choice of categories -/

/-- What a request for a category asks for: slashes at either end do not matter. -/
def requested (request : Text) : Text :=
  Text.trimWhile (· = '/') request

/-- Whether a request covers a category: it names the category itself, or one that the
category lies in. -/
def covers (request category : Text) : Bool :=
  category = requested request || (requested request ++ ['/']).isPrefixOf category

/-- The categories that some requests cover; all of them if there is no request. -/
def select (suite : Suite) (requests : List Text) : Suite :=
  if requests.isEmpty then suite
  else suite.filter fun (category, _) => requests.any (covers · category)

/-- The requests that cover no category. -/
def unmatched (suite : Suite) (requests : List Text) : List Text :=
  requests.filter fun request => !suite.any fun (category, _) => covers request category

/-! ## Runs -/

/-- A fixture with the verdict on it. -/
structure Result where
  path : Text
  verdict : Verdict
deriving DecidableEq, Repr

/-- Whether the fixture passes. -/
def Result.passes (result : Result) : Bool :=
  result.verdict.failure.isNone

/-- The verdict on a fixture whose text may be missing, by a reader of TOML documents. -/
def judge (readToml : Text → Option Toml.Table) (file : File) : Verdict :=
  match file.text with
  | .ok text => check readToml text
  | .error reason => { failure := some (.unreadable reason) }

/-- The results of a run, by category. Fixtures that have no category stand under nothing. -/
abbrev Results := List (Option Text × List Result)

/-- Checks some fixtures one after the other. -/
def runFiles (judge : File → Verdict) (files : List File) : List Result :=
  files.map fun file => { path := file.path, verdict := judge file }

/-- Checks all fixtures of a suite, in order. -/
def Suite.run (judge : File → Verdict) (suite : Suite) : Results :=
  suite.map fun (category, files) => (some category, runFiles judge files)

namespace Results

/-- The results of all categories, in order. -/
def all (results : Results) : List Result :=
  results.flatMap Prod.snd

/-- The results of the fixtures that fail, in order. -/
def failures (results : Results) : List Result :=
  results.all.filter fun result => !result.passes

/-- The number of fixtures that pass. -/
def passedCount (results : Results) : Nat :=
  results.all.countP Result.passes

/-- The number of fixtures that fail. -/
def failedCount (results : Results) : Nat :=
  results.failures.length

/-- The exit code of a run: zero if no fixture fails, and else one. -/
def exitCode (results : Results) : Nat :=
  if results.failures.isEmpty then 0 else 1

end Results

end HtmlTemplate.Fixture
