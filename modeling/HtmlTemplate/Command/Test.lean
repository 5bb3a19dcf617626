import HtmlTemplate.Command.Answer
import HtmlTemplate.Command.Arguments
import HtmlTemplate.Command.Files
import HtmlTemplate.Fixture.Report

/-!
# The command to check fixtures

The command checks one fixture, or those of the requested categories of a directory, and
reports on them. It can also list the categories.
-/

namespace HtmlTemplate.Command

open Fixture

/-! ## The fixtures in a directory -/

mutual

/-- The fixtures in an entry that some steps lead to, each with the steps to it. -/
def Entry.fixtures (steps : List Text) (entry : Entry) :
    List (List Text × Except String Text) :=
  match entry with
  | .file content =>
    if isFixtureName (steps.getLastD []) then
      [(steps, (Entry.file content).readText.mapError ReadError.message)]
    else []
  | .directory entries => fixturesOf steps entries

/-- The fixtures in the entries of a directory. -/
def fixturesOf (steps : List Text) : List (Text × Entry) →
    List (List Text × Except String Text)
  | [] => []
  | entry :: rest => fixturesUnder steps entry ++ fixturesOf steps rest

/-- The fixtures in a named entry of a directory. -/
def fixturesUnder (steps : List Text) : Text × Entry → List (List Text × Except String Text)
  | (name, entry) => entry.fixtures (steps ++ [name])

end

/-! ## Answers -/

/-- The suite of the fixtures in an entry that a path leads to. If nothing can be read
there, there are no fixtures. -/
def suiteAt (path : Text) : Except ReadError Entry → Suite
  | .ok entry => suiteOf path (entry.fixtures [])
  | .error _ => []

/-- The message that there are no fixtures. -/
def noFixtures (path : Text) : Text :=
  asLines ["no .test.md files found in ".toList ++ path]

/-- The answer to a request for the list of categories. -/
def listCategories (path : Text) (entry : Except ReadError Entry) : Answer :=
  match entry with
  | .ok (.file _) => { messages := asLines ["(single file, no categories)".toList] }
  | _ =>
    match suiteAt path entry with
    | [] => { messages := noFixtures path }
    | suite => { messages := asLines (listing suite) }

/-- The answer for the results of a run, with warnings in front. -/
def reportResults (color : Bool) (warnings : List Text) (results : Results) : Answer :=
  { exitCode := results.exitCode, messages := asLines (warnings ++ results.report color) }

/-- Checks the fixtures of a suite that some requests cover, and reports on them. -/
def runSuite (judge : File → Verdict) (color : Bool) (suite : Suite) (requests : List Text) :
    Answer :=
  let warnings := (unmatched suite requests).map (warning suite)
  match select suite requests with
  | [] =>
    { exitCode := 1, messages := asLines (warnings ++ ["no matching categories found".toList]) }
  | selected => reportResults color warnings (selected.run judge)

/-- Checks what a path leads to, and reports on it. A single fixture has no category. -/
def runTests (judge : File → Verdict) (request : TestRequest)
    (entry : Except ReadError Entry) : Answer :=
  match entry with
  | .ok (.file content) =>
    let text := (Entry.file content).readText.mapError ReadError.message
    reportResults request.color [] [(none, runFiles judge [{ path := request.path, text }])]
  | _ =>
    match suiteAt request.path entry with
    | [] => { exitCode := 1, messages := noFixtures request.path }
    | suite => runSuite judge request.color suite request.categories

/-- The answer to a request to check fixtures. -/
def TestRequest.answer (files : Files) (request : TestRequest) : Answer :=
  let entry := files request.path
  if request.lists then listCategories request.path entry
  else runTests (judge Toml.parse) request entry

end HtmlTemplate.Command
