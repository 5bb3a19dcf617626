import HtmlTemplate.Decimal.Numeral
import HtmlTemplate.Fixture.Suite

/-!
# Reports on fixtures

The lines that tell of a run: every category with its fixtures, why fixtures fail, and how
many there are of each kind.
-/

namespace HtmlTemplate.Fixture

/-- How a word of a report stands out on a terminal. -/
inductive Emphasis where
  | bold
  | red
  | green
deriving DecidableEq, Repr

/-- The number of an emphasis in a terminal's control sequences. -/
def Emphasis.code : Emphasis → Text
  | .bold => ['1']
  | .red => ['3', '1']
  | .green => ['3', '2']

/-- A text with an emphasis, if the report is in color at all. -/
def emphasize (color : Bool) (emphasis : Emphasis) (text : Text) : Text :=
  if color then
    '\x1b' :: '[' :: emphasis.code ++ 'm' :: text ++ ['\x1b', '[', '0', 'm']
  else text

/-- The name of a category in reports. -/
def categoryTitle (category : Text) : Text :=
  if category.isEmpty then "(root)".toList else category

/-- The last part of a path. -/
def fileName (path : Text) : Text :=
  (Text.splitOn '/' path).getLastD []

/-- What a fixture is called in reports: its description, or else its name. -/
def Result.label (result : Result) : Text :=
  match result.verdict.description with
  | some description => description
  | none =>
    let name := fileName result.path
    if isFixtureName name then name.take (name.length - fileEnding.length) else ['?']

/-- The line for a fixture. -/
def Result.line (color : Bool) (result : Result) : Text :=
  let word :=
    if result.passes then emphasize color .green "PASS".toList
    else emphasize color .red "FAIL".toList
  [' ', ' '] ++ word ++ [' ', ' '] ++ result.label

/-- The lines for a category. -/
def categoryLines (color : Bool) (category : Option Text) (results : List Result) :
    List Text :=
  let title := match category with
    | none => []
    | some category => [[], emphasize color .bold (categoryTitle category)]
  title ++ results.map (Result.line color)

/-- The lines that say why a fixture fails. -/
def failureLines (result : Result) : List Text :=
  let reason := (result.verdict.failure.map Failure.message).getD []
  [[], "  --- ".toList ++ result.path ++ " ---".toList] ++
    (Text.lines reason).map ([' ', ' '] ++ ·)

/-- The line with the numbers of fixtures. -/
def summaryLine (color : Bool) (passed failed : Nat) : Text :=
  let passing := Decimal.natural passed ++ " passed, ".toList
  if failed = 0 then
    "test result: ".toList ++ emphasize color .green "ok".toList ++ ". ".toList ++ passing ++
      "0 failed".toList
  else
    "test result: ".toList ++ emphasize color .red "FAILED".toList ++ ". ".toList ++ passing ++
      Decimal.natural failed ++ " failed (of ".toList ++ Decimal.natural (passed + failed) ++ [')']

/-- The lines of the report on a run. -/
def Results.report (color : Bool) (results : Results) : List Text :=
  let failures := match results.failures with
    | [] => []
    | failures => [[], "failures:".toList] ++ failures.flatMap failureLines
  results.flatMap (fun (category, results) => categoryLines color category results) ++
    failures ++ [[], summaryLine color results.passedCount results.failedCount]

/-- The names of the categories of a suite, separated by commas. -/
def categoryNames (suite : Suite) : Text :=
  Text.join [',', ' '] (suite.map fun (category, _) => categoryTitle category)

/-- The warning about a request that covers no category. -/
def warning (suite : Suite) (request : Text) : Text :=
  "warning: category '".toList ++ requested request ++ "' not found (available: ".toList ++
    categoryNames suite ++ [')']

/-- The lines that list the categories of a suite with the numbers of their fixtures. -/
def listing (suite : Suite) : List Text :=
  "available categories:".toList ::
    suite.map fun (category, files) =>
      [' ', ' '] ++ categoryTitle category ++ " (".toList ++ Decimal.natural files.length ++
        " tests)".toList

end HtmlTemplate.Fixture
