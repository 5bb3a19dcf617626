import HtmlTemplate.Text.CaseTable

/-!
# Small letters

The full Unicode mapping of a text to small letters. Two capitals need more than
the table of pairs: the capital I with a dot becomes two characters, and a
capital sigma becomes the final small sigma at the end of a word.
-/

namespace HtmlTemplate.Text

/-- The small letter of a capital within one run. -/
def CaseRun.small? (run : CaseRun) (code : Nat) : Option Nat :=
  if run.first ≤ code ∧ code ≤ run.last ∧ (code - run.first) % run.step = 0 then
    some (run.small + (code - run.first))
  else none

/-- The small letter of a character, by the table of pairs; a character without
one stays as it is. -/
def smallLetter (c : Char) : Char :=
  match smallLetterRuns.findSome? (·.small? c.toNat) with
  | some code => Char.ofNat code
  | none => c

/-- Whether a text, less the characters passed over at a word's end, begins with a
cased character. -/
def beginsCased (text : Text) : Bool :=
  match text.dropWhile caseIgnorableTable.contains with
  | [] => false
  | c :: _ => casedTable.contains c

/-- The small form of a text, given the characters before it, nearest first. -/
def lowercaseAfter (before : Text) : Text → Text
  | [] => []
  | c :: rest =>
    let small :=
      if c = '\u03A3' then
        if beginsCased before && !beginsCased rest then ['\u03C2'] else ['\u03C3']
      else if c = '\u0130' then ['i', '\u0307']
      else [smallLetter c]
    small ++ lowercaseAfter (c :: before) rest

/-- The small form of a text. -/
def lowercase (text : Text) : Text :=
  lowercaseAfter [] text

end HtmlTemplate.Text
