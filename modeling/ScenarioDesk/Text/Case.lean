import ScenarioDesk.Text.Basic
import ScenarioDesk.Text.Case.Table

/-!
Letter case. Lower and upper case are the full mappings of Unicode: the case of one character may be
several characters, and a capital sigma at the end of a word becomes the final sigma.
-/

namespace ScenarioDesk.Text

/-- The code point a run of the table leads to, or the code point itself if none covers it. -/
def shiftCase (runs : List CaseRun) (c : CodePoint) : CodePoint :=
  match runs.find? fun run => run.covers c.number with
  | some run => .ofNumber (c.number + run.shift).toNat
  | none => c

/-- The lower case of one code point out of context. -/
def lowerChar : CodePoint → Text
  | .half index => [.half index]
  | .char c =>
    if c.toNat < 0x80 then [c.toLower]
    else if c = '\u0130' then ['i', '\u0307']
    else [shiftCase lowerRuns c]

/-- The upper case of one code point. -/
def upperChar : CodePoint → Text
  | .half index => [.half index]
  | .char c =>
    if c.toNat < 0x80 then [c.toUpper]
    else match upperExpansions.lookup c.toNat with
      | some codes => codes.map CodePoint.ofNumber
      | none => [shiftCase upperRuns c]

/-- A letter that ends the search for the end of a word because it has case. -/
def isCased (c : CodePoint) : Bool := inRanges casedRanges c.number

/-- A character that the search for the end of a word passes over. -/
def isCaseIgnorable (c : CodePoint) : Bool := inRanges caseIgnorableRanges c.number

/-- The first character that is not passed over is a letter with case. -/
def meetsLetter (text : Text) : Bool :=
  match text.dropWhile isCaseIgnorable with
  | [] => false
  | c :: _ => isCased c

/-- Lower case of a text, given the characters before it, nearest first. A capital sigma is final
if a letter stands before it and none after it. -/
def lowerAfter (before : Text) : Text → Text
  | [] => []
  | c :: rest =>
    let here : Text :=
      if c = '\u03A3' then [if meetsLetter before && !meetsLetter rest then '\u03C2' else '\u03C3']
      else lowerChar c
    here ++ lowerAfter (c :: before) rest

/-- The lower case of a text. -/
def lower (text : Text) : Text := lowerAfter [] text

/-- The upper case of a text. -/
def upper (text : Text) : Text := text.flatMap upperChar

end ScenarioDesk.Text
