import ScenarioDesk.Gherkin.KeywordLine
import ScenarioDesk.Text.Case

/-!
Completing the step that is being typed. Suggestions are made for the line of the cursor and hold as
long as the text keeps the number of lines it had then; accepting one replaces that whole line.
-/

namespace ScenarioDesk

/-- A text and the characters before the cursor. A count outside the text stands for its nearer
end. -/
structure Snapshot where
  text : Text
  cursor : Int
  deriving DecidableEq, Repr

/-- The beginning of a step: the keyword as typed, and the words after the blanks. -/
structure StepStart where
  keyword : Text
  words : Text
  deriving DecidableEq, Repr

/-- What stands before the cursor on its line. -/
structure CursorContext where
  lineIndex : Nat
  charOffset : Nat
  step : Option StepStart
  deriving DecidableEq, Repr

/-- One line among a number of lines. -/
structure LinePlace where
  index : Int
  count : Int
  deriving DecidableEq, Repr

/-- Steps that continue the one before the cursor, with the context they were made for. -/
structure Suggestions where
  context : CursorContext
  lineCount : Nat
  texts : List Text
  deriving DecidableEq, Repr

namespace Snapshot

/-- The text before the cursor. -/
def beforeCursor (snapshot : Snapshot) : Text := snapshot.text.take snapshot.cursor.toNat

/-- What stands before the cursor on its line. -/
def context (snapshot : Snapshot) : CursorContext :=
  let before := Text.lines snapshot.beforeCursor
  let current := before.getLastD []
  { lineIndex := before.length - 1,
    charOffset := current.length,
    step := (KeywordLine.ofStepStart? current).map fun cut => ⟨cut.spelling, cut.rest⟩ }

end Snapshot

namespace StepStart

/-- A step of the vocabulary after the keyword that was typed. -/
def complete (start : StepStart) (step : Text) : Text := start.keyword ++ " " ++ step

/-- The words typed so far occur in the step, cases aside. -/
def matchesStep (start : StepStart) (step : Text) : Bool :=
  Text.occursIn (Text.lower start.words) (Text.lower step)

end StepStart

namespace Suggestions

/-- The steps of the vocabulary that continue the step before the cursor, in the vocabulary's order.
There is nothing to suggest if the line is no step or no step matches. -/
def offer? (vocabulary : List Text) (snapshot : Snapshot) : Option Suggestions :=
  let context := snapshot.context
  match context.step with
  | none => none
  | some start =>
    let texts := (vocabulary.filter start.matchesStep).map start.complete
    if texts = [] then none
    else some ⟨context, Text.lineCount snapshot.text, texts⟩

/-- The line the suggestions were made for. -/
def place (suggestions : Suggestions) : LinePlace :=
  ⟨suggestions.context.lineIndex, suggestions.lineCount⟩

/-- The text has another number of lines than the one the suggestions were made for. -/
def isStale (suggestions : Suggestions) (text : Text) : Bool :=
  Text.lineCount text ≠ suggestions.lineCount

end Suggestions

namespace LinePlace

/-- Replaces a line of a text and puts the cursor behind it, if the text still has the expected
number of lines and the line is one of them. -/
def replace? (place : LinePlace) (text full : Text) : Option Snapshot :=
  let lines := Text.lines text
  if place.count ≠ Text.lineCount text ∨ place.index < 0 ∨ lines.length ≤ place.index then none
  else
    let index := place.index.toNat
    some ⟨Text.unlines (lines.set index full),
      (Text.endedLength (lines.take index) + full.length : Nat)⟩

end LinePlace

/-- The text with the suggested line in place and the cursor behind it. -/
def Suggestions.putInto? (suggestions : Suggestions) (text full : Text) : Option Snapshot :=
  suggestions.place.replace? text full

end ScenarioDesk
