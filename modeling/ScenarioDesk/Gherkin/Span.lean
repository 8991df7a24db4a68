import ScenarioDesk.Gherkin.Token
import ScenarioDesk.Text.Units

/-!
Where the keyword and the parameters stand in a line. Spans point into the line as it was typed,
while tokens carry the display form.
-/

namespace ScenarioDesk

/-- A stretch of a line that is shown in its own way. -/
structure Span where
  kind : TokenKind
  start : Nat
  length : Nat
  deriving DecidableEq, Repr

namespace Span

/-- The positions of the double quotes of a text that begins at a position. -/
def quotePositions : (position : Nat) → Text → List Nat
  | _, [] => []
  | position, c :: rest =>
    if c = '"' then position :: quotePositions (position + 1) rest
    else quotePositions (position + 1) rest

/-- Parameters from each first quote to each second one. A last quote without a partner opens
none. -/
def ofQuotes : List Nat → List Span
  | first :: second :: others => ⟨.parameter, first, second + 1 - first⟩ :: ofQuotes others
  | _ => []

/-- The spans of a line from left to right. -/
def ofLine (line : Text) : List Span :=
  match KeywordLine.ofLine? line with
  | none => []
  | some cut =>
    ⟨.keyword, 0, cut.spelling.length⟩ ::
      ofQuotes (quotePositions (cut.spelling.length + cut.gap.length) cut.rest)

/-- The span measured in UTF-16 units of the line it belongs to. -/
def inUnits (line : Text) (span : Span) : Span :=
  let start := Text.unitOffset line span.start
  { span with start := start,
              length := Text.unitOffset line (span.start + span.length : Nat) - start }

end Span

end ScenarioDesk
