import ScenarioDesk.Gherkin.Span
import ScenarioDesk.View.Theme

/-!
Colouring the text while it is edited. Ranges are in UTF-16 units of their line, as the widget
counts them.
-/

namespace ScenarioDesk

/-- How a range of text is drawn. -/
structure TextFormat where
  color : Text
  weight : Nat
  deriving DecidableEq, Repr

/-- A range of one line and how it is drawn. -/
structure FormatRange where
  line : Nat
  start : Nat
  length : Nat
  format : TextFormat
  deriving DecidableEq, Repr

namespace Highlight

/-- The weight of text that is not emphasised. -/
def normalWeight : Nat := 400

/-- The weight of keywords. -/
def keywordWeight : Nat := 600

/-- How a kind of span is drawn in a theme. -/
def formatOf (theme : Theme) : TokenKind → TextFormat
  | .keyword => ⟨theme.palette.keyword, keywordWeight⟩
  | _ => ⟨theme.palette.parameter, normalWeight⟩

/-- The ranges of one line. -/
def line (theme : Theme) (number : Nat) (text : Text) : List FormatRange :=
  (Span.ofLine text).map fun span =>
    let range := span.inUnits text
    ⟨number, range.start, range.length, formatOf theme span.kind⟩

/-- The ranges of all lines of a text, which only line feeds separate here. -/
def document (theme : Theme) (text : Text) : List FormatRange :=
  ((Text.lines text).zipIdx.map fun (text, number) => line theme number text).flatten

end Highlight

end ScenarioDesk
