import ScenarioDesk.Gherkin.Token
import ScenarioDesk.View.StyleSheet

/-!
The preview page: every line of a scenario as one division, keywords and parameters in spans of
their own class, and the text itself escaped.
-/

namespace ScenarioDesk

namespace Markup

/-- One code point of a text where markup is read. Quotes need no escape outside of tags. -/
def escapeChar : CodePoint → Text
  | .char '&' => "&amp;"
  | .char '<' => "&lt;"
  | .char '>' => "&gt;"
  | c => [c]

/-- A text where markup is read. -/
def escape (text : Text) : Text := text.flatMap escapeChar

end Markup

/-- The class of a kind of token. -/
def TokenKind.className : TokenKind → Text
  | .keyword => "keyword"
  | .parameter => "parameter"
  | .plain => "plain"

/-- A token as markup. Plain tokens need no span. -/
def Token.markup (token : Token) : Text :=
  match token.kind with
  | .plain => Markup.escape token.text
  | kind =>
    "<span class=\"" ++ kind.className ++ "\">" ++ Markup.escape token.text ++ "</span>"

/-- A division of the preview page with a class. -/
def Markup.division (className content : Text) : Text :=
  "<div class=\"" ++ className ++ "\">" ++ content ++ "</div>"

/-- A line as markup. A blank line keeps its height by a no-break space. -/
def TokenLine.markup (line : TokenLine) : Text :=
  Markup.division "line" (if line.isBlank then "&nbsp;" else line.tokens.flatMap Token.markup)

namespace Preview

/-- What the page shows when there is nothing to preview. -/
def emptyHint : Text := Markup.division "empty" "Select a scenario..."

/-- The content of the page for a text. -/
def body (text : Text) : Text :=
  if Text.isAllBlank text then emptyHint else (TokenLine.ofText text).flatMap TokenLine.markup

/-- The whole page for a text in a theme. -/
def page (theme : Theme) (text : Text) : Text :=
  "\n    <html>\n      <head><style>" ++ theme.previewStyleSheet ++
    "</style></head>\n      <body>" ++ body text ++ "</body>\n    </html>\n    "

end Preview

end ScenarioDesk
