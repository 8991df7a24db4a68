import ScenarioDesk.View.Theme

/-!
Style sheets as lists of rules: that of the application's windows and that of the preview page.
-/

namespace ScenarioDesk

/-- A rule of a style sheet: what it applies to, and the properties it sets, in order. -/
structure StyleRule where
  selector : Text
  properties : List (Text × Text)

namespace StyleRule

/-- A rule indented by four blanks, its properties by the given number. -/
def render (indent : Nat) (rule : StyleRule) : Text :=
  let property (entry : Text × Text) : Text :=
    List.replicate indent (CodePoint.char ' ') ++ entry.1 ++ ": " ++ entry.2 ++ ";\n"
  "    " ++ rule.selector ++ " \x7b\n" ++ rule.properties.flatMap property ++ "    \x7d\n"

/-- The text of a style sheet. It starts on a new line and ends with an indented empty one. -/
def renderAll (indent : Nat) (rules : List StyleRule) : Text :=
  "\n" ++ rules.flatMap (render indent) ++ "    "

end StyleRule

namespace Theme

/-- The rules for the application's windows. -/
def windowRules (p : Palette) : List StyleRule := [
  ⟨"QWidget", [
    ("color", p.ink),
    ("background", p.window),
    ("font-family", "\"Segoe UI Variable\", \"Segoe UI\", \"Noto Sans\", sans-serif"),
    ("font-size", "14px")]⟩,
  ⟨"QMainWindow", [
    ("background", p.window)]⟩,
  ⟨"QToolBar", [
    ("background", p.panel),
    ("border", "none"),
    ("border-bottom", "1px solid " ++ p.subtleBorder),
    ("spacing", "4px"),
    ("padding", "4px")]⟩,
  ⟨"QToolButton", [
    ("background", "transparent"),
    ("border", "1px solid transparent"),
    ("border-radius", "5px"),
    ("padding", "4px 8px"),
    ("color", p.ink)]⟩,
  ⟨"QToolButton:hover", [
    ("background", p.hovered),
    ("border-color", p.subtleBorder)]⟩,
  ⟨"QToolButton:pressed", [
    ("background", p.pressedAccent),
    ("border-color", p.pressedAccent)]⟩,
  ⟨"QPushButton", [
    ("background", p.input),
    ("border", "1px solid " ++ p.subtleBorder),
    ("border-radius", "5px"),
    ("padding", "5px 10px")]⟩,
  ⟨"QPushButton:hover", [
    ("background", p.hovered),
    ("border-color", p.strongBorder)]⟩,
  ⟨"QPushButton#primaryButton", [
    ("background", p.accent),
    ("border-color", p.accent),
    ("color", "#ffffff")]⟩,
  ⟨"QPushButton#primaryButton:hover", [
    ("background", p.hoveredAccent)]⟩,
  ⟨"QLineEdit, QPlainTextEdit, QTextBrowser, QListWidget", [
    ("background", p.input),
    ("border", "1px solid " ++ p.subtleBorder),
    ("border-radius", "5px"),
    ("selection-background-color", p.selection),
    ("selection-color", p.ink)]⟩,
  ⟨"QPlainTextEdit#scenarioEditor", [
    ("background", p.editor),
    ("font-family", "\"Cascadia Code\", \"Consolas\", \"DejaVu Sans Mono\", monospace"),
    ("font-size", "14px"),
    ("padding", "8px")]⟩,
  ⟨"QLineEdit:focus, QPlainTextEdit:focus, QListWidget:focus", [
    ("border", "1px solid " ++ p.focusRing)]⟩,
  ⟨"QListWidget", [
    ("padding", "2px"),
    ("outline", "none")]⟩,
  ⟨"QListWidget::item", [
    ("border", "none"),
    ("border-radius", "4px"),
    ("padding", "4px 6px"),
    ("margin", "1px 0")]⟩,
  ⟨"QListWidget::item:hover", [
    ("background", p.hovered)]⟩,
  ⟨"QListWidget::item:selected", [
    ("background", p.selection),
    ("color", p.ink)]⟩,
  ⟨"QListWidget#suggestionPopup", [
    ("background", p.panel),
    ("border", "1px solid " ++ p.strongBorder),
    ("font-family", "\"Cascadia Code\", \"Consolas\", \"DejaVu Sans Mono\", monospace")]⟩,
  ⟨"QSplitter::handle", [
    ("background", p.subtleBorder)]⟩,
  ⟨"QSplitter::handle:hover", [
    ("background", p.focusRing)]⟩,
  ⟨"QStatusBar", [
    ("background", p.statusBar),
    ("color", p.statusInk),
    ("border-top", "1px solid " ++ p.subtleBorder)]⟩,
  ⟨"QStatusBar QLabel", [
    ("color", p.statusInk),
    ("background", "transparent"),
    ("padding", "0 6px")]⟩,
  ⟨"QLabel#muted", [
    ("color", p.mutedInk)]⟩,
  ⟨"QLabel#sectionTitle", [
    ("font-weight", "600"),
    ("font-size", "15px")]⟩]

/-- The rules for the preview page. -/
def previewRules (p : Palette) : List StyleRule := [
  ⟨"body", [
    ("font-family", "\"Cascadia Code\", \"Consolas\", \"DejaVu Sans Mono\", monospace"),
    ("font-size", "14px"),
    ("line-height", "1.6"),
    ("color", p.ink),
    ("background", p.editor),
    ("margin", "10px")]⟩,
  ⟨".line", [
    ("white-space", "pre-wrap")]⟩,
  ⟨".keyword", [
    ("color", p.keyword),
    ("font-weight", "600")]⟩,
  ⟨".parameter", [
    ("color", p.parameter)]⟩,
  ⟨".empty", [
    ("color", p.mutedInk),
    ("font-style", "italic")]⟩]

/-- The style sheet of the application's windows. -/
def windowStyleSheet (theme : Theme) : Text := StyleRule.renderAll 8 (windowRules theme.palette)

/-- The style sheet of the preview page. -/
def previewStyleSheet (theme : Theme) : Text := StyleRule.renderAll 6 (previewRules theme.palette)

end Theme

end ScenarioDesk
