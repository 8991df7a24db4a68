import ScenarioDesk.Text.Basic

/-!
The two colour themes.
-/

namespace ScenarioDesk

/-- The colours of a theme, as hexadecimal colour codes. -/
structure Palette where
  window : Text
  panel : Text
  editor : Text
  input : Text
  subtleBorder : Text
  strongBorder : Text
  ink : Text
  mutedInk : Text
  accent : Text
  hoveredAccent : Text
  pressedAccent : Text
  selection : Text
  focusRing : Text
  danger : Text
  success : Text
  statusBar : Text
  statusInk : Text
  hovered : Text
  code : Text
  keyword : Text
  parameter : Text

/-- A colour theme. -/
inductive Theme where
  | dark
  | light
  deriving DecidableEq, Repr

namespace Theme

/-- The name under which a theme is stored. -/
def name : Theme → Text
  | .dark => "dark"
  | .light => "light"

/-- The theme with a name. -/
def named? (name : Text) : Option Theme :=
  if name = Theme.dark.name then some .dark
  else if name = Theme.light.name then some .light
  else none

/-- The colours of the dark theme. -/
def darkPalette : Palette :=
  { window := "#1e1e1e", panel := "#252526", editor := "#1e1e1e", input := "#2d2d30",
    subtleBorder := "#3e3e42", strongBorder := "#5a5d62", ink := "#cccccc", mutedInk := "#8d9094",
    accent := "#0e639c", hoveredAccent := "#1177bb", pressedAccent := "#0a4f7a",
    selection := "#264f78", focusRing := "#3794ff", danger := "#f14c4c", success := "#4ec9b0",
    statusBar := "#007acc", statusInk := "#ffffff", hovered := "#2a2d2e", code := "#2a2d31",
    keyword := "#569cd6", parameter := "#ce9178" }

/-- The colours of the light theme. -/
def lightPalette : Palette :=
  { window := "#f5f5f5", panel := "#ffffff", editor := "#ffffff", input := "#ffffff",
    subtleBorder := "#d4d4d4", strongBorder := "#b5b5b5", ink := "#1f1f1f", mutedInk := "#616161",
    accent := "#005fb8", hoveredAccent := "#0a72d5", pressedAccent := "#00498d",
    selection := "#add6ff", focusRing := "#005fb8", danger := "#c72e0f", success := "#0f7b0f",
    statusBar := "#007acc", statusInk := "#ffffff", hovered := "#e9eef6", code := "#eef2f8",
    keyword := "#0000ff", parameter := "#a31515" }

/-- The colours of a theme. -/
def palette : Theme → Palette
  | .dark => darkPalette
  | .light => lightPalette

end Theme

end ScenarioDesk
