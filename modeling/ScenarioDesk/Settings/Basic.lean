import ScenarioDesk.Json.Value
import ScenarioDesk.Settings.LogLevel
import ScenarioDesk.View.Theme

/-!
The settings. They are stored as ten fields of any JSON type; reading checks each field on its own
and takes the default for one that does not pass. A truth value passes for a number where zero or one
lies in the range, and stays a truth value.
-/

namespace ScenarioDesk

/-- A stored number, or a truth value in its place. -/
inductive Amount where
  | number (value : Int)
  | flag (value : Bool)
  deriving DecidableEq, Repr

namespace Amount

/-- The number that an amount counts as. -/
def value : Amount → Int
  | .number value => value
  | .flag value => if value then 1 else 0

/-- The stored form. -/
def toJson : Amount → Json
  | .number value => .int value
  | .flag value => .bool value

/-- The amount of a stored value. Only integers and truth values are amounts. -/
def ofJson? : Json → Option Amount
  | .int value => some (.number value)
  | .bool value => some (.flag value)
  | _ => none

end Amount

/-- The ten fields of the settings as they are stored, whatever they hold. -/
structure StoredSettings where
  lastDirectory : Json
  autosaveDelay : Json
  theme : Json
  previewVisible : Json
  maxSuggestions : Json
  logLevel : Json
  draftText : Json
  editingId : Json
  windowWidth : Json
  windowHeight : Json

/-- The settings of the program. -/
structure Settings where
  /-- Where the last file was chosen, or nothing. -/
  lastDirectory : Text := []
  /-- Milliseconds without typing before the draft is stored. -/
  autosaveDelay : Amount := .number 1200
  theme : Theme := .dark
  previewVisible : Bool := true
  /-- How many suggestions are shown at once. -/
  maxSuggestions : Amount := .number 8
  logLevel : LogLevel := .warning
  /-- The text that was not saved, or nothing. -/
  draftText : Text := []
  /-- The id of the scenario that the draft belongs to, or nothing. -/
  editingId : Text := []
  windowWidth : Amount := .number 1180
  windowHeight : Amount := .number 760
  deriving DecidableEq, Repr

namespace StoredSettings

/-- The stored object, with its fields in their order. -/
def toJson (stored : StoredSettings) : Json :=
  .object [
    ("last_directory", stored.lastDirectory),
    ("autosave_debounce_ms", stored.autosaveDelay),
    ("ui_theme", stored.theme),
    ("preview_visible", stored.previewVisible),
    ("max_visible_suggestions", stored.maxSuggestions),
    ("log_level", stored.logLevel),
    ("draft_text", stored.draftText),
    ("editing_id", stored.editingId),
    ("window_width", stored.windowWidth),
    ("window_height", stored.windowHeight)]

/-- The fields without the draft and what it belongs to. -/
def clearDraft (stored : StoredSettings) : StoredSettings :=
  { stored with draftText := .string [], editingId := .string [] }

end StoredSettings

namespace Settings

/-- The fields that store the settings. -/
def stored (settings : Settings) : StoredSettings where
  lastDirectory := .string settings.lastDirectory
  autosaveDelay := settings.autosaveDelay.toJson
  theme := .string settings.theme.name
  previewVisible := .bool settings.previewVisible
  maxSuggestions := settings.maxSuggestions.toJson
  logLevel := .string settings.logLevel.name
  draftText := .string settings.draftText
  editingId := .string settings.editingId
  windowWidth := settings.windowWidth.toJson
  windowHeight := settings.windowHeight.toJson

/-- A stored value that is there and passes a check, or the default. -/
def checked {α : Type} (stored : Option Json) (check : Json → Option α) (default : α) : α :=
  (stored.bind check).getD default

/-- An amount between two bounds, the upper of which may be missing. -/
def amountWithin (low : Int) (high : Option Int) (stored : Json) : Option Amount :=
  (Amount.ofJson? stored).filter fun amount =>
    low ≤ amount.value && high.all fun high => amount.value ≤ high

/-- The settings of a stored object. Every field is checked on its own. -/
def ofFields (data : Json) : Settings :=
  let defaults : Settings := {}
  { lastDirectory := checked (data.field? "last_directory") Json.text? defaults.lastDirectory
    autosaveDelay := checked (data.field? "autosave_debounce_ms") (amountWithin 100 none)
      defaults.autosaveDelay
    theme := checked (data.field? "ui_theme") (fun stored => stored.text?.bind Theme.named?)
      defaults.theme
    previewVisible := checked (data.field? "preview_visible") Json.bool? defaults.previewVisible
    maxSuggestions := checked (data.field? "max_visible_suggestions") (amountWithin 1 (some 50))
      defaults.maxSuggestions
    logLevel := checked (data.field? "log_level") (fun stored => stored.text?.bind LogLevel.ofText?)
      defaults.logLevel
    draftText := checked (data.field? "draft_text") Json.text? defaults.draftText
    editingId := checked (data.field? "editing_id") Json.text? defaults.editingId
    windowWidth := checked (data.field? "window_width") (amountWithin 640 (some 7680))
      defaults.windowWidth
    windowHeight := checked (data.field? "window_height") (amountWithin 480 (some 4320))
      defaults.windowHeight }

/-- The settings of a stored value. One that is no object gives the defaults. -/
def ofJson (data : Json) : Settings :=
  match data with
  | .object _ => ofFields data
  | _ => {}

/-- The settings without the draft and what it belongs to. -/
def clearDraft (settings : Settings) : Settings :=
  { settings with draftText := [], editingId := [] }

end Settings

end ScenarioDesk
