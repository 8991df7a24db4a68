import ScenarioDesk.Draft
import ScenarioDesk.Editor.Basic
import ScenarioDesk.Session.Basic
import ScenarioDesk.Settings.Directories
import ScenarioDesk.Settings.File
import ScenarioDesk.View.Preview

/-!
The main window: a session, an editor, the list of saved scenarios, a preview of the selected one,
and the settings that outlive the window. The labels are state of their own, since they are brought
up to date by the actions that change what they speak of.
-/

namespace ScenarioDesk

/-- A row of the list of scenarios. The row of an empty list has no id and cannot be chosen. -/
structure ListRow where
  text : Text
  id : Option Text
  enabled : Bool
  deriving DecidableEq, Repr

namespace ListRow

/-- The row of a scenario. -/
def ofScenario (scenario : Scenario) : ListRow := ⟨scenario.title, some scenario.id, true⟩

/-- The row that says there is nothing. -/
def placeholder : ListRow := ⟨"(no saved test scenarios yet)", none, false⟩

/-- The rows of a collection. -/
def ofCollection (scenarios : Collection) : List ListRow :=
  if scenarios = [] then [placeholder] else scenarios.map ofScenario

end ListRow

/-- What the window says about the draft. -/
inductive DraftMark where
  | stored
  | pending
  | failed
  deriving DecidableEq, Repr

/-- The words for the state of the draft. -/
def DraftMark.label : DraftMark → Text
  | .stored => "Draft: ✓"
  | .pending => "Draft: pending..."
  | .failed => "Draft: error"

/-- A message in the status bar and for how many milliseconds it is shown. -/
structure StatusMessage where
  text : Text
  milliseconds : Nat
  deriving DecidableEq, Repr

/-- Something that opens in front of the window. -/
inductive Dialog where
  | question (title text : Text)
  | warning (title text : Text)
  | critical (title text : Text)
  /-- A file to open is chosen, starting in a directory. -/
  | openFile (title start : Text)
  /-- A file to save to is chosen, starting from a proposed one. -/
  | saveFile (title start : Text)
  /-- The import dialog has closed with this text in it. -/
  | importClosed (text : Text)
  deriving DecidableEq, Repr

/-- The state of the window and everything it works on. -/
structure Window where
  /-- Where the settings are stored. -/
  settingsPath : Path
  /-- Where choosing a file starts as long as none has been chosen. -/
  home : Path
  settings : Settings
  session : Session
  theme : Theme
  editor : Editor
  draft : Draft
  /-- The id of the selected scenario. -/
  selected : Option Text := none
  rows : List ListRow := []
  /-- The current row of the list. -/
  row : Option Nat := none
  /-- The title of the scenario that is shown as being edited. -/
  editedTitle : Option Text := none
  /-- The number of scenarios that is shown. -/
  shownCount : Nat := 0
  draftMark : DraftMark := .stored
  /-- The window is marked as modified. -/
  modified : Bool := false
  status : Option StatusMessage := none
  /-- The preview is switched on. -/
  previewOn : Bool
  /-- The light theme is switched on. -/
  lightOn : Bool
  /-- The preview panel is seen. -/
  previewShown : Bool
  /-- What the preview shows, if it was ever drawn. -/
  preview : Option Text := none
  width : Int
  height : Int
  /-- The dialogs so far, oldest first. -/
  dialogs : List Dialog := []

/-- An operation on a window. What it did before it failed stays done. -/
abbrev WindowM := EStateM Failure Window

namespace Window

/-- The least width of the window. -/
def leastWidth : Int := 900

/-- The least height of the window. -/
def leastHeight : Int := 600

/-- The mode label. -/
def modeLabel (window : Window) : Text :=
  match window.editedTitle with
  | some title => "Editing: " ++ title
  | none => "New scenario"

/-- The label of the save action. -/
def saveLabel (window : Window) : Text :=
  match window.editedTitle with
  | some _ => "Update"
  | none => "Save"

/-- The label with the number of scenarios. -/
def countLabel (window : Window) : Text := "Scenarios: " ++ Text.ofNat window.shownCount

/-- The scenario that is selected. -/
def selectedScenario? (window : Window) : Option Scenario :=
  window.selected.bind fun id => if id = [] then none else window.session.find? id

/-- The scenario that is being edited. -/
def editedScenario? (window : Window) : Option Scenario :=
  window.session.editing.bind fun id => if id = [] then none else window.session.find? id

/-- Draws the preview of the selected scenario, if the preview is switched on. -/
def updatePreview (window : Window) : Window :=
  if window.previewOn then
    { window with
      preview := some (Preview.body ((window.selectedScenario?.map Scenario.content).getD [])) }
  else window

/-- Shows whether and which scenario is being edited. -/
def updateMode (window : Window) : Window :=
  { window with editedTitle := window.editedScenario?.map Scenario.title }

/-- The last row of the list with the selected id. -/
def rowOfSelected (window : Window) : Option Nat :=
  window.session.scenarios.zipIdx.foldl
    (fun found (scenario, index) => if some scenario.id = window.selected then some index else found)
    none

/-- Fills the list anew and keeps the selection if its scenario is still there. -/
def refreshList (window : Window) : Window :=
  let row := window.rowOfSelected
  { window with
    rows := ListRow.ofCollection window.session.scenarios
    row := row
    selected := if row.isSome then window.selected else none
    shownCount := window.session.scenarios.length }.updatePreview

/-- Shows a message in the status bar. -/
def showStatus (text : Text) (milliseconds : Nat) (window : Window) : Window :=
  { window with status := some ⟨text, milliseconds⟩ }

/-- Opens a dialog. -/
def showDialog (dialog : Dialog) (window : Window) : Window :=
  { window with dialogs := window.dialogs ++ [dialog] }

/-- Shows a notice in the status bar, and an error in front of the window as well. -/
def showNotice (notice : Notice) (window : Window) : Window :=
  let window := window.showStatus (notice.title ++ ": " ++ notice.message)
    (if notice.isError then 7000 else 3000)
  if notice.isError then window.showDialog (.warning notice.title notice.message) else window

/-- An operation on the window's session. -/
def onSession {α : Type} (operation : SessionM α) : WindowM α := fun window =>
  match operation window.session with
  | .ok result session => .ok result { window with session := session }
  | .error error session => .error error { window with session := session }

/-- Stores the settings. -/
def storeSettings : WindowM Unit := do
  let window ← get
  onSession (Session.onHost (window.settings.stored.save window.settingsPath))

/-- Stores the draft and the id that it belongs to. A refusal by the disk is only shown. -/
def storeDraft (text : Text) : WindowM Unit := do
  modify fun window => { window with settings := { window.settings with
    draftText := text, editingId := window.session.editing.getD [] } }
  try
    storeSettings
    modify fun window => { window with draftMark := .stored }
  catch failure =>
    match failure with
    | .disk (.system error) =>
      modify fun window => { window with draftMark := .failed }
      modify (showStatus ("Could not store draft: " ++ error.message) 7000)
    | _ => throw failure

/-- Lets the window follow what the draft announces. -/
def followDraft : List DraftEvent → WindowM Unit
  | [] => return ()
  | .pendingChanged pending :: events => do
    modify fun window => { window with modified := pending }
    followDraft events
  | .ready text :: events => do
    storeDraft text
    followDraft events

/-- An operation on the draft, with all it announces. -/
def onDraft (operation : Draft → Draft × List DraftEvent) : WindowM Unit := do
  let (draft, events) := operation (← get).draft
  modify fun window => { window with draft := draft }
  followDraft events

/-- An event in the editor, whose suggestions come from the session as it is now. A change of the
text makes the draft wait. Tells whether the text changed. -/
def onEditor (event : Editor.Event) : WindowM Bool := do
  let window ← get
  let editor := { window.editor with vocabulary := some window.session.vocabulary }
  let (editor, changed) := editor.handle event
  modify fun window => { window with editor := editor }
  if changed then
    onDraft fun draft => draft.schedule editor.buffer.text
    modify fun window => { window with draftMark := .pending }
  return changed

/-- Empties the editor and forgets the draft. -/
def resetEditor : WindowM Unit := do
  let _ ← onEditor (.setText [])
  onDraft Draft.discard
  modify fun window => { window with settings := window.settings.clearDraft }
  storeSettings
  modify fun window => { window with draftMark := .stored }.updateMode

/-- Continues with the draft of an earlier window, and with the scenario it belongs to if that still
exists. -/
def restoreDraft : WindowM Unit := do
  let settings := (← get).settings
  if settings.editingId ≠ [] then
    if (← onSession (Session.beginEdit settings.editingId)).isNone then
      modify fun window => { window with settings := { window.settings with editingId := [] } }
  if settings.draftText ≠ [] then
    let _ ← onEditor (.setText settings.draftText)
    modify (showStatus "Unsaved draft restored" 3000)
  onDraft Draft.discard

/-- A window before it shows anything. -/
def blank (environment : Environment) (settings : Settings) (session : Session) : Window where
  settingsPath := environment.settingsPath
  home := environment.home
  settings := settings
  session := session
  theme := settings.theme
  editor := Editor.empty settings.maxSuggestions.value
  draft := Draft.withDelay settings.autosaveDelay.value
  previewOn := settings.previewVisible
  lightOn := settings.theme = .light
  previewShown := settings.previewVisible
  width := max leastWidth settings.windowWidth.value
  height := max leastHeight settings.windowHeight.value

/-- Draws everything for the first time. -/
def setUp : WindowM Unit := do
  modify updatePreview
  modify refreshList
  restoreDraft
  modify updateMode

variable [Runtime]

/-- A window with the given settings on the store of the environment. -/
def openWith (environment : Environment) (settings : Settings) (host : Host) :
    Except Failure Window × Host :=
  match Session.openStore environment.scenariosPath host with
  | (.error failure, host) => (.error failure, host)
  | (.ok session, _) =>
    match setUp (blank environment settings session) with
    | .ok () window => (.ok window, window.session.host)
    | .error failure window => (.error failure, window.session.host)

/-- A window with the stored settings. -/
def openStored (environment : Environment) (host : Host) : Except Failure Window × Host :=
  match Settings.load environment.settingsPath host with
  | .ok settings host => openWith environment settings host
  | .error failure host => (.error failure, host)

end Window

end ScenarioDesk
