import ScenarioDesk.Window.Import

/-!
What a user can do with the window. An action that fails leaves the window as far as it got.
-/

namespace ScenarioDesk.Window

variable [Runtime]

/-- Saves the text of the editor. -/
def save : WindowM Unit := do
  let notice ← onSession (Session.save (← get).editor.buffer.text)
  modify (showNotice notice)
  if notice.isError then return ()
  resetEditor
  modify refreshList

/-- Asks a question, which is answered by yes or no. -/
def ask (title text : Text) (answer : Bool) : WindowM Bool := do
  modify (showDialog (.question title text))
  return answer

/-- Starts a new scenario. Text in the editor is only dropped if the user agrees. -/
def startNew (answer : Bool) : WindowM Unit := do
  if !Text.isAllBlank (← get).editor.buffer.text then
    if !(← ask "Discard changes" "Discard the text in the editor and start a new scenario?" answer)
    then return ()
  onSession Session.cancelEdit
  resetEditor

/-- The id of a row of the list, if the row is there and has one. -/
def idOfRow? (window : Window) (row : Option Nat) : Option Text :=
  (row.bind fun row => window.rows[row]?).bind ListRow.id

/-- Edits the scenario of a row. -/
def editRow (row : Option Nat) : WindowM Unit := do
  match (← get).idOfRow? row with
  | none | some [] => return ()
  | some id =>
    match ← onSession (Session.beginEdit id) with
    | none => return ()
    | some content =>
      let _ ← onEditor (.setText content)
      modify updateMode

/-- Deletes the scenario of the current row if the user agrees. -/
def deleteCurrent (answer : Bool) : WindowM Unit := do
  let window ← get
  match window.idOfRow? window.row with
  | none | some [] => return ()
  | some id =>
    if !(← ask "Delete scenario" "Are you sure you want to delete this test scenario?" answer) then
      return ()
    let wasEditing := window.session.editing = some id
    let notice ← onSession (Session.delete id)
    modify (showNotice notice)
    if notice.isError then return ()
    if wasEditing then resetEditor
    modify refreshList

/-- Makes a row current, or none if the list has no such row. The selection follows a change. -/
def select (row : Int) : WindowM Unit := modify fun window =>
  let row := if 0 ≤ row ∧ row < window.rows.length then some row.toNat else none
  if row = window.row then window
  else { window with row := row, selected := window.idOfRow? row }.updatePreview

/-- Where choosing a file starts, if a file was chosen before. -/
def lastDirectory? (window : Window) : Option Path :=
  if window.settings.lastDirectory = [] then none
  else some (Path.ofText window.settings.lastDirectory)

/-- Remembers the directory of a file that was chosen. -/
def rememberDirectory (path : Path) : WindowM Unit := do
  modify fun window =>
    { window with settings := { window.settings with lastDirectory := path.parent.text } }
  storeSettings

/-- Opens the import dialog, carries out what is done in it, and imports its text if it was
accepted. -/
def importScenarios (actions : List ImportDialog.Action) (choices : List Text) : WindowM Unit := do
  let dialog : ImportDialog := { start := (← get).lastDirectory?, choices := choices }
  let dialog ← dialog.run actions
  modify (showDialog (.importClosed dialog.buffer.text))
  if !dialog.accepted then return ()
  if let some path := dialog.loaded then rememberDirectory path
  let notice ← onSession (Session.importText dialog.buffer.text)
  modify (showNotice notice)
  modify refreshList

/-- The proposed name of an exported file. -/
def exportName : Text := "gherkin_test_cases.feature"

/-- Exports all scenarios to a file that is chosen, nothing for a choice that is cancelled. -/
def exportScenarios (choice : Text) : WindowM Unit := do
  let window ← get
  if window.session.scenarios = [] then
    modify (showNotice .nothingToExport)
    return ()
  let start := (window.lastDirectory?.getD window.home).below exportName
  modify (showDialog (.saveFile "Export scenarios" start.text))
  if choice = [] then return ()
  let path := Path.ofText choice
  let notice ← onSession (Session.exportTo path)
  modify (showNotice notice)
  if !notice.isError then rememberDirectory path

/-- Switches between the themes. The colours only change after the choice has been stored. -/
def setLight (light : Bool) : WindowM Unit := do
  if (← get).lightOn = light then return ()
  let theme : Theme := if light then .light else .dark
  modify fun window =>
    { window with lightOn := light, settings := { window.settings with theme := theme } }
  storeSettings
  modify fun window => { window with theme := theme }.updatePreview

/-- Switches the preview on or off. -/
def setPreview (shown : Bool) : WindowM Unit := do
  if (← get).previewOn = shown then return ()
  modify fun window =>
    { window with previewOn := shown, previewShown := shown,
                  settings := { window.settings with previewVisible := shown } }
  storeSettings
  modify updatePreview

/-- Gives the window another size, but not less than the least one. -/
def resize (width height : Int) : WindowM Unit := modify fun window =>
  { window with width := max leastWidth width, height := max leastHeight height }

/-- Stores the draft, the size of the window and the other settings before the window closes. -/
def close : WindowM Unit := do
  onDraft Draft.flush
  modify fun window => { window with settings := { window.settings with
    windowWidth := .number window.width, windowHeight := .number window.height } }
  storeSettings

/-- What can be done with the window. -/
inductive Action where
  | edit (event : Editor.Event)
  | save
  | startNew (answer : Bool)
  | deleteCurrent (answer : Bool)
  | editCurrent
  | editRow (row : Nat)
  | select (row : Int)
  | importScenarios (actions : List ImportDialog.Action) (choices : List Text)
  | exportScenarios (choice : Text)
  /-- The interval of the draft's timer passes. -/
  | elapse
  | resize (width height : Int)
  | setLight (light : Bool)
  | setPreview (shown : Bool)
  | close

/-- Carries out an action. -/
def perform : Action → WindowM Unit
  | .edit event => do let _ ← onEditor event
  | .save => save
  | .startNew answer => startNew answer
  | .deleteCurrent answer => deleteCurrent answer
  | .editCurrent => do editRow (← get).row
  | .editRow row => editRow (some row)
  | .select row => select row
  | .importScenarios actions choices => importScenarios actions choices
  | .exportScenarios choice => exportScenarios choice
  | .elapse => onDraft Draft.elapse
  | .resize width height => resize width height
  | .setLight light => setLight light
  | .setPreview shown => setPreview shown
  | .close => close

/-- The window after an action, whether it succeeded or failed. -/
def after (window : Window) (action : Action) : Window :=
  match perform action window with
  | .ok () next => next
  | .error _ next => next

/-- The window after some actions. -/
def run (window : Window) (actions : List Action) : Window := actions.foldl after window

end ScenarioDesk.Window
