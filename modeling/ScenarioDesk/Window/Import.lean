import ScenarioDesk.Window.Basic

/-!
The import dialog. It collects text that is typed or loaded from files; what becomes of the text is
decided after it has closed.
-/

namespace ScenarioDesk

/-- The state of the import dialog. -/
structure ImportDialog where
  buffer : Buffer := {}
  /-- Where choosing a file starts. -/
  start : Option Path := none
  /-- The file that was loaded last. -/
  loaded : Option Path := none
  accepted : Bool := false
  /-- The files that will be chosen, nothing for a choice that is cancelled. -/
  choices : List Text := []
  deriving DecidableEq, Repr

namespace ImportDialog

variable [Runtime]

/-- What is done in the dialog. -/
inductive Action where
  | type (text : Text)
  | load
  | accept
  | cancel
  deriving DecidableEq, Repr

/-- Has a file chosen and loads it. A file that cannot be read is reported and changes nothing. -/
def load (dialog : ImportDialog) : WindowM ImportDialog := do
  let start := (dialog.start.getD (← get).home).text
  modify (Window.showDialog (.openFile "Choose a scenario file" start))
  let chosen := dialog.choices.headD []
  let dialog := { dialog with choices := dialog.choices.drop 1 }
  if chosen = [] then return dialog
  let path := Path.ofText chosen
  match ← Window.onSession (Session.readImportFile path) with
  | .error notice =>
    modify (Window.showDialog (.critical "Import failed" notice.message))
    return dialog
  | .ok text =>
    return { dialog with loaded := some path, start := some path.parent,
                         buffer := Buffer.setText text }

/-- Accepts the text unless it is blank. -/
def accept (dialog : ImportDialog) : WindowM ImportDialog := do
  if Text.isAllBlank dialog.buffer.text then
    modify (Window.showDialog
      (.warning "Nothing to import" "Paste scenario text or load a file first."))
    return dialog
  return { dialog with accepted := true }

/-- Carries out one action. -/
def act (dialog : ImportDialog) : Action → WindowM ImportDialog
  | .type text => return { dialog with buffer := dialog.buffer.insert text }
  | .load => dialog.load
  | .accept => dialog.accept
  | .cancel => return { dialog with accepted := false }

/-- Carries out actions in order. -/
def run (dialog : ImportDialog) : List Action → WindowM ImportDialog
  | [] => return dialog
  | action :: actions => do run (← dialog.act action) actions

end ImportDialog

end ScenarioDesk
