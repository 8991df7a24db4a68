import ScenarioDesk.Proofs.Outcome
import ScenarioDesk.Window.Action

/-! Where actions store the settings. Storing a draft cannot break an action off, since what the disk refuses
is only shown. Everything else that is stored is stored in the middle of an action, and if that fails, the
rest of the action is not done. -/
namespace ScenarioDesk.Window

/-- Empties the editor and forgets the draft, without storing that. -/
def clearEditor : WindowM Unit := do
  let _ ← onEditor (.setText [])
  onDraft Draft.discard
  modify fun window => { window with settings := window.settings.clearDraft }

/-- Shows that there is no draft any more. -/
def showCleared : WindowM Unit := modify fun window => { window with draftMark := .stored }.updateMode

/-- Notes the directory of a file, without storing it. -/
def noteDirectory (path : Path) : WindowM Unit := modify fun window =>
  { window with settings := { window.settings with lastDirectory := path.parent.text } }

/-- Imports a text and shows what comes of it. -/
def importShown [Runtime] (text : Text) : WindowM Unit := do
  let notice ← onSession (Session.importText text)
  modify (showNotice notice)
  modify refreshList

/-- An action up to where it stores the settings, with what it does after that. There is no rest if the
action ends without storing the settings. -/
def Action.upToStoring [Runtime] : Action → WindowM (Option (WindowM Unit))
  | .save => do
    let notice ← onSession (Session.save (← get).editor.buffer.text)
    modify (showNotice notice)
    if notice.isError then return none
    clearEditor
    return some (do showCleared; modify refreshList)
  | .startNew answer => do
    if !Text.isAllBlank (← get).editor.buffer.text then
      if !(← ask "Discard changes" "Discard the text in the editor and start a new scenario?" answer)
      then return none
    onSession Session.cancelEdit
    clearEditor
    return some showCleared
  | .deleteCurrent answer => do
    let window ← get
    match window.idOfRow? window.row with
    | none | some [] => return none
    | some id =>
      if !(← ask "Delete scenario" "Are you sure you want to delete this test scenario?" answer) then
        return none
      let notice ← onSession (Session.delete id)
      modify (showNotice notice)
      if notice.isError then return none
      if window.session.editing = some id then
        clearEditor
        return some (do showCleared; modify refreshList)
      modify refreshList
      return none
  | .importScenarios actions choices => do
    let dialog : ImportDialog := { start := (← get).lastDirectory?, choices := choices }
    let dialog ← dialog.run actions
    modify (showDialog (.importClosed dialog.buffer.text))
    if !dialog.accepted then return none
    match dialog.loaded with
    | some path =>
      noteDirectory path
      return some (importShown dialog.buffer.text)
    | none =>
      importShown dialog.buffer.text
      return none
  | .exportScenarios choice => do
    let window ← get
    if window.session.scenarios = [] then
      modify (showNotice .nothingToExport)
      return none
    let start := (window.lastDirectory?.getD window.home).below exportName
    modify (showDialog (.saveFile "Export scenarios" start.text))
    if choice = [] then return none
    let notice ← onSession (Session.exportTo (Path.ofText choice))
    modify (showNotice notice)
    if !notice.isError then
      noteDirectory (Path.ofText choice)
      return some (return ())
    return none
  | .setLight light => do
    if (← get).lightOn = light then return none
    let theme : Theme := if light then .light else .dark
    modify fun window =>
      { window with lightOn := light, settings := { window.settings with theme := theme } }
    return some (modify fun window => { window with theme := theme }.updatePreview)
  | .setPreview shown => do
    if (← get).previewOn = shown then return none
    modify fun window =>
      { window with previewOn := shown, previewShown := shown,
                    settings := { window.settings with previewVisible := shown } }
    return some (modify updatePreview)
  | .close => do
    onDraft Draft.flush
    modify fun window => { window with settings := { window.settings with
      windowWidth := .number window.width, windowHeight := .number window.height } }
    return some (return ())
  | action => do
    perform action
    return none

/-- Stores the settings where an operation has come to that, and does the rest. -/
def finish (operation : WindowM (Option (WindowM Unit))) : WindowM Unit := do
  match ← operation with
  | none => return ()
  | some rest =>
    storeSettings
    rest

@[simp] theorem finish_pure_none : finish (pure none) = pure () := pure_bind _ _

@[simp] theorem finish_pure_some (rest : WindowM Unit) :
    finish (pure (some rest)) = (do storeSettings; rest) := pure_bind _ _

@[simp] theorem finish_bind {α : Type} (operation : WindowM α) (next : α → WindowM (Option (WindowM Unit))) :
    finish (operation >>= next) = operation >>= fun answer => finish (next answer) := bind_assoc _ _ _

@[simp] theorem finish_ite (condition : Prop) [Decidable condition]
    (first second : WindowM (Option (WindowM Unit))) :
    finish (if condition then first else second) = if condition then finish first else finish second :=
  apply_ite finish condition first second

theorem resetEditor_eq : resetEditor = (do clearEditor; storeSettings; showCleared) := by
  simp only [resetEditor, clearEditor, showCleared, bind_assoc]

theorem rememberDirectory_eq (path : Path) :
    rememberDirectory path = (do noteDirectory path; storeSettings) := rfl

variable [Runtime]

/-- Every action is what it does up to storing, and then the rest. -/
theorem perform_eq_finish (action : Action) : perform action = finish action.upToStoring := by
  cases action with
  | save =>
      simp only [perform, save, Action.upToStoring, resetEditor_eq, finish_bind, finish_ite,
        finish_pure_none, finish_pure_some, bind_assoc]
  | startNew answer =>
      simp only [perform, startNew, Action.upToStoring, resetEditor_eq, finish_bind, finish_ite,
        finish_pure_none, finish_pure_some]
  | deleteCurrent answer =>
      rw [perform, deleteCurrent, Action.upToStoring, finish_bind]
      congr 1
      funext window
      cases window.idOfRow? window.row with
      | none => rfl
      | some id =>
          cases id with
          | nil => rfl
          | cons c rest =>
              simp only [resetEditor_eq, finish_bind, finish_ite, finish_pure_none, finish_pure_some,
                bind_assoc, bind_pure_unit]
  | importScenarios actions choices =>
      simp only [perform, importScenarios, Action.upToStoring, finish_bind, finish_ite, finish_pure_none]
      refine bind_congr fun window => bind_congr fun dialog => bind_congr fun _ => ?_
      congr 1
      cases dialog.loaded with
      | none => simp only [importShown, finish_bind, finish_pure_none, bind_assoc, bind_pure_unit]
      | some path =>
          simp only [importShown, rememberDirectory_eq, finish_bind, finish_pure_some, bind_assoc]
  | exportScenarios choice =>
      simp only [perform, exportScenarios, Action.upToStoring, rememberDirectory_eq, finish_bind, finish_ite,
        finish_pure_none, finish_pure_some, bind_pure_unit]
  | setLight light =>
      simp only [perform, setLight, Action.upToStoring, finish_bind, finish_ite, finish_pure_none,
        finish_pure_some]
  | setPreview shown =>
      simp only [perform, setPreview, Action.upToStoring, finish_bind, finish_ite, finish_pure_none,
        finish_pure_some]
  | close =>
      simp only [perform, close, Action.upToStoring, finish_bind, finish_pure_some, bind_pure_unit]
  | edit event => simp only [Action.upToStoring, finish_bind, finish_pure_none, bind_pure_unit]
  | editCurrent => simp only [Action.upToStoring, finish_bind, finish_pure_none, bind_pure_unit]
  | editRow row => simp only [Action.upToStoring, finish_bind, finish_pure_none, bind_pure_unit]
  | select row => simp only [Action.upToStoring, finish_bind, finish_pure_none, bind_pure_unit]
  | elapse => simp only [Action.upToStoring, finish_bind, finish_pure_none, bind_pure_unit]
  | resize width height => simp only [Action.upToStoring, finish_bind, finish_pure_none, bind_pure_unit]

/-- How storing the settings fails in an action that comes to it, and what that leaves. -/
def storingFailure? (window : Window) (action : Action) : Option (Failure × Window) :=
  match action.upToStoring window with
  | .ok (some _) middle =>
    match storeSettings middle with
    | .ok () _ => none
    | .error failure next => some (failure, next)
  | _ => none

theorem storingFailure?_eq_some_iff {window next : Window} {action : Action} {failure : Failure} :
    window.storingFailure? action = some (failure, next) ↔
      ∃ rest middle, action.upToStoring window = .ok (some rest) middle ∧
        storeSettings middle = .error failure next := by
  unfold storingFailure?
  constructor
  · intro h
    split at h
    · next rest middle hRun =>
        split at h
        · cases h
        · next hStore =>
            cases h
            exact ⟨rest, middle, hRun, hStore⟩
    · cases h
  · rintro ⟨rest, middle, hRun, hStore⟩
    simp only [hRun, hStore]

/-- Where the action comes to storing the settings, they are stored. -/
def Stores (window : Window) (action : Action) : Prop := (window.storingFailure? action).isNone = true

instance (window : Window) (action : Action) : Decidable (Stores window action) :=
  inferInstanceAs (Decidable (_ = true))

theorem Stores.exists_stored {window middle : Window} {action : Action} {rest : WindowM Unit}
    (h : Stores window action) (hRun : action.upToStoring window = .ok (some rest) middle) :
    ∃ stored, storeSettings middle = .ok () stored := by
  cases hStore : storeSettings middle with
  | ok answer stored => exact ⟨stored, rfl⟩
  | error failure next =>
      rw [Stores, storingFailure?_eq_some_iff.mpr ⟨rest, middle, hRun, hStore⟩] at h
      cases h

/-- Where storing the settings fails, so does the action. -/
theorem perform_of_storingFailure {action : Action} {window next : Window} {failure : Failure}
    (h : window.storingFailure? action = some (failure, next)) :
    perform action window = .error failure next := by
  obtain ⟨rest, middle, hRun, hStore⟩ := storingFailure?_eq_some_iff.mp h
  rw [perform_eq_finish, finish, bind_of_ok hRun]
  show (do storeSettings; rest) middle = _
  rw [bind_apply, hStore]

end ScenarioDesk.Window
