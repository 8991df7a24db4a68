import ScenarioDesk.Proofs.Session.Editing
import ScenarioDesk.Proofs.Session.Recovery
import ScenarioDesk.Proofs.Settings.RoundTrip
import ScenarioDesk.Proofs.Window.Storing

/-! The operations of the window that leave the draft alone. They draw, keep preferences, store the settings
or work on the collection; the text, whether it waits, what the settings have of it, and what is being
edited stay the same, whether the operation succeeds or fails. -/
namespace ScenarioDesk

/-- The two files of the program lie at different places, however the environment puts them. -/
theorem Environment.place_scenariosPath_ne (environment : Environment) :
    environment.scenariosPath.place ≠ environment.settingsPath.place := by
  have hPlace : ∀ (base : Path) (name : Text), name ≠ Path.above → ∀ file : Path,
      file = { base with names := base.names ++ [name] } → file.place.getLast? = some name := by
    rintro base name hName _ rfl
    rw [Path.place, List.foldl_append]
    show (Path.step _ name).getLast? = some name
    rw [Path.step, if_neg hName, List.getLast?_concat]
  intro hSame
  have hScenarios := hPlace _ "scenarios.json" (by decide) environment.scenariosPath rfl
  rw [hSame, hPlace _ "settings.json" (by decide) environment.settingsPath rfl] at hScenarios
  revert hScenarios
  decide

namespace Window

section Parts

variable {relation : Window → Window → Prop} [Std.Refl relation]

theorem keeps_get : Keeps relation (get : WindowM Window) := fun window => Std.Refl.refl window

variable [Trans relation relation relation]
  (hShow : ∀ dialog, Keeps relation (modify (showDialog dialog) : WindowM Unit))
  (hRemember : ∀ path, Keeps relation (rememberDirectory path))

include hShow

section Dialog

variable [Runtime] (hRead : ∀ path, Keeps relation (onSession (Session.readImportFile path)))

include hRead

/-- All that the import dialog does to the window is open further dialogs and read files. -/
theorem keeps_act (dialog : ImportDialog) (action : ImportDialog.Action) :
    Keeps relation (dialog.act action) := by
  cases action with
  | type text => exact keeps_pure _
  | cancel => exact keeps_pure _
  | accept =>
      show Keeps _ dialog.accept
      unfold ImportDialog.accept
      split
      · exact keeps_bind (hShow _) fun _ => keeps_pure _
      · exact keeps_pure _
  | load =>
      refine keeps_bind keeps_get fun window => keeps_bind (hShow _) fun _ => ?_
      dsimp only
      split
      · exact keeps_pure _
      · refine keeps_bind (hRead _) fun answer => ?_
        cases answer with
        | ok text => exact keeps_pure _
        | error notice => exact keeps_bind (hShow _) fun _ => keeps_pure _

theorem keeps_dialog (dialog : ImportDialog) (actions : List ImportDialog.Action) :
    Keeps relation (dialog.run actions) := by
  induction actions generalizing dialog with
  | nil => exact keeps_pure dialog
  | cons action actions ih => exact keeps_bind (keeps_act hShow hRead dialog action) ih

include hRemember in
theorem keeps_importScenarios (hImport : ∀ text, Keeps relation (importShown text))
    (actions : List ImportDialog.Action) (choices : List Text) :
    Keeps relation (importScenarios actions choices) := by
  refine keeps_bind keeps_get fun window => keeps_bind (keeps_dialog hShow hRead _ actions) fun dialog =>
    keeps_bind (hShow _) fun _ => ?_
  split
  · exact keeps_pure _
  · dsimp only
    cases dialog.loaded with
    | none => exact hImport _
    | some path => exact keeps_bind (hRemember path) fun _ => hImport _

end Dialog

include hRemember in
theorem keeps_exportScenarios [Runtime]
    (hNotice : ∀ notice, Keeps relation (modify (showNotice notice) : WindowM Unit)) {choice : Text}
    (hExport : Keeps relation (onSession (Session.exportTo (Path.ofText choice)))) :
    Keeps relation (exportScenarios choice) := by
  refine keeps_bind keeps_get fun window => ?_
  split
  · exact keeps_bind (hNotice _) fun _ => keeps_pure _
  · refine keeps_bind (hShow _) fun _ => ?_
    split
    · exact keeps_pure _
    · refine keeps_bind hExport fun notice => keeps_bind (hNotice _) fun _ => ?_
      split
      · exact hRemember _
      · exact keeps_pure _

end Parts

/-- Only what is shown differs, and preferences that are no numbers. -/
structure Redrawn (before after : Window) : Prop where
  settingsPath : after.settingsPath = before.settingsPath
  settings : after.settings = { before.settings with
    lastDirectory := after.settings.lastDirectory, theme := after.settings.theme,
    previewVisible := after.settings.previewVisible }
  session : after.session = before.session
  editor : after.editor = before.editor
  draft : after.draft = before.draft
  width : after.width = before.width
  height : after.height = before.height

theorem Redrawn.trans {first second third : Window} (hFirst : Redrawn first second)
    (hSecond : Redrawn second third) : Redrawn first third where
  settingsPath := hSecond.settingsPath.trans hFirst.settingsPath
  settings := by rw [hSecond.settings, hFirst.settings]
  session := hSecond.session.trans hFirst.session
  editor := hSecond.editor.trans hFirst.editor
  draft := hSecond.draft.trans hFirst.draft
  width := hSecond.width.trans hFirst.width
  height := hSecond.height.trans hFirst.height

theorem redrawn_updatePreview (window : Window) : Redrawn window window.updatePreview := by
  unfold updatePreview
  split
  · exact ⟨rfl, rfl, rfl, rfl, rfl, rfl, rfl⟩
  · exact ⟨rfl, rfl, rfl, rfl, rfl, rfl, rfl⟩

theorem redrawn_updateMode (window : Window) : Redrawn window window.updateMode :=
  ⟨rfl, rfl, rfl, rfl, rfl, rfl, rfl⟩

theorem redrawn_refreshList (window : Window) : Redrawn window window.refreshList := by
  refine Redrawn.trans ?_ (redrawn_updatePreview _)
  exact ⟨rfl, rfl, rfl, rfl, rfl, rfl, rfl⟩

theorem redrawn_showNotice (notice : Notice) (window : Window) :
    Redrawn window (window.showNotice notice) := by
  unfold showNotice
  dsimp only
  split
  · exact ⟨rfl, rfl, rfl, rfl, rfl, rfl, rfl⟩
  · exact ⟨rfl, rfl, rfl, rfl, rfl, rfl, rfl⟩

theorem stateAfter_onSession {α : Type} (operation : SessionM α) (window : Window) :
    stateAfter (onSession operation window) =
      { window with session := stateAfter (operation window.session) } := by
  unfold onSession
  cases operation window.session with
  | ok answer session => rfl
  | error failure session => rfl

theorem onSession_bind_apply {α β : Type} (operation : SessionM α) (following : α → WindowM β)
    (window : Window) : (onSession operation >>= following) window = match operation window.session with
      | .ok answer session => following answer { window with session := session }
      | .error failure session => .error failure { window with session := session } := by
  simp only [bind_apply, onSession]
  cases operation window.session with
  | ok answer session => rfl
  | error failure session => rfl

/-- An answer of the session is shown, and nothing else happens if it is an error. -/
theorem answer_apply (operation : SessionM Notice) (following : WindowM (Option (WindowM Unit)))
    (window : Window) :
    (do
      let notice ← onSession operation
      modify (showNotice notice)
      if notice.isError then return none
      following) window = match operation window.session with
      | .ok notice session =>
        if notice.isError then .ok none (showNotice notice { window with session := session })
        else following (showNotice notice { window with session := session })
      | .error failure session => .error failure { window with session := session } := by
  rw [onSession_bind_apply]
  cases operation window.session with
  | error failure session => rfl
  | ok notice session =>
      dsimp only
      rw [bind_of_ok (modify_apply _ _)]
      cases notice.isError with
      | true => rfl
      | false => rfl

theorem ask_apply (title text : Text) (answer : Bool) (window : Window) :
    ask title text answer window = .ok answer (window.showDialog (.question title text)) := rfl

theorem onSession_beginEdit (id : Text) (window : Window) :
    onSession (Session.beginEdit id) window = match window.session.find? id with
      | none => .ok none window
      | some scenario => .ok (some scenario.content)
          { window with session := { window.session with editing := some id } } := by
  simp only [onSession, Session.beginEdit_apply]
  cases window.session.find? id with
  | none => rfl
  | some scenario => rfl

theorem storeSettings_apply (window : Window) :
    storeSettings window = match window.settings.stored.save window.settingsPath window.session.host with
      | .ok () host => .ok () { window with session := { window.session with host := host } }
      | .error failure host =>
        .error failure { window with session := { window.session with host := host } } := by
  simp only [storeSettings, bind_apply, get_apply, onSession, Session.onHost]
  cases window.settings.stored.save window.settingsPath window.session.host with
  | ok answer host => rfl
  | error failure host => rfl

theorem isShort_max {first second : Int} (hFirst : Json.IsShort first) (hSecond : Json.IsShort second) :
    Json.IsShort (max first second) := by
  rcases Int.le_total first second with h | h
  · rwa [Int.max_eq_right h]
  · rwa [Int.max_eq_left h]

theorem isShort_leastWidth : Json.IsShort leastWidth := Settings.isShort_of_lt (by decide)

theorem isShort_leastHeight : Json.IsShort leastHeight := Settings.isShort_of_lt (by decide)

variable [Runtime] {environment : Environment} {settled : Prop}

/-- What it takes to open another window that goes on where this one ends: the collection can be found
again, and the settings can be stored and read. -/
structure Reopenable (environment : Environment) (settled : Prop) (window : Window) : Prop where
  settingsPath : window.settingsPath = environment.settingsPath
  store : window.session.store = environment.scenariosPath
  session : window.session.Recoverable settled
  settings : window.settings.IsStorable
  width : Json.IsShort window.width
  height : Json.IsShort window.height

/-- The draft is as it was, and so is what it belongs to. -/
structure KeepsDraft (environment : Environment) (settled : Prop) (before after : Window) : Prop where
  reopenable : Reopenable environment settled before → Reopenable environment settled after
  text : after.editor.buffer.text = before.editor.buffer.text
  waiting : after.draft.waiting = before.draft.waiting
  draftText : after.settings.draftText = before.settings.draftText
  editingId : after.settings.editingId = before.settings.editingId
  editing : after.session.editing = before.session.editing

instance : Std.Refl (KeepsDraft environment settled) := ⟨fun _ => ⟨id, rfl, rfl, rfl, rfl, rfl⟩⟩

instance : Trans (KeepsDraft environment settled) (KeepsDraft environment settled)
    (KeepsDraft environment settled) where
  trans hFirst hSecond :=
    ⟨fun h => hSecond.reopenable (hFirst.reopenable h), hSecond.text.trans hFirst.text,
      hSecond.waiting.trans hFirst.waiting, hSecond.draftText.trans hFirst.draftText,
      hSecond.editingId.trans hFirst.editingId, hSecond.editing.trans hFirst.editing⟩

theorem Redrawn.keepsDraft {before after : Window} (h : Redrawn before after) :
    KeepsDraft environment settled before after where
  reopenable hBefore := by
    refine ⟨h.settingsPath.trans hBefore.settingsPath, by rw [h.session]; exact hBefore.store,
      by rw [h.session]; exact hBefore.session, ?_, by rw [h.width]; exact hBefore.width,
      by rw [h.height]; exact hBefore.height⟩
    rw [h.settings]
    exact ⟨hBefore.settings.autosaveDelay, hBefore.settings.maxSuggestions,
      hBefore.settings.windowWidth, hBefore.settings.windowHeight⟩
  text := by rw [h.editor]
  waiting := by rw [h.draft]
  draftText := by rw [h.settings]
  editingId := by rw [h.settings]
  editing := by rw [h.session]

theorem keepsDraft_modify {draw : Window → Window} (h : ∀ window, Redrawn window (draw window)) :
    Keeps (KeepsDraft environment settled) (modify draw : WindowM Unit) := fun window => (h window).keepsDraft

theorem keepsDraft_get : Keeps (KeepsDraft environment settled) (get : WindowM Window) :=
  fun window => Std.Refl.refl window

theorem keepsDraft_showNotice (notice : Notice) :
    Keeps (KeepsDraft environment settled) (modify (showNotice notice) : WindowM Unit) :=
  keepsDraft_modify (redrawn_showNotice notice)

theorem keepsDraft_refreshList :
    Keeps (KeepsDraft environment settled) (modify refreshList : WindowM Unit) :=
  keepsDraft_modify redrawn_refreshList

theorem keepsDraft_showDialog (dialog : Dialog) :
    Keeps (KeepsDraft environment settled) (modify (showDialog dialog) : WindowM Unit) :=
  keepsDraft_modify fun _ => ⟨rfl, rfl, rfl, rfl, rfl, rfl, rfl⟩

/-- A request to the session, however it is answered, leaves the window one that can be opened again,
unless it exports onto the store's file. -/
theorem Reopenable.stateAfter {window : Window} (h : Reopenable environment settled window)
    {α : Type} {operation : SessionM α} {wrap : α → Session.Answer} (request : Session.Request)
    (hPerform : Session.perform request = wrap <$> operation)
    (hExport : ∀ path, request = .exportTo path → path.place ≠ environment.scenariosPath.place) :
    Reopenable environment settled
      { window with session := ScenarioDesk.stateAfter (operation window.session) } := by
  have hAfter : window.session.after request =
      ScenarioDesk.stateAfter (operation window.session) := by
    rw [Session.after_eq, hPerform, Session.stateAfter_map]
  rw [← hAfter]
  refine ⟨h.settingsPath, ?_, h.session.after ?_, h.settings, h.width, h.height⟩
  · exact (Session.moves_after window.session request).store_eq.trans h.store
  · rw [h.store]
    exact hExport

/-- A request that is not about editing leaves the draft alone. -/
theorem keepsDraft_onSession {α : Type} {operation : SessionM α} {wrap : α → Session.Answer}
    (request : Session.Request) (hPerform : Session.perform request = wrap <$> operation)
    (hExport : ∀ path, request = .exportTo path → path.place ≠ environment.scenariosPath.place)
    (hEditing : Keeps Session.SameEditing operation) :
    Keeps (KeepsDraft environment settled) (onSession operation) := by
  intro window
  rw [stateAfter_onSession]
  exact ⟨fun h => h.stateAfter request hPerform hExport, rfl, rfl, rfl, rfl, hEditing window.session⟩

/-- Storing the settings changes nothing but their file. Where it succeeds the settings can be found. -/
theorem storeSettings_spec (window : Window) :
    ∃ host, stateAfter (storeSettings window) =
        { window with session := { window.session with host := host } } ∧
      Disk.OverwritesAt window.settingsPath window.session.host.disk host.disk ∧
      ∀ after, window.settings.IsStorable → storeSettings window = .ok () after →
        Settings.found window.settingsPath host.disk =
          .ok (Settings.ofJson window.settings.stored.toJson) := by
  have hSave := window.settings.stored.save_spec window.settingsPath window.session.host
  rw [storeSettings_apply]
  cases hRun : window.settings.stored.save window.settingsPath window.session.host with
  | error failure host =>
      rw [hRun] at hSave
      exact ⟨host, rfl, hSave.2, fun _ _ hOk => nomatch hOk⟩
  | ok answer host =>
      rw [hRun] at hSave
      exact ⟨host, rfl, hSave.2.1, fun _ hStorable _ => Settings.found_of_save hStorable.stored hRun⟩

theorem keepsDraft_storeSettings : Keeps (KeepsDraft environment settled) storeSettings := by
  intro window
  obtain ⟨host, hAfter, hDisk, _⟩ := storeSettings_spec window
  rw [hAfter]
  refine ⟨fun h => ?_, rfl, rfl, rfl, rfl, rfl⟩
  refine ⟨h.settingsPath, h.store, h.session.of_overwritesAt ?_ hDisk, h.settings, h.width, h.height⟩
  rw [h.store, h.settingsPath]
  exact environment.place_scenariosPath_ne

theorem keepsDraft_rememberDirectory (path : Path) :
    Keeps (KeepsDraft environment settled) (rememberDirectory path) :=
  keeps_bind (keepsDraft_modify fun _ => ⟨rfl, rfl, rfl, rfl, rfl, rfl, rfl⟩)
    fun _ => keepsDraft_storeSettings

theorem keepsDraft_importText (text : Text) :
    Keeps (KeepsDraft environment settled) (onSession (Session.importText text)) :=
  keepsDraft_onSession (.importText text) rfl nofun (Session.keepsEditing_importText text)

theorem keepsDraft_readImportFile (path : Path) :
    Keeps (KeepsDraft environment settled) (onSession (Session.readImportFile path)) :=
  keepsDraft_onSession (.readImportFile path) rfl nofun
    (Session.keepsEditing_readImportFile path)

theorem keepsDraft_importScenarios (actions : List ImportDialog.Action) (choices : List Text) :
    Keeps (KeepsDraft environment settled) (importScenarios actions choices) :=
  keeps_importScenarios keepsDraft_showDialog keepsDraft_rememberDirectory keepsDraft_readImportFile
    (fun text => keeps_bind (keepsDraft_importText text) fun notice =>
      keeps_bind (keepsDraft_showNotice notice) fun _ => keepsDraft_refreshList) actions choices

theorem keepsDraft_exportScenarios {choice : Text}
    (hChoice : (Path.ofText choice).place ≠ environment.scenariosPath.place) :
    Keeps (KeepsDraft environment settled) (exportScenarios choice) := by
  refine keeps_exportScenarios keepsDraft_showDialog keepsDraft_rememberDirectory keepsDraft_showNotice
    (keepsDraft_onSession (.exportTo (Path.ofText choice)) rfl ?_ (Session.keepsEditing_exportTo _))
  rintro _ ⟨⟩
  exact hChoice

theorem keepsDraft_setLight (light : Bool) :
    Keeps (KeepsDraft environment settled) (setLight light) := by
  refine keeps_bind keepsDraft_get fun window => ?_
  split
  · exact keeps_pure _
  · refine keeps_bind (keepsDraft_modify fun _ => ⟨rfl, rfl, rfl, rfl, rfl, rfl, rfl⟩) fun _ =>
      keeps_bind keepsDraft_storeSettings fun _ => keepsDraft_modify fun window => ?_
    refine Redrawn.trans ?_ (redrawn_updatePreview _)
    exact ⟨rfl, rfl, rfl, rfl, rfl, rfl, rfl⟩

theorem keepsDraft_setPreview (shown : Bool) :
    Keeps (KeepsDraft environment settled) (setPreview shown) := by
  refine keeps_bind keepsDraft_get fun window => ?_
  split
  · exact keeps_pure _
  · exact keeps_bind (keepsDraft_modify fun _ => ⟨rfl, rfl, rfl, rfl, rfl, rfl, rfl⟩) fun _ =>
      keeps_bind keepsDraft_storeSettings fun _ => keepsDraft_modify redrawn_updatePreview

theorem keepsDraft_select (row : Int) : Keeps (KeepsDraft environment settled) (select row) := by
  refine keepsDraft_modify fun window => ?_
  dsimp only
  generalize (if 0 ≤ row ∧ row < window.rows.length then some row.toNat else none) = target
  split
  · exact ⟨rfl, rfl, rfl, rfl, rfl, rfl, rfl⟩
  · refine Redrawn.trans ?_ (redrawn_updatePreview _)
    exact ⟨rfl, rfl, rfl, rfl, rfl, rfl, rfl⟩

theorem keepsDraft_resize {width height : Int} (hWidth : Json.IsShort width)
    (hHeight : Json.IsShort height) : Keeps (KeepsDraft environment settled) (resize width height) :=
  fun _ => ⟨fun h => ⟨h.settingsPath, h.store, h.session, h.settings,
    isShort_max isShort_leastWidth hWidth, isShort_max isShort_leastHeight hHeight⟩, rfl, rfl, rfl, rfl, rfl⟩

end Window

end ScenarioDesk
