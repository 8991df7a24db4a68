import ScenarioDesk.Proofs.Window.Drafts

/-! A safe window stays safe, whatever is done with it and wherever an action fails. Only an export onto
the store's own file, and sizes that no integer reader takes, are left out. -/
namespace ScenarioDesk.Window

/-- What a request to the session and then another operation lead to. -/
theorem stateAfter_onSession_bind {α β : Type} {property : Window → Prop} {operation : SessionM α}
    {next : α → WindowM β} {window : Window}
    (hError : ∀ failure session, operation window.session = .error failure session →
      property { window with session := session })
    (hOk : ∀ answer session, operation window.session = .ok answer session →
      property (stateAfter (next answer { window with session := session }))) :
    property (stateAfter ((onSession operation >>= next) window)) := by
  rw [onSession_bind_apply]
  cases hRun : operation window.session with
  | error failure session => exact hError failure session hRun
  | ok answer session => exact hOk answer session hRun

variable [Runtime] {environment : Environment} {settled : Prop}

/-- Emptying the editor is safe where nothing is being edited any more, even if the settings still have
an older draft. -/
theorem safe_resetEditor {window : Window} (h : Reopenable environment settled window)
    (hEditing : window.session.editing = none) :
    Safe environment settled (stateAfter (resetEditor window)) := by
  obtain ⟨edited, hRun, hEditor, hEdited⟩ := onEditor_spec (.setText []) window
  obtain ⟨modified, hDiscard⟩ := discard_spec edited
  have hAfter := hEdited.reopenable h
  have hCleared : Safe environment settled { edited with
      draft := edited.draft.discard.1, modified := modified, settings := edited.settings.clearDraft } := by
    refine ⟨⟨hAfter.settingsPath, hAfter.store, hAfter.session, ?_, hAfter.width, hAfter.height⟩, ?_⟩
    · exact ⟨hAfter.settings.autosaveDelay, hAfter.settings.maxSuggestions,
        hAfter.settings.windowWidth, hAfter.settings.windowHeight⟩
    · refine remembers_of_noted rfl ?_ ?_
      · show [] = edited.editor.buffer.text
        rw [hEditor]
        rfl
      · show [] = edited.session.editing.getD []
        rw [hEdited.session, hEditing]
        rfl
  unfold resetEditor
  rw [bind_of_ok hRun, bind_of_ok hDiscard, bind_of_ok (modify_apply _ _)]
  refine hCleared.of_keepsDraft ((?_ : Keeps (KeepsDraft environment settled) _) _)
  exact keeps_bind keepsDraft_storeSettings fun _ => keepsDraft_modify fun _ =>
    ⟨rfl, rfl, rfl, rfl, rfl, rfl, rfl⟩

/-- A session that is edited on as before may take the place of the window's own. -/
theorem Safe.withSession {window : Window} (h : Safe environment settled window) {session : Session}
    (hReopenable : Reopenable environment settled { window with session := session })
    (hEditing : session.editing = window.session.editing) :
    Safe environment settled { window with session := session } := by
  refine ⟨hReopenable, h.remembers.waiting, ?_⟩
  show _ → _ ∧ _ = session.editing.getD []
  rw [hEditing]
  exact h.remembers.noted

/-- Once nothing is being edited any more, the editor is emptied and the list filled anew. -/
theorem safe_startAfresh {window : Window} (h : Reopenable environment settled window)
    (hEditing : window.session.editing = none) :
    Safe environment settled (stateAfter ((do resetEditor; modify refreshList) window)) :=
  stateAfter_bind (safe_resetEditor h hEditing) fun _ _ hMiddle =>
    hMiddle.of_keepsDraft (redrawn_refreshList _).keepsDraft

theorem staysSafe_save : Keeps (StaysSafe environment settled) save := by
  refine keeps_bind (fun _ => id) fun shown window h => ?_
  have hEditing := Session.editing_of_save shown.editor.buffer.text window.session
  have hAfter := h.reopenable.stateAfter (.save shown.editor.buffer.text) rfl nofun
  refine stateAfter_onSession_bind (fun failure session hRun => ?_) fun notice session hRun => ?_
  · rw [hRun] at hEditing hAfter
    exact h.withSession hAfter hEditing
  · rw [hRun] at hEditing hAfter
    dsimp only at hEditing
    have hShown : KeepsDraft environment settled { window with session := session } _ :=
      (redrawn_showNotice notice _).keepsDraft
    rw [bind_of_ok (modify_apply _ _)]
    by_cases hError : notice.isError = true
    · rw [if_pos hError] at hEditing ⊢
      exact (h.withSession hAfter hEditing).of_keepsDraft hShown
    · rw [if_neg hError] at hEditing ⊢
      exact safe_startAfresh (hShown.reopenable hAfter) (hShown.editing.trans hEditing)

theorem staysSafe_ask (title text : Text) (answer : Bool) :
    Keeps (StaysSafe environment settled) (ask title text answer) :=
  keeps_bind (staysSafe_of_keepsDraft (keepsDraft_showDialog _)) fun _ => keeps_pure answer

theorem staysSafe_startNew (answer : Bool) : Keeps (StaysSafe environment settled) (startNew answer) := by
  have hCancel : Keeps (StaysSafe environment settled) (do onSession Session.cancelEdit; resetEditor) := by
    intro window h
    have hAfter := h.reopenable
    have hSession : (Session.after window.session .cancelEdit).Recoverable settled :=
      hAfter.session.after nofun
    exact safe_resetEditor ⟨hAfter.settingsPath, hAfter.store, hSession, hAfter.settings, hAfter.width,
      hAfter.height⟩ rfl
  refine keeps_bind (fun _ => id) fun shown => ?_
  dsimp only
  split
  · refine keeps_bind (staysSafe_ask _ _ answer) fun agreed => ?_
    split
    · exact keeps_pure ()
    · exact hCancel
  · exact hCancel

/-- The content of a scenario that is edited from now on waits in the draft. -/
theorem staysSafe_beginEdit (id : Text) : Keeps (StaysSafe environment settled) (do
    match ← onSession (Session.beginEdit id) with
    | none => return ()
    | some content =>
      let _ ← onEditor (.setText content)
      modify updateMode) := by
  intro window h
  have hAfter := h.reopenable.stateAfter (.beginEdit id) rfl nofun
  rw [Session.beginEdit_apply] at hAfter
  cases hFind : window.session.find? id with
  | none =>
      have hDone := onSession_beginEdit id window
      rw [hFind] at hDone
      rw [bind_of_ok hDone]
      exact h
  | some scenario =>
      rw [hFind] at hAfter
      have hDone := onSession_beginEdit id window
      rw [hFind] at hDone
      obtain ⟨after, hSet, _, hEdited⟩ := onEditor_spec (.setText scenario.content)
        { window with session := { window.session with editing := some id } }
      rw [bind_of_ok hDone]
      dsimp only
      rw [bind_of_ok hSet]
      have hSafe : Safe environment settled after :=
        ⟨hEdited.reopenable hAfter, remembers_of_waiting hEdited.waiting⟩
      exact hSafe.of_keepsDraft (redrawn_updateMode after).keepsDraft

theorem staysSafe_editRow (row : Option Nat) : Keeps (StaysSafe environment settled) (editRow row) := by
  refine keeps_bind (fun _ => id) fun shown => ?_
  split
  · exact keeps_pure ()
  · exact keeps_pure ()
  · exact staysSafe_beginEdit _

/-- Deleting the scenario that is being edited empties the editor, deleting another one leaves it. -/
theorem staysSafe_delete (id : Text) (editing : Option Text) {window : Window}
    (h : Safe environment settled window) (hSame : editing = window.session.editing) :
    Safe environment settled (stateAfter ((do
      let notice ← onSession (Session.delete id)
      modify (showNotice notice)
      if notice.isError then return ()
      if editing = some id then resetEditor
      modify refreshList) window)) := by
  have hEditing := Session.editing_of_delete id window.session
  have hAfter := h.reopenable.stateAfter (.delete id) rfl nofun
  refine stateAfter_onSession_bind (fun failure session hRun => ?_) fun notice session hRun => ?_
  · rw [hRun] at hEditing hAfter
    exact h.withSession hAfter hEditing
  · rw [hRun] at hEditing hAfter
    dsimp only at hEditing
    have hShown : KeepsDraft environment settled { window with session := session } _ :=
      (redrawn_showNotice notice _).keepsDraft
    rw [bind_of_ok (modify_apply _ _)]
    by_cases hError : notice.isError = true
    · rw [if_neg fun hDeleted => absurd hError (by rw [hDeleted.1]; exact nofun)] at hEditing
      rw [if_pos hError]
      exact (h.withSession hAfter hEditing).of_keepsDraft hShown
    · rw [if_neg hError, hSame]
      by_cases hOpen : window.session.editing = some id
      · rw [if_pos ⟨Bool.eq_false_iff.mpr hError, hOpen⟩] at hEditing
        rw [if_pos hOpen]
        exact safe_startAfresh (hShown.reopenable hAfter) (hShown.editing.trans hEditing)
      · rw [if_neg fun hDeleted => hOpen hDeleted.2] at hEditing
        rw [if_neg hOpen]
        exact ((h.withSession hAfter hEditing).of_keepsDraft hShown).of_keepsDraft
          (redrawn_refreshList _).keepsDraft

theorem staysSafe_deleteCurrent (answer : Bool) :
    Keeps (StaysSafe environment settled) (deleteCurrent answer) := by
  intro window h
  unfold deleteCurrent
  rw [bind_of_ok (get_apply window)]
  cases window.idOfRow? window.row with
  | none => exact h
  | some id =>
      cases id with
      | nil => exact h
      | cons c rest =>
          have hAsked := staysSafe_ask "Delete scenario"
            "Are you sure you want to delete this test scenario?" answer window h
          have hRun : ask "Delete scenario" "Are you sure you want to delete this test scenario?" answer
              window = .ok answer (window.showDialog (.question "Delete scenario"
                "Are you sure you want to delete this test scenario?")) := rfl
          dsimp only
          rw [bind_of_ok hRun]
          cases answer with
          | false => exact hAsked
          | true => exact staysSafe_delete (c :: rest) window.session.editing hAsked rfl

/-- What a user may do: an export goes to another file than the store's, and a size is a number that can
be written and read again. -/
def Action.IsOrdinary (store : Path) : Action → Prop
  | .exportScenarios choice => (Path.ofText choice).place ≠ store.place
  | .resize width height => Json.IsShort width ∧ Json.IsShort height
  | _ => True

theorem keepsDraft_size : Keeps (KeepsDraft environment settled) (do
    modify fun window => { window with settings := { window.settings with
      windowWidth := .number window.width, windowHeight := .number window.height } }
    storeSettings) := by
  refine keeps_bind (fun window => ⟨fun h => ?_, rfl, rfl, rfl, rfl, rfl⟩) fun _ =>
    keepsDraft_storeSettings
  exact ⟨h.settingsPath, h.store, h.session,
    ⟨h.settings.autosaveDelay, h.settings.maxSuggestions, .int h.width, .int h.height⟩, h.width, h.height⟩

/-- Every action keeps a safe window safe, whether it succeeds or fails. -/
theorem staysSafe_perform {action : Action} (hAction : action.IsOrdinary environment.scenariosPath) :
    Keeps (StaysSafe environment settled) (perform action) := by
  cases action with
  | edit event => exact keeps_bind (staysSafe_onEditor event) fun _ => keeps_pure ()
  | save => exact staysSafe_save
  | startNew answer => exact staysSafe_startNew answer
  | deleteCurrent answer => exact staysSafe_deleteCurrent answer
  | editCurrent => exact keeps_bind (fun _ => id) fun window => staysSafe_editRow window.row
  | editRow row => exact staysSafe_editRow (some row)
  | select row => exact staysSafe_of_keepsDraft (keepsDraft_select row)
  | importScenarios actions choices =>
      exact staysSafe_of_keepsDraft (keepsDraft_importScenarios actions choices)
  | exportScenarios choice => exact staysSafe_of_keepsDraft (keepsDraft_exportScenarios hAction)
  | elapse => exact staysSafe_elapse
  | resize width height => exact staysSafe_of_keepsDraft (keepsDraft_resize hAction.1 hAction.2)
  | setLight light => exact staysSafe_of_keepsDraft (keepsDraft_setLight light)
  | setPreview shown => exact staysSafe_of_keepsDraft (keepsDraft_setPreview shown)
  | close =>
      exact keeps_bind (fun window h => (flush_spec h).safe) fun _ =>
        staysSafe_of_keepsDraft keepsDraft_size

theorem after_eq (window : Window) (action : Action) :
    after window action = stateAfter (perform action window) := by
  unfold after
  cases perform action window with
  | ok answer next => rfl
  | error failure next => rfl

/-- A run of actions keeps a safe window safe. -/
theorem Safe.run {window : Window} (h : Safe environment settled window) {actions : List Action}
    (hActions : ∀ action ∈ actions, action.IsOrdinary environment.scenariosPath) :
    Safe environment settled (window.run actions) := by
  induction actions generalizing window with
  | nil => exact h
  | cons action actions ih =>
      have hFirst : Safe environment settled (window.after action) := by
        rw [after_eq]
        exact staysSafe_perform (hActions action List.mem_cons_self) window h
      exact ih hFirst fun later hLater => hActions later (List.mem_cons_of_mem _ hLater)

end ScenarioDesk.Window
