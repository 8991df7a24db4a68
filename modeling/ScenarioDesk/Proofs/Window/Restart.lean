import ScenarioDesk.Proofs.Window.Safety

/-! Closing a window and opening the next one. What the settings say of the draft is what the editor of
the next window shows, and the scenario that was being edited is edited on, since the store has it. -/
namespace ScenarioDesk.Window

variable {environment : Environment} {settled : Prop}

/-- The scenario that stored settings go on with: the one they name, if the collection has it. -/
def resumed (settings : Settings) (session : Session) : Option Text :=
  if settings.editingId ≠ [] ∧ settings.editingId ∈ session.scenarios.ids then
    some settings.editingId
  else none

/-- A window that has taken over a draft from settings. -/
structure Restored (before after : Window) : Prop where
  settingsPath : after.settingsPath = before.settingsPath
  width : after.width = before.width
  height : after.height = before.height
  session : after.session =
    { before.session with editing := resumed before.settings before.session }
  settings : after.settings =
    { before.settings with editingId := (resumed before.settings before.session).getD [] }
  text : after.editor.buffer.text = before.settings.draftText
  waiting : after.draft.waiting = none

/-- Putting the draft into an empty editor, once it is settled what is being edited. A draft without text
needs no putting. -/
theorem restoreText_spec {before middle : Window} (hText : middle.editor.buffer.text = [])
    (hPath : middle.settingsPath = before.settingsPath) (hWidth : middle.width = before.width)
    (hHeight : middle.height = before.height)
    (hSession : middle.session =
      { before.session with editing := resumed before.settings before.session })
    (hSettings : middle.settings =
      { before.settings with editingId := (resumed before.settings before.session).getD [] }) :
    ∃ after, (do
        if before.settings.draftText ≠ [] then
          let _ ← onEditor (.setText before.settings.draftText)
          modify (showStatus "Unsaved draft restored" 3000)
        onDraft Draft.discard : WindowM Unit) middle = .ok () after ∧ Restored before after := by
  by_cases hDraft : before.settings.draftText = []
  · obtain ⟨modified, hDiscard⟩ := discard_spec middle
    rw [if_neg (not_not.mpr hDraft)]
    exact ⟨_, hDiscard, hPath, hWidth, hHeight, hSession, hSettings, hText.trans hDraft.symm, rfl⟩
  · obtain ⟨edited, hSet, hEditor, hEdited⟩ := onEditor_spec (.setText before.settings.draftText) middle
    obtain ⟨modified, hDiscard⟩ := discard_spec (edited.showStatus "Unsaved draft restored" 3000)
    rw [if_pos hDraft, bind_of_ok hSet, bind_of_ok (modify_apply _ _)]
    refine ⟨_, hDiscard, hEdited.settingsPath.trans hPath, hEdited.width.trans hWidth,
      hEdited.height.trans hHeight, hEdited.session.trans hSession, hEdited.settings.trans hSettings, ?_, rfl⟩
    show edited.editor.buffer.text = before.settings.draftText
    rw [hEditor]
    rfl

theorem restoreDraft_spec {window : Window} (hText : window.editor.buffer.text = [])
    (hEditing : window.session.editing = none) :
    ∃ after, restoreDraft window = .ok () after ∧ Restored window after := by
  unfold restoreDraft
  rw [bind_of_ok (get_apply window)]
  dsimp only
  by_cases hId : window.settings.editingId = []
  · have hNone : resumed window.settings window.session = none := if_neg fun hBoth => hBoth.1 hId
    rw [if_neg (not_not.mpr hId)]
    refine restoreText_spec hText rfl rfl rfl ?_ ?_
    · rw [hNone, ← hEditing]
    · rw [hNone, Option.getD_none, ← hId]
  · have hBegin := onSession_beginEdit window.settings.editingId window
    rw [if_pos hId]
    cases hFind : window.session.find? window.settings.editingId with
    | none =>
        have hNone : resumed window.settings window.session = none := by
          refine if_neg fun hBoth => ?_
          have hFound := Collection.isSome_byId?_iff.mpr hBoth.2
          rw [show window.session.scenarios.byId? window.settings.editingId = none from hFind] at hFound
          cases hFound
        rw [hFind] at hBegin
        rw [bind_of_ok hBegin]
        refine restoreText_spec hText rfl rfl rfl ?_ ?_
        · rw [hNone, ← hEditing]
        · rw [hNone, Option.getD_none]
    | some scenario =>
        have hSome : resumed window.settings window.session = some window.settings.editingId :=
          if_pos ⟨hId, Collection.isSome_byId?_iff.mp (Option.isSome_of_eq_some hFind)⟩
        rw [hFind] at hBegin
        rw [bind_of_ok hBegin]
        refine restoreText_spec hText rfl rfl rfl ?_ ?_
        · rw [hSome]
        · rw [hSome, Option.getD_some]

/-- A window as it opens, on stored settings and a session that has just been opened. -/
structure Opened (environment : Environment) (settings : Settings) (session : Session)
    (window : Window) : Prop where
  settingsPath : window.settingsPath = environment.settingsPath
  session : window.session = { session with editing := resumed settings session }
  text : window.editor.buffer.text = settings.draftText
  remembers : Remembers window
  storable : settings.IsStorable →
    window.settings.IsStorable ∧ Json.IsShort window.width ∧ Json.IsShort window.height

theorem isShort_value {amount : Amount} (h : amount.toJson.IsScalar) : Json.IsShort amount.value := by
  cases amount with
  | number value =>
      cases h with
      | int h => exact h
  | flag value =>
      cases value with
      | true => exact Settings.isShort_of_lt (by decide)
      | false => exact Settings.isShort_of_lt (by decide)

theorem Restored.remembers {before after : Window} (h : Restored before after) : Remembers after := by
  refine remembers_of_noted h.waiting ?_ ?_
  · rw [h.settings, h.text]
  · rw [h.settings, h.session]

/-- Setting a window up never fails. -/
theorem setUp_spec (settings : Settings) {session : Session} (hEditing : session.editing = none) :
    ∃ window, setUp (blank environment settings session) = .ok () window ∧
      Opened environment settings session window := by
  have hDrawn : Redrawn (blank environment settings session)
      (blank environment settings session).updatePreview.refreshList :=
    (redrawn_updatePreview _).trans (redrawn_refreshList _)
  have hListed : (blank environment settings session).updatePreview.refreshList.session = session :=
    hDrawn.session
  obtain ⟨after, hRun, hRestored⟩ := restoreDraft_spec
    (show (blank environment settings session).updatePreview.refreshList.editor.buffer.text = [] by
      rw [hDrawn.editor]
      rfl) (by rw [hListed, hEditing])
  have hResumed : resumed (blank environment settings session).updatePreview.refreshList.settings
      session = resumed settings session := by
    rw [hDrawn.settings]
    rfl
  refine ⟨after.updateMode, ?_, ?_⟩
  · unfold setUp
    rw [bind_of_ok (modify_apply _ _), bind_of_ok (modify_apply _ _), bind_of_ok hRun, modify_apply]
  · refine ⟨hRestored.settingsPath.trans hDrawn.settingsPath, ?_, ?_,
      ⟨hRestored.remembers.waiting, hRestored.remembers.noted⟩, ?_⟩
    · show after.session = _
      rw [hRestored.session, hListed, hResumed]
    · show after.editor.buffer.text = settings.draftText
      rw [hRestored.text, hDrawn.settings]
      rfl
    · intro h
      refine ⟨?_, ?_, ?_⟩
      · show after.settings.IsStorable
        rw [hRestored.settings, hDrawn.settings]
        exact ⟨h.autosaveDelay, h.maxSuggestions, h.windowWidth, h.windowHeight⟩
      · show Json.IsShort after.width
        rw [hRestored.width, hDrawn.width]
        exact isShort_max isShort_leastWidth (isShort_value h.windowWidth)
      · show Json.IsShort after.height
        rw [hRestored.height, hDrawn.height]
        exact isShort_max isShort_leastHeight (isShort_value h.windowHeight)

section

variable [Runtime]

/-- A window opens on every store that can be loaded and whatever settings are found. -/
theorem openStored_of_found {host left : Host} {settings : Settings} {session : Session}
    (hSettings : Settings.found environment.settingsPath host.disk = .ok settings)
    (hStore : Session.openStore environment.scenariosPath host = (.ok session, left)) :
    ∃ window, openStored environment host = (.ok window, window.session.host) ∧
      Opened environment settings session window := by
  obtain ⟨_, hEditing, _⟩ := Session.openStore_eq_ok hStore
  obtain ⟨window, hRun, hOpened⟩ := setUp_spec settings hEditing
  refine ⟨window, ?_, hOpened⟩
  rw [openStored, Settings.load_apply, hSettings]
  dsimp only
  rw [openWith, hStore]
  dsimp only
  rw [hRun]

theorem openStored_eq_ok {host left : Host} {window : Window}
    (h : openStored environment host = (.ok window, left)) :
    ∃ settings session middle, Settings.found environment.settingsPath host.disk = .ok settings ∧
      Session.openStore environment.scenariosPath host = (.ok session, middle) ∧
      Opened environment settings session window := by
  cases hSettings : Settings.found environment.settingsPath host.disk with
  | error failure =>
      rw [openStored, Settings.load_apply, hSettings] at h
      cases h
  | ok settings =>
      cases hStore : Session.openStore environment.scenariosPath host with
      | mk result middle =>
          cases result with
          | error failure =>
              rw [openStored, Settings.load_apply, hSettings] at h
              dsimp only at h
              rw [openWith, hStore] at h
              cases h
          | ok session =>
              obtain ⟨other, hOther, hOpened⟩ := openStored_of_found hSettings hStore
              rw [hOther] at h
              cases h
              exact ⟨settings, session, middle, rfl, rfl, hOpened⟩

/-- A window that has just been opened is safe. -/
theorem safe_of_openStored {host left : Host} {window : Window}
    (h : openStored environment host = (.ok window, left)) :
    Safe environment (Store.Settled host.disk environment.scenariosPath) window := by
  obtain ⟨settings, session, middle, hSettings, hStore, hOpened⟩ := openStored_eq_ok h
  have hSession := Session.recoverable_of_openStore hStore
  obtain ⟨hPath, _⟩ := Session.openStore_eq_ok hStore
  obtain ⟨hStorable, hWidth, hHeight⟩ := hOpened.storable (Settings.isStorable_of_found hSettings)
  refine ⟨⟨hOpened.settingsPath, ?_, ?_, hStorable, hWidth, hHeight⟩, hOpened.remembers⟩
  · rw [hOpened.session]
    exact hPath
  · rw [hOpened.session]
    refine ⟨hSession.each, fun id hId => ?_, fun hAny => ⟨(hSession.backed hAny).settled,
      (hSession.backed hAny).found⟩⟩
    obtain ⟨⟨_, hMem⟩, ⟨⟩⟩ := Option.ite_none_right_eq_some.mp hId
    exact hMem

/-- What a window that was closed leaves behind. -/
theorem close_spec {window closed : Window} (h : Safe environment settled window)
    (hClose : perform .close window = .ok () closed) :
    Safe environment settled closed ∧ closed.draft.waiting = none ∧
      closed.editor.buffer.text = window.editor.buffer.text ∧
      closed.session.editing = window.session.editing ∧
      Settings.found environment.settingsPath closed.session.host.disk =
        .ok (Settings.ofJson closed.settings.stored.toJson) := by
  obtain ⟨_, flushed, hFlush, hRest⟩ := bind_eq_ok.mp hClose
  have hFlushed := flush_spec h
  rw [hFlush] at hFlushed
  have hKeeps : KeepsDraft environment settled flushed closed := by
    have hSized := (keepsDraft_size : Keeps (KeepsDraft environment settled) _) flushed
    rwa [hRest] at hSized
  have hSafe := hFlushed.safe.of_keepsDraft hKeeps
  refine ⟨hSafe, hKeeps.waiting.trans hFlushed.waiting, hKeeps.text.trans hFlushed.text,
    hKeeps.editing.trans hFlushed.editing, ?_⟩
  obtain ⟨_, sized, _, hStore⟩ := bind_eq_ok.mp hRest
  obtain ⟨host, hAfter, _, hFound⟩ := storeSettings_spec sized
  rw [hStore] at hAfter
  obtain rfl : closed = { sized with session := { sized.session with host := host } } := hAfter
  rw [← hSafe.reopenable.settingsPath]
  exact hFound _ hSafe.reopenable.settings hStore

/-- A safe window that was closed goes on in the next one. -/
theorem goes_on {closed next : Window} {again left : Host} (h : Safe environment settled closed)
    (hWaiting : closed.draft.waiting = none)
    (hSettings : Settings.found environment.settingsPath closed.session.host.disk =
      .ok (Settings.ofJson closed.settings.stored.toJson))
    (hDisk : again.disk = closed.session.host.disk)
    (hNext : openStored environment again = (.ok next, left)) :
    next.editor.buffer.text = closed.editor.buffer.text ∧
      next.session.editing = closed.session.editing := by
  obtain ⟨settings, session, middle, hFound, hStore, hOpened⟩ := openStored_eq_ok hNext
  obtain ⟨hText, hId⟩ := h.remembers.noted hWaiting
  rw [hDisk, hSettings] at hFound
  cases hFound
  refine ⟨hOpened.text.trans hText, ?_⟩
  rw [hOpened.session]
  show resumed _ session = closed.session.editing
  have hSame : (Settings.ofJson closed.settings.stored.toJson).editingId =
      closed.session.editing.getD [] := hId
  cases hEditing : closed.session.editing with
  | none =>
      rw [hEditing] at hSame
      exact if_neg fun hBoth => hBoth.1 hSame
  | some id =>
      rw [hEditing, Option.getD_some] at hSame
      have hMem := h.reopenable.session.editing id hEditing
      obtain ⟨scenario, hScenario, rfl⟩ := Collection.mem_ids_iff.mp hMem
      obtain ⟨loaded, hLoaded, hIds⟩ :=
        (h.reopenable.session.backed (.inr (List.ne_nil_of_mem hScenario))).found
      obtain ⟨_, _, hOther, _⟩ := Session.openStore_eq_ok hStore
      rw [hDisk, ← h.reopenable.store, hLoaded] at hOther
      cases hOther
      unfold resumed
      rw [hSame]
      exact if_pos ⟨(h.reopenable.session.each scenario hScenario).id, hIds hMem⟩

/-- The draft survives a restart. Open a window on what the disk holds, do anything with it, whatever is
answered to its questions and however many writes fail, but do not export onto the store's own file;
then close it. If closing succeeds and the store can be loaded, the next window opens, shows the same
text and edits the same scenario. The store can be loaded if the collection is not empty, and in any case
if the store was settled when the first window was opened. -/
theorem draft_survives_restart {environment : Environment} {host left : Host} {window : Window}
    (hOpen : openStored environment host = (.ok window, left)) {actions : List Action}
    (hActions : ∀ action ∈ actions, action.IsOrdinary environment.scenariosPath) {closed : Window}
    (hClose : perform .close (window.run actions) = .ok () closed) {again : Host}
    (hDisk : again.disk = closed.session.host.disk) :
    (∀ session middle, Session.openStore environment.scenariosPath again = (.ok session, middle) →
      ∃ next rest, openStored environment again = (.ok next, rest) ∧
        next.editor.buffer.text = (window.run actions).editor.buffer.text ∧
        next.session.editing = (window.run actions).session.editing) ∧
    (Store.Settled host.disk environment.scenariosPath ∨ closed.session.scenarios ≠ [] →
      ∃ session middle, Session.openStore environment.scenariosPath again = (.ok session, middle)) := by
  have hSafe := (safe_of_openStored hOpen).run hActions
  obtain ⟨hClosed, hWaiting, hText, hEditing, hSettings⟩ := close_spec hSafe hClose
  refine ⟨fun session middle hStore => ?_, fun hAny => ?_⟩
  · obtain ⟨next, hNext, _⟩ := openStored_of_found (by rw [hDisk, hSettings]) hStore
    obtain ⟨hSameText, hSameEditing⟩ := goes_on hClosed hWaiting hSettings hDisk hNext
    exact ⟨next, _, hNext, hSameText.trans hText, hSameEditing.trans hEditing⟩
  · obtain ⟨loaded, hLoaded, _⟩ := (hClosed.reopenable.session.backed hAny).found
    rw [← hDisk, hClosed.reopenable.store] at hLoaded
    obtain ⟨after, hLoad⟩ := Store.exists_load_eq_ok hLoaded
    exact ⟨{ store := environment.scenariosPath, scenarios := loaded, host := after }, after, by
      rw [Session.openStore, hLoad]⟩

end

/-- An environment with directories of its own below the working directory. -/
def ownDirectories : Environment where
  home := ⟨.root, ["home", "user"]⟩
  configBase := some "config"
  dataBase := some "data"

/-- A scenario is saved and edited on, and a line is typed that is not saved. -/
def unsavedLine : List Action :=
  [.edit (.type "Scenario: A"), .save, .editRow 0, .edit (.type "\nGiven b"), .elapse]

/-- What can be seen of a run from opening to closing can be seen of windows. -/
theorem exists_closed_of_view [Runtime] {environment : Environment} {host : Host} {actions : List Action} {α : Type}
    (view : Window → Window → α) {value : α}
    (h : ((openStored environment host).1.toOption.bind fun window =>
      match perform .close (window.run actions) with
      | .ok () closed => some (view (window.run actions) closed)
      | .error _ _ => none) = some value) :
    ∃ window left closed, openStored environment host = (.ok window, left) ∧
      perform .close (window.run actions) = .ok () closed ∧ view (window.run actions) closed = value := by
  cases hOpen : openStored environment host with
  | mk result left =>
      rw [hOpen] at h
      cases result with
      | error failure => cases h
      | ok window =>
          cases hClose : perform .close (window.run actions) with
          | error failure closed =>
              simp only [Except.toOption, Option.bind_some, hClose] at h
              cases h
          | ok answer closed =>
              simp only [Except.toOption, Option.bind_some, hClose] at h
              exact ⟨window, left, closed, rfl, hClose, Option.some.inj h⟩

theorem unsaved_line_survives :
    ∃ window left closed next rest, openStored ownDirectories {} = (.ok window, left) ∧
      perform .close (window.run unsavedLine) = .ok () closed ∧
      openStored ownDirectories { disk := closed.session.host.disk } = (.ok next, rest) ∧
      next.editor.buffer.text = "Scenario: A\nGiven b" ∧
      next.session.editing = some "1700000000000-1" := by
  have hView : ((openStored ownDirectories {}).1.toOption.bind fun window =>
      match perform .close (window.run unsavedLine) with
      | .ok () closed => some ((window.run unsavedLine).editor.buffer.text,
          (window.run unsavedLine).session.editing, closed.session.scenarios)
      | .error _ _ => none) =
      some (("Scenario: A\nGiven b" : Text), some ("1700000000000-1" : Text),
        [⟨"1700000000000-1", "A", "Scenario: A"⟩]) := by decide +kernel
  obtain ⟨window, left, closed, hOpen, hClose, hSeen⟩ := exists_closed_of_view
    (fun last closed => (last.editor.buffer.text, last.session.editing, closed.session.scenarios)) hView
  obtain ⟨hText, hRest⟩ := Prod.mk.inj hSeen
  obtain ⟨hEditing, hScenarios⟩ := Prod.mk.inj hRest
  have hActions : ∀ action ∈ unsavedLine, action.IsOrdinary ownDirectories.scenariosPath := by
    simp only [unsavedLine, List.forall_mem_cons]
    exact ⟨trivial, trivial, trivial, trivial, trivial, nofun⟩
  have hDisk : ({ disk := closed.session.host.disk } : Host).disk = closed.session.host.disk := rfl
  obtain ⟨hSurvives, hLoads⟩ := draft_survives_restart hOpen hActions hClose hDisk
  obtain ⟨session, middle, hStore⟩ := hLoads (.inr (by rw [hScenarios]; exact nofun))
  obtain ⟨next, rest, hNext, hSameText, hSameEditing⟩ := hSurvives session middle hStore
  exact ⟨window, left, closed, next, rest, hOpen, hClose, hNext, hSameText.trans hText,
    hSameEditing.trans hEditing⟩

/-- A directory whose name the system does not take, below one that is missing. -/
def longNamed : Environment :=
  { ownDirectories with dataBase := some (Text.join ['/'] ["x", List.replicate 256 (.char 'b')]) }

/-- Saving makes the missing directory before it is refused. From then on the store cannot be loaded, so
no window opens any more, although the settings have the text. -/
theorem no_window_behind_long_name :
    ∃ window left closed, openStored longNamed {} = (.ok window, left) ∧
      perform .close (window.run [.edit (.type "Scenario: A"), .save]) = .ok () closed ∧
      closed.settings.draftText = "Scenario: A" ∧
      ∀ again : Host, again.disk = closed.session.host.disk →
        ∀ next rest, openStored longNamed again ≠ (.ok next, rest) := by
  have hView : ((openStored longNamed {}).1.toOption.bind fun window =>
      match perform .close (window.run [.edit (.type "Scenario: A"), .save]) with
      | .ok () closed => some (closed.settings.draftText,
          (Store.found longNamed.scenariosPath closed.session.host.disk).toOption)
      | .error _ _ => none) = some (("Scenario: A" : Text), none) := by decide +kernel
  obtain ⟨window, left, closed, hOpen, hClose, hSeen⟩ := exists_closed_of_view
    (fun _ closed => (closed.settings.draftText,
      (Store.found longNamed.scenariosPath closed.session.host.disk).toOption)) hView
  obtain ⟨hText, hFound⟩ := Prod.mk.inj hSeen
  refine ⟨window, left, closed, hOpen, hClose, hText, fun again hDisk next rest hNext => ?_⟩
  obtain ⟨settings, session, middle, _, hStore, _⟩ := openStored_eq_ok hNext
  obtain ⟨_, _, hLoaded, _⟩ := Session.openStore_eq_ok hStore
  rw [hDisk] at hLoaded
  rw [hLoaded] at hFound
  cases hFound

end ScenarioDesk.Window
