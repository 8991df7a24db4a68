import ScenarioDesk.Proofs.Session.Refusals
import ScenarioDesk.Proofs.Window.Drawing
import ScenarioDesk.Proofs.Window.Restart

/-! The view mirrors the session. An action that changes the session draws anew what shows the change, but
some actions store the settings before that. As long as the settings can be stored, what is shown is right
after every action, whether the action succeeds or fails. -/
namespace ScenarioDesk.Window

variable {window next : Window}

/-- The relation of windows for `Keeps`. -/
def StaysDrawn (before next : Window) : Prop := Drawn before → Drawn next

instance : Std.Refl StaysDrawn := ⟨fun _ h => h⟩

instance : Trans StaysDrawn StaysDrawn StaysDrawn := ⟨fun hFirst hSecond h => hSecond (hFirst h)⟩

theorem staysDrawn_of_unseen {α : Type} {operation : WindowM α} (h : Keeps Unseen operation) :
    Keeps StaysDrawn operation := fun window hDrawn => hDrawn.of_unseen (h window)

theorem staysDrawn_modify {change : Window → Window} (h : ∀ window, Unseen window (change window)) :
    Keeps StaysDrawn (modify change : WindowM Unit) := staysDrawn_of_unseen (unseen_modify h)

theorem mem_ids_of_idOfRow? (h : Listed window) {row : Option Nat} {id : Text}
    (hId : window.idOfRow? row = some id) : id ∈ window.session.scenarios.ids := by
  obtain ⟨shown, hShown, hId⟩ := Option.bind_eq_some_iff.mp hId
  obtain ⟨index, _, hIndex⟩ := Option.bind_eq_some_iff.mp hShown
  have hMem : shown ∈ ListRow.ofCollection window.session.scenarios := by
    rw [← h.lists.rows]
    exact List.mem_of_getElem? hIndex
  unfold ListRow.ofCollection at hMem
  split at hMem
  · rw [List.mem_singleton.mp hMem] at hId
    cases hId
  · obtain ⟨scenario, hScenario, rfl⟩ := List.mem_map.mp hMem
    exact Collection.mem_ids_iff.mpr ⟨scenario, hScenario, Option.some.inj hId⟩

/-- The rows have the ids of scenarios, so whatever is selected is there. -/
theorem staysDrawn_select (row : Int) : Keeps StaysDrawn (select row) := by
  intro window h
  show Drawn _
  dsimp only [select, modify_apply, stateAfter]
  generalize (if 0 ≤ row ∧ row < window.rows.length then some row.toNat else none) = target
  split
  · exact h
  · have hDrawable : Drawable { window with row := target, selected := window.idOfRow? target } :=
      ⟨h.tidy, h.panel⟩
    have hNamed : Named { window with row := target, selected := window.idOfRow? target } :=
      ⟨hDrawable, h.names⟩
    exact ⟨hNamed.updatePreview, (hDrawable.listed_updatePreview h.lists.rows h.lists.count
      fun id hId => mem_ids_of_idOfRow? h.toListed hId).lists⟩

theorem Listed.withEditing (h : Listed window) {id : Text} (hFound : (window.session.find? id).isSome) :
    Listed { window with session := { window.session with editing := some id } } := by
  refine ⟨⟨⟨h.tidy.each, fun other hOther => ?_⟩, h.panel⟩, h.lists⟩
  rw [← Option.some.inj hOther]
  exact Collection.isSome_byId?_iff.mp hFound

theorem staysDrawn_beginEdit (id : Text) : Keeps StaysDrawn (do
    match ← onSession (Session.beginEdit id) with
    | none => return ()
    | some content =>
      let _ ← onEditor (.setText content)
      modify updateMode) := by
  intro window h
  have hRun := onSession_beginEdit id window
  cases hFind : window.session.find? id with
  | none =>
      rw [hFind] at hRun
      rw [bind_of_ok hRun]
      exact h
  | some scenario =>
      rw [hFind] at hRun
      have hBegun := h.toListed.withEditing (Option.isSome_of_eq_some hFind)
      obtain ⟨changed, edited, hEdit, hUnseen⟩ := exists_onEditor (.setText scenario.content)
        { window with session := { window.session with editing := some id } }
      rw [bind_of_ok hRun]
      dsimp only
      rw [bind_of_ok hEdit]
      exact (hBegun.of_unseen hUnseen).drawn_updateMode

theorem staysDrawn_editRow (row : Option Nat) : Keeps StaysDrawn (editRow row) := by
  refine keeps_bind keeps_get fun shown => ?_
  split
  · exact keeps_pure ()
  · exact keeps_pure ()
  · exact staysDrawn_beginEdit _

theorem Drawable.withSession {session : Session} (h : Drawable window) (hTidy : session.Tidy) :
    Drawable { window with session := session } := ⟨hTidy, h.panel⟩

/-- What is shown as being edited stays right as long as it is still found. -/
theorem Named.withSession {session : Session} (h : Named window) (hTidy : session.Tidy)
    (hFound : session.editing.bind session.scenarios.byId? =
      window.session.editing.bind window.session.scenarios.byId?) :
    Named { window with session := session } := by
  refine ⟨h.toDrawable.withSession hTidy, ?_⟩
  rw [Face.Names, hFound]
  exact h.names

/-- A session that failed to do something is shown as before. -/
theorem Drawn.withSession {session : Session} (h : Drawn window)
    (hSame : Session.Untouched window.session session) : Drawn { window with session := session } :=
  h.of_unseen (unseen_withSession hSame.scenarios hSame.editing)

/-- The theme does not show in the body of the preview. -/
theorem staysDrawn_setLight (light : Bool) : Keeps StaysDrawn (setLight light) := by
  refine keeps_bind keeps_get fun window => ?_
  split
  · exact keeps_pure ()
  · refine keeps_bind (staysDrawn_modify fun _ => ⟨rfl, rfl, rfl⟩) fun _ =>
      keeps_bind (staysDrawn_of_unseen unseen_storeSettings) fun _ window h => ?_
    exact Drawn.updatePreview (h.of_unseen ⟨rfl, rfl, rfl⟩)

/-- What an operation up to storing has come to is drawn, or will be when the rest is done. -/
def EndsDrawn : EStateM.Result Failure Window (Option (WindowM Unit)) → Prop
  | .ok none middle => Drawn middle
  | .ok (some rest) middle => ∀ stored, Unseen middle stored → Drawn (stateAfter (rest stored))
  | .error _ middle => Drawn middle

/-- After the editor has been emptied, the mode and the list are made right. -/
theorem endsDrawn_startAfresh (h : Drawable window) : EndsDrawn ((do
    clearEditor
    return some (do showCleared; modify refreshList)) window) := by
  obtain ⟨cleared, hClear, hCleared⟩ := exists_clearEditor window
  rw [bind_of_ok hClear]
  intro stored hStored
  have hDrawable := (h.of_unseen hCleared).of_unseen hStored
  have hMarked : Drawable { stored with draftMark := .stored } := ⟨hDrawable.tidy, hDrawable.panel⟩
  exact hMarked.named_updateMode.drawn_refreshList

/-- Only an answer that is no error asks for something to be drawn. -/
theorem endsDrawn_answer {operation : SessionM Notice} {following : WindowM (Option (WindowM Unit))}
    (h : Drawn window) (hEnds : Session.Ends window.session (operation window.session))
    (hFollowing : ∀ notice session shown, operation window.session = .ok notice session →
      notice.isError = false → Unseen { window with session := session } shown →
      EndsDrawn (following shown)) :
    EndsDrawn ((do
      let notice ← onSession operation
      modify (showNotice notice)
      if notice.isError then return none
      following) window) := by
  rw [answer_apply]
  cases hRun : operation window.session with
  | error failure session =>
      rw [hRun] at hEnds
      cases hEnds with
      | failed hSame => exact h.withSession hSame
  | ok notice session =>
      have hShown : Unseen _ (showNotice notice { window with session := session }) :=
        unseen_showNotice notice _
      dsimp only
      split
      · next hError => exact (h.withSession (hEnds.untouched hRun (.inl hError))).of_unseen hShown
      · next hDone => exact hFollowing notice session _ hRun (Bool.eq_false_iff.mpr hDone) hShown

/-- A new scenario is started where nothing is being edited any more. -/
theorem endsDrawn_cancelEdit (h : Drawn window) : EndsDrawn ((do
    onSession Session.cancelEdit
    clearEditor
    return some showCleared) window) := by
  have hListed : Listed { window with session := { window.session with editing := none } } :=
    ⟨⟨⟨h.tidy.each, nofun⟩, h.panel⟩, h.lists⟩
  obtain ⟨cleared, hClear, hCleared⟩ := exists_clearEditor
    { window with session := { window.session with editing := none } }
  have hCancel : onSession Session.cancelEdit window =
      .ok () { window with session := { window.session with editing := none } } := rfl
  rw [bind_of_ok hCancel, bind_of_ok hClear]
  intro stored hStored
  have hMarked : Listed { stored with draftMark := .stored } :=
    ((hListed.of_unseen hCleared).of_unseen hStored).of_unseen ⟨rfl, rfl, rfl⟩
  exact hMarked.drawn_updateMode

section

variable [Runtime]

/-- What is imported comes behind what is there, so what is being edited keeps its title. -/
theorem staysDrawn_importShown (text : Text) : Keeps StaysDrawn (importShown text) := by
  intro window h
  have hTidy := h.tidy.after (.importText text)
  have hPrefix := Session.prefix_after_importText window.session text
  have hEditing := Session.keepsEditing_importText text window.session
  have hEnds := Session.importText_ends text window.session
  rw [Session.after_eq, Session.perform, Session.stateAfter_map] at hTidy
  refine stateAfter_onSession_bind (fun failure session hRun => ?_) fun notice session hRun => ?_
  · rw [hRun] at hEnds
    cases hEnds with
    | failed hSame => exact h.withSession hSame
  · rw [hRun] at hTidy hPrefix hEditing
    change session.Tidy at hTidy
    change session.editing = window.session.editing at hEditing
    obtain ⟨others, hOthers⟩ := hPrefix
    change window.session.scenarios ++ others = session.scenarios at hOthers
    refine ((h.toNamed.withSession hTidy ?_).of_unseen (unseen_showNotice notice _)).drawn_refreshList
    rw [hEditing, ← hOthers]
    cases hId : window.session.editing with
    | none => rfl
    | some id => exact Collection.byId?_append_of_mem (h.tidy.editing id hId) others

/-- An action whose settings are stored leaves the window drawn. -/
theorem drawn_after {action : Action} (hStores : Stores window action)
    (h : EndsDrawn (action.upToStoring window)) : Drawn (window.after action) := by
  rw [after_eq, perform_eq_finish, finish, bind_apply]
  cases hRun : action.upToStoring window with
  | error failure middle =>
      rw [hRun] at h
      exact h
  | ok answer middle =>
      rw [hRun] at h
      cases answer with
      | none => exact h
      | some rest =>
          obtain ⟨stored, hStored⟩ := hStores.exists_stored hRun
          have hUnseen := unseen_storeSettings middle
          rw [hStored] at hUnseen
          have hRest : (do storeSettings; rest) middle = rest stored := bind_of_ok hStored
          show Drawn (stateAfter ((do storeSettings; rest) middle))
          rw [hRest]
          exact h stored hUnseen

theorem endsDrawn_save (h : Drawn window) : EndsDrawn (Action.upToStoring .save window) := by
  rw [Action.upToStoring, bind_of_ok (get_apply window)]
  refine endsDrawn_answer h (Session.save_ends _ _) fun notice session shown hRun _ hShown => ?_
  have hTidy := h.tidy.after (.save window.editor.buffer.text)
  rw [Session.after_eq, Session.perform, Session.stateAfter_map, hRun] at hTidy
  exact endsDrawn_startAfresh ((h.toDrawable.withSession hTidy).of_unseen hShown)

theorem endsDrawn_startNew (h : Drawn window) (answer : Bool) :
    EndsDrawn (Action.upToStoring (.startNew answer) window) := by
  rw [Action.upToStoring, bind_of_ok (get_apply window)]
  dsimp only
  split
  · rw [bind_of_ok (ask_apply _ _ answer window)]
    have hAsked := h.of_unseen (unseen_showDialog (.question "Discard changes"
      "Discard the text in the editor and start a new scenario?") window)
    cases answer with
    | false => exact hAsked
    | true => exact endsDrawn_cancelEdit hAsked
  · exact endsDrawn_cancelEdit h

/-- Deleting the scenario that is being edited ends that, and deleting another one leaves its title. -/
theorem endsDrawn_delete (h : Drawn window) (id : Text) (editing : Option Text)
    (hSame : editing = window.session.editing) : EndsDrawn ((do
    let notice ← onSession (Session.delete id)
    modify (showNotice notice)
    if notice.isError then return none
    if editing = some id then
      clearEditor
      return some (do showCleared; modify refreshList)
    modify refreshList
    return none) window) := by
  refine endsDrawn_answer h (Session.delete_ends _ _) fun notice session shown hRun hDone hShown => ?_
  have hTidy := h.tidy.after (.delete id)
  rw [Session.after_eq, Session.perform, Session.stateAfter_map, hRun] at hTidy
  change session.Tidy at hTidy
  obtain ⟨_, hScenarios, hEditing, _⟩ := Session.delete_eq_ok hRun hDone
  by_cases hOpen : editing = some id
  · rw [if_pos hOpen]
    exact endsDrawn_startAfresh ((h.toDrawable.withSession hTidy).of_unseen hShown)
  · rw [if_neg hOpen]
    rw [hSame] at hOpen
    rw [if_neg hOpen] at hEditing
    refine ((h.toNamed.withSession hTidy ?_).of_unseen hShown).drawn_refreshList
    rw [hEditing, hScenarios]
    cases hId : window.session.editing with
    | none => rfl
    | some other => exact Collection.byId?_remove_of_ne fun hOther => hOpen (by rw [hId, hOther])

theorem endsDrawn_deleteCurrent (h : Drawn window) (answer : Bool) :
    EndsDrawn (Action.upToStoring (.deleteCurrent answer) window) := by
  rw [Action.upToStoring, bind_of_ok (get_apply window)]
  cases window.idOfRow? window.row with
  | none => exact h
  | some id =>
      cases id with
      | nil => exact h
      | cons c rest =>
          have hAsked := h.of_unseen (unseen_showDialog (.question "Delete scenario"
            "Are you sure you want to delete this test scenario?") window)
          dsimp only
          rw [bind_of_ok (ask_apply _ _ answer window)]
          cases answer with
          | false => exact hAsked
          | true => exact endsDrawn_delete hAsked (c :: rest) window.session.editing rfl

/-- The preview is drawn when it has been switched on. -/
theorem endsDrawn_setPreview (h : Drawn window) (shown : Bool) :
    EndsDrawn (Action.upToStoring (.setPreview shown) window) := by
  rw [Action.upToStoring, bind_of_ok (get_apply window)]
  split
  · exact h
  · have hSwitched : Named { window with
        previewOn := shown, previewShown := shown,
        settings := { window.settings with previewVisible := shown } } := ⟨⟨h.tidy, rfl⟩, h.names⟩
    intro stored hStored
    have hNamed := hSwitched.of_unseen hStored
    have hListed : Listed stored.updatePreview := by
      refine hNamed.toDrawable.listed_updatePreview ?_ ?_ ?_
      · rw [hStored.scenarios]
        exact (congrArg Face.rows hStored.face).trans h.lists.rows
      · rw [hStored.scenarios]
        exact (congrArg Face.shownCount hStored.face).trans h.lists.count
      · rw [hStored.scenarios, show stored.selected = window.selected from
          congrArg Face.selected hStored.face]
        exact h.lists.selected
    exact ⟨hNamed.updatePreview, hListed.lists⟩

/-- One action, of which the settings are stored, keeps the window drawn. Only saving, starting anew, deleting
and switching the preview need that: the other ones do not change what is shown after they have stored. -/
theorem Drawn.after (h : Drawn window) {action : Action} (hStores : Stores window action) :
    Drawn (window.after action) := by
  have hKept : Keeps StaysDrawn (perform action) → Drawn (window.after action) := by
    intro hKeeps
    rw [after_eq]
    exact hKeeps window h
  cases action with
  | edit event =>
      exact hKept (keeps_bind (staysDrawn_of_unseen (unseen_onEditor event)) fun _ => keeps_pure ())
  | save => exact drawn_after hStores (endsDrawn_save h)
  | startNew answer => exact drawn_after hStores (endsDrawn_startNew h answer)
  | deleteCurrent answer => exact drawn_after hStores (endsDrawn_deleteCurrent h answer)
  | editCurrent => exact hKept (keeps_bind keeps_get fun shown => staysDrawn_editRow shown.row)
  | editRow row => exact hKept (staysDrawn_editRow (some row))
  | select row => exact hKept (staysDrawn_select row)
  | importScenarios actions choices =>
      exact hKept (keeps_importScenarios (fun dialog => staysDrawn_of_unseen (unseen_showDialog dialog))
        (fun path => staysDrawn_of_unseen (unseen_rememberDirectory path))
        (fun path => staysDrawn_of_unseen (unseen_readImportFile path)) staysDrawn_importShown actions choices)
  | exportScenarios choice => exact hKept (staysDrawn_of_unseen (unseen_exportScenarios choice))
  | elapse => exact hKept (staysDrawn_of_unseen (unseen_onDraft Draft.elapse))
  | resize width height => exact hKept (staysDrawn_modify fun _ => ⟨rfl, rfl, rfl⟩)
  | setLight light => exact hKept (staysDrawn_setLight light)
  | setPreview shown => exact drawn_after hStores (endsDrawn_setPreview h shown)
  | close => exact hKept (staysDrawn_of_unseen unseen_close)

/-- In every one of some actions the settings are stored where it comes to that. -/
def StoresThroughout : Window → List Action → Prop
  | _, [] => True
  | window, action :: actions => window.Stores action ∧ StoresThroughout (window.after action) actions

instance : (window : Window) → (actions : List Action) → Decidable (window.StoresThroughout actions)
  | _, [] => inferInstanceAs (Decidable True)
  | window, action :: actions =>
    have : Decidable ((window.after action).StoresThroughout actions) :=
      instDecidableStoresThroughout (window.after action) actions
    inferInstanceAs (Decidable (window.Stores action ∧ (window.after action).StoresThroughout actions))

theorem StoresThroughout.of_prefix {done actions : List Action} (h : window.StoresThroughout actions)
    (hPrefix : done <+: actions) : window.StoresThroughout done := by
  obtain ⟨others, rfl⟩ := hPrefix
  induction done generalizing window with
  | nil => trivial
  | cons action done ih => exact ⟨h.1, ih h.2⟩

theorem Drawn.run (h : Drawn window) {actions : List Action} (hStores : window.StoresThroughout actions) :
    Drawn (window.run actions) := by
  induction actions generalizing window with
  | nil => exact h
  | cons action actions ih => exact ih (h.after hStores.1) hStores.2

end

/-- The relation of windows for `Keeps`. -/
def StaysListed (before next : Window) : Prop := Listed before → Listed next

instance : Std.Refl StaysListed := ⟨fun _ h => h⟩

instance : Trans StaysListed StaysListed StaysListed := ⟨fun hFirst hSecond h => hSecond (hFirst h)⟩

theorem staysListed_of_unseen {α : Type} {operation : WindowM α} (h : Keeps Unseen operation) :
    Keeps StaysListed operation := fun window hListed => hListed.of_unseen (h window)

/-- Taking over a draft may begin to edit, which the list does not show. -/
theorem staysListed_restoreDraft : Keeps StaysListed restoreDraft := by
  have hBegin : ∀ id, Keeps StaysListed (onSession (Session.beginEdit id)) := by
    intro id window h
    rw [onSession_beginEdit]
    cases hFind : window.session.find? id with
    | none => exact h
    | some scenario => exact h.withEditing (Option.isSome_of_eq_some hFind)
  have hDiscard : Keeps StaysListed (onDraft Draft.discard) := staysListed_of_unseen (unseen_onDraft _)
  refine keeps_bind keeps_get fun shown => ?_
  have hText : Keeps StaysListed (do
      if shown.settings.draftText ≠ [] then
        let _ ← onEditor (.setText shown.settings.draftText)
        modify (showStatus "Unsaved draft restored" 3000)
      onDraft Draft.discard) := by
    split
    · exact keeps_bind (staysListed_of_unseen (unseen_onEditor _)) fun _ =>
        keeps_bind (staysListed_of_unseen (unseen_modify fun _ => ⟨rfl, rfl, rfl⟩)) fun _ => hDiscard
    · exact hDiscard
  dsimp only
  split
  · refine keeps_bind (hBegin _) fun found => ?_
    split
    · exact keeps_bind (staysListed_of_unseen (unseen_modify fun _ => ⟨rfl, rfl, rfl⟩)) fun _ => hText
    · exact hText
  · exact hText

/-- A window that has just been opened is drawn. -/
theorem drawn_of_openWith [Runtime] {environment : Environment} {settings : Settings} {host left : Host}
    (h : openWith environment settings host = (.ok window, left)) : Drawn window := by
  unfold openWith at h
  cases hOpen : Session.openStore environment.scenariosPath host with
  | mk result middle =>
      rw [hOpen] at h
      cases result with
      | error failure => cases h
      | ok session =>
          have hBlank : Drawable (blank environment settings session) :=
            ⟨Session.tidy_of_openStore hOpen, rfl⟩
          dsimp only at h
          cases hSetUp : setUp (blank environment settings session) with
          | error failure opened =>
              rw [hSetUp] at h
              cases h
          | ok answer opened =>
              rw [hSetUp] at h
              cases h
              rw [setUp, bind_of_ok (modify_apply _ _), bind_of_ok (modify_apply _ _)] at hSetUp
              obtain ⟨_, restored, hRestore, hMode⟩ := bind_eq_ok.mp hSetUp
              have hListed := staysListed_restoreDraft _ hBlank.updatePreview.listed_refreshList
              rw [hRestore] at hListed
              cases hMode
              exact Listed.drawn_updateMode hListed

/-- What can be read off the window is what its session says. -/
structure Mirrors (window : Window) : Prop where
  rows : window.session.scenarios ≠ [] → window.rows = window.session.scenarios.map ListRow.ofScenario
  placeholder : window.session.scenarios = [] → window.rows = [ListRow.placeholder]
  count : window.countLabel = "Scenarios: " ++ Text.ofNat window.session.scenarios.length
  selected : ∀ id, window.selected = some id → id ∈ window.session.scenarios.ids
  fresh : window.session.editing = none → window.modeLabel = "New scenario" ∧ window.saveLabel = "Save"
  edited : ∀ id, window.session.editing = some id → ∃ scenario, window.session.find? id = some scenario ∧
    window.modeLabel = "Editing: " ++ scenario.title ∧ window.saveLabel = "Update"
  preview : window.previewShown = true →
    window.preview = some (match window.selected.bind window.session.find? with
      | some scenario => Preview.body scenario.content
      | none => Preview.emptyHint)

/-- A selected scenario is there, so that its content is what the preview has. -/
theorem Drawn.preview_eq (h : Drawn window) (hShown : window.previewShown = true) :
    window.preview = some (match window.selected.bind window.session.find? with
      | some scenario => Preview.body scenario.content
      | none => Preview.emptyHint) := by
  have hOn : window.previewOn = true := h.panel.symm.trans hShown
  have hPreview : window.preview = some (Face.previewBody window.session.scenarios window.selected) :=
    h.lists.preview hOn
  rw [hPreview, Face.previewBody]
  show _ = some (match window.selected.bind window.session.scenarios.byId? with
    | some scenario => Preview.body scenario.content
    | none => Preview.emptyHint)
  cases window.selected.bind window.session.scenarios.byId? with
  | none => rfl
  | some scenario => rfl

theorem Drawn.mirrors (h : Drawn window) : Mirrors window := by
  have hRows : window.rows = ListRow.ofCollection window.session.scenarios := h.lists.rows
  have hTitle : window.editedTitle =
      (window.session.editing.bind window.session.scenarios.byId?).map Scenario.title := h.names
  constructor
  case rows =>
    intro hAny
    rw [hRows, ListRow.ofCollection, if_neg hAny]
  case placeholder =>
    intro hNone
    rw [hRows, ListRow.ofCollection, if_pos hNone]
  case count =>
    have hCount : window.shownCount = window.session.scenarios.length := h.lists.count
    rw [countLabel, hCount]
  case selected => exact h.lists.selected
  case fresh =>
    intro hNone
    rw [hNone] at hTitle
    simp [modeLabel, saveLabel, hTitle]
  case edited =>
    intro id hId
    obtain ⟨scenario, hFound⟩ := Option.isSome_iff_exists.mp
      (Collection.isSome_byId?_iff.mpr (h.tidy.editing id hId))
    rw [hId, Option.bind_some, hFound] at hTitle
    exact ⟨scenario, hFound, by simp [modeLabel, saveLabel, hTitle]⟩
  case preview => exact h.preview_eq

/-- The view mirrors the session. Open a window, with whatever settings on whatever store, and do anything
with it, whatever is answered to its questions and whether scenarios can be written or not, as long as the
settings are stored whenever it comes to that. After every action the list, the count, the selection, the
mode and the preview are those of the session. -/
theorem view_mirrors_session [Runtime] {environment : Environment} {settings : Settings} {host left : Host}
    (hOpen : openWith environment settings host = (.ok window, left)) {actions : List Action}
    (hStores : window.StoresThroughout actions) :
    ∀ done, done <+: actions → Mirrors (window.run done) := by
  intro done hPrefix
  have hOpened : Drawn window := drawn_of_openWith hOpen
  have hDone : Drawn (window.run done) := hOpened.run (hStores.of_prefix hPrefix)
  exact hDone.mirrors

/-- An empty disk on which one write step fails after a few have succeeded. -/
def failingLater : Host :=
  { disk := { verdicts := List.replicate 12 none ++ [some ⟨.deviceFailure, 0⟩] } }

/-- A scenario is saved, selected and changed, and saving the change is refused at first. -/
def changedTwice : List Action :=
  [.edit (.type "Scenario: A"), .save, .select 0, .editRow 0, .setPreview false, .edit (.setText "Scenario: B"),
    .save, .save, .setPreview true]

theorem changed_scenario_is_mirrored :
    ∃ window left, openWith ownDirectories {} failingLater = (.ok window, left) ∧
      (window.run changedTwice).selected = some "1700000000000-1" ∧
      (window.run changedTwice).session.scenarios = [⟨"1700000000000-1", "B", "Scenario: B"⟩] ∧
      (window.run changedTwice).dialogs.length = 1 ∧
      ∀ done, done <+: changedTwice → Mirrors (window.run done) := by
  have hView : (openWith ownDirectories {} failingLater).1.toOption.map (fun window =>
      ((window.run changedTwice).selected, (window.run changedTwice).session.scenarios,
        (window.run changedTwice).dialogs.length, decide (window.StoresThroughout changedTwice))) =
      some (some ("1700000000000-1" : Text), [⟨"1700000000000-1", "B", "Scenario: B"⟩], 1, true) := by
    decide +kernel
  obtain ⟨window, left, hOpen, hValues⟩ := exists_of_opened hView
  obtain ⟨hSelected, hRest⟩ := Prod.mk.inj hValues
  obtain ⟨hScenarios, hRest⟩ := Prod.mk.inj hRest
  obtain ⟨hDialogs, hStores⟩ := Prod.mk.inj hRest
  exact ⟨window, left, hOpen, hSelected, hScenarios, hDialogs,
    view_mirrors_session hOpen (of_decide_eq_true hStores)⟩

end ScenarioDesk.Window
