import ScenarioDesk.Proofs.Window.Drawing
import ScenarioDesk.Proofs.Window.Restart

/-! What is left when the settings cannot be stored. Only storing a draft takes a refusal by the disk as
something to be shown. The other actions break off where they store the settings: a scenario has been saved
or deleted by then, but not yet the list and the mode been made right, and an import has not begun. -/
namespace ScenarioDesk

/-- The rows of a collection have its ids, in order. -/
theorem ListRow.filterMap_id_ofCollection (scenarios : Collection) :
    (ofCollection scenarios).filterMap id = scenarios.ids := by
  cases scenarios with
  | nil => rfl
  | cons scenario scenarios =>
      rw [ofCollection, if_neg (List.cons_ne_nil _ _), List.filterMap_map, Collection.ids]
      exact congrFun (List.filterMap_eq_map) _

namespace Window

variable {window middle next : Window} {rest : WindowM Unit} {failure : Failure}

/-- The list and the mode label are those of the session. -/
def ShowsSession (window : Window) : Prop :=
  window.rows = ListRow.ofCollection window.session.scenarios ∧
    window.modeLabel = match window.session.editing.bind window.session.find? with
      | some scenario => "Editing: " ++ scenario.title
      | none => "New scenario"

instance (window : Window) : Decidable (ShowsSession window) := inferInstanceAs (Decidable (_ ∧ _))

/-- The session is as an operation leaves it that succeeds, but what is shown is as before, and that is not
right any more if it was. -/
structure Lags (operation : SessionM Notice) (window next : Window) : Prop where
  carriedOut : ∃ notice session, operation window.session = .ok notice session ∧ notice.isError = false ∧
    next.session.scenarios = session.scenarios ∧ next.session.editing = session.editing
  face : next.face = window.face
  stale : window.ShowsSession → ¬ next.ShowsSession

theorem modeLabel_eq_of_face (h : next.face = window.face) : next.modeLabel = window.modeLabel := by
  have hTitle : next.editedTitle = window.editedTitle := congrArg Face.editedTitle h
  rw [modeLabel, hTitle, modeLabel]

/-- The scenario that was being edited is still said to be, though none is. -/
theorem not_showsSession_of_edited (hFace : next.face = window.face) (hEditing : next.session.editing = none)
    {scenario : Scenario} (hFound : window.session.editing.bind window.session.find? = some scenario)
    (h : window.ShowsSession) : ¬ next.ShowsSession := by
  rintro ⟨_, hMode⟩
  have hBefore : window.modeLabel = "Editing: " ++ scenario.title := by rw [h.2, hFound]
  have hAfter : next.modeLabel = "New scenario" := by rw [hMode, hEditing, Option.bind_none]
  rw [modeLabel_eq_of_face hFace, hBefore] at hAfter
  have hFirst : some (CodePoint.char 'E') = some (CodePoint.char 'N') := congrArg List.head? hAfter
  cases hFirst

/-- A scenario that is new has no row. -/
theorem not_showsSession_of_appended (hFace : next.face = window.face) {scenario : Scenario}
    (hScenarios : next.session.scenarios = window.session.scenarios ++ [scenario])
    (h : window.ShowsSession) : ¬ next.ShowsSession := by
  rintro ⟨hRows, _⟩
  have hSame : next.rows = window.rows := congrArg Face.rows hFace
  rw [hSame, h.1] at hRows
  have hIds := congrArg (List.filterMap ListRow.id) hRows
  rw [ListRow.filterMap_id_ofCollection, ListRow.filterMap_id_ofCollection, hScenarios] at hIds
  have hLength := congrArg List.length hIds
  simp [Collection.ids] at hLength

/-- What comes behind an operation is only done if that has answered without an error. -/
theorem exists_answer_of_ok {operation : SessionM Notice} {following : WindowM (Option (WindowM Unit))}
    (hRun : (do
      let notice ← onSession operation
      modify (showNotice notice)
      if notice.isError then return none
      following) window = .ok (some rest) middle) :
    ∃ notice session shown, operation window.session = .ok notice session ∧ notice.isError = false ∧
      Unseen { window with session := session } shown ∧ following shown = .ok (some rest) middle := by
  rw [answer_apply] at hRun
  cases hAnswer : operation window.session with
  | error failure session =>
      rw [hAnswer] at hRun
      cases hRun
  | ok notice session =>
      rw [hAnswer] at hRun
      dsimp only at hRun
      split at hRun
      · cases hRun
      · next hDone =>
          exact ⟨notice, session, _, rfl, Bool.eq_false_iff.mpr hDone, unseen_showNotice notice _, hRun⟩

/-- Emptying the editor cannot be seen in the list or the mode. -/
theorem unseen_startAfresh (following : WindowM Unit) :
    Keeps Unseen (do clearEditor; return some following : WindowM (Option (WindowM Unit))) :=
  keeps_bind unseen_clearEditor fun _ => keeps_pure _

theorem bind_return_none_ne {operation : WindowM Unit} :
    (do operation; return none : WindowM (Option (WindowM Unit))) window ≠ .ok (some rest) middle := by
  intro h
  obtain ⟨_, _, _, hNone⟩ := bind_eq_ok.mp h
  cases hNone

section

variable [Runtime]

theorem lags_save {notice : Notice} {session : Session}
    (hSave : Session.save window.editor.buffer.text window.session = .ok notice session)
    (hDone : notice.isError = false) (hUnseen : Unseen { window with session := session } next) :
    Lags (Session.save window.editor.buffer.text) window next := by
  obtain ⟨⟨left, hScenarios⟩, hEditing, _⟩ := Session.save_eq_ok hSave hDone
  have hFace : next.face = window.face := hUnseen.face
  refine ⟨⟨notice, session, hSave, hDone, hUnseen.scenarios, hUnseen.editing⟩, hFace, fun h => ?_⟩
  cases hFound : window.session.editing.bind window.session.find? with
  | some scenario => exact not_showsSession_of_edited hFace (hUnseen.editing.trans hEditing) hFound h
  | none =>
      obtain ⟨id, hAppended⟩ := Collection.appends_of_save hFound hScenarios
      rw [← hUnseen.scenarios] at hAppended
      exact not_showsSession_of_appended hFace hAppended h

theorem lags_delete {id : Text} {notice : Notice} {session : Session}
    (hEdited : window.session.editing = some id)
    (hDelete : Session.delete id window.session = .ok notice session) (hDone : notice.isError = false)
    (hUnseen : Unseen { window with session := session } next) : Lags (Session.delete id) window next := by
  obtain ⟨hThere, _, hEditing, _⟩ := Session.delete_eq_ok hDelete hDone
  rw [if_pos hEdited] at hEditing
  have hFace : next.face = window.face := hUnseen.face
  obtain ⟨scenario, hById⟩ := Option.isSome_iff_exists.mp (Collection.isSome_byId?_iff.mpr hThere)
  have hFound : window.session.editing.bind window.session.find? = some scenario := by
    rw [hEdited]
    exact hById
  exact ⟨⟨notice, session, hDelete, hDone, hUnseen.scenarios, hUnseen.editing⟩, hFace,
    not_showsSession_of_edited hFace (hUnseen.editing.trans hEditing) hFound⟩

theorem lags_of_upToStoring_save (hRun : Action.upToStoring .save window = .ok (some rest) middle)
    (hUnseen : Unseen middle next) : Lags (Session.save window.editor.buffer.text) window next := by
  rw [Action.upToStoring, bind_of_ok (get_apply window)] at hRun
  obtain ⟨notice, session, shown, hSave, hDone, hShown, hCleared⟩ := exists_answer_of_ok hRun
  exact lags_save hSave hDone
    (Trans.trans (Trans.trans hShown ((unseen_startAfresh _).of_ok hCleared)) hUnseen)

/-- Deleting comes to storing the settings only if it deletes what is being edited. -/
theorem lags_of_upToStoring_delete {answer : Bool}
    (hRun : Action.upToStoring (.deleteCurrent answer) window = .ok (some rest) middle)
    (hUnseen : Unseen middle next) :
    ∃ id, window.session.editing = some id ∧ Lags (Session.delete id) window next := by
  rw [Action.upToStoring, bind_of_ok (get_apply window)] at hRun
  cases hRow : window.idOfRow? window.row with
  | none =>
      rw [hRow] at hRun
      cases hRun
  | some id =>
      rw [hRow] at hRun
      cases id with
      | nil => cases hRun
      | cons c others =>
          dsimp only at hRun
          rw [bind_of_ok (ask_apply _ _ answer window)] at hRun
          cases answer with
          | false => cases hRun
          | true =>
              obtain ⟨notice, session, shown, hDelete, hDone, hShown, hFollowing⟩ := exists_answer_of_ok hRun
              by_cases hEdited : window.session.editing = some (c :: others)
              · rw [if_pos hEdited] at hFollowing
                have hAsked : Unseen { window with session := session } shown :=
                  ⟨hShown.scenarios, hShown.editing, hShown.face⟩
                have hCleared := (unseen_startAfresh _).of_ok hFollowing
                exact ⟨c :: others, hEdited,
                  lags_delete hEdited hDelete hDone (Trans.trans (Trans.trans hAsked hCleared) hUnseen)⟩
              · rw [if_neg hEdited] at hFollowing
                exact absurd hFollowing bind_return_none_ne

/-- An import comes to storing the settings only for the directory of a file, before anything of the text is
imported. -/
theorem unseen_of_upToStoring_import {actions : List ImportDialog.Action} {choices : List Text}
    (hRun : Action.upToStoring (.importScenarios actions choices) window = .ok (some rest) middle) :
    Unseen window middle := by
  rw [Action.upToStoring, bind_of_ok (get_apply window)] at hRun
  obtain ⟨dialog, asked, hDialog, hRun⟩ := bind_eq_ok.mp hRun
  have hAsked := (keeps_dialog unseen_showDialog unseen_readImportFile _ actions).of_ok hDialog
  rw [bind_of_ok (modify_apply _ _)] at hRun
  split at hRun
  · cases hRun
  · cases hLoaded : dialog.loaded with
    | none =>
        rw [hLoaded] at hRun
        exact absurd hRun bind_return_none_ne
    | some path =>
        rw [hLoaded] at hRun
        cases hRun
        exact ⟨hAsked.scenarios, hAsked.editing, hAsked.face⟩

/-- Where the settings cannot be stored, for whatever reason, saving and deleting what is being edited have been
carried out, but neither of them leaves the list and the mode right; and an import has left everything as it
was. This is so in every state of the window. -/
theorem unstored_settings_break_off {action : Action}
    (hFails : window.storingFailure? action = some (failure, next)) :
    perform action window = .error failure next ∧
      (action = .save → Lags (Session.save window.editor.buffer.text) window next) ∧
      (∀ answer, action = .deleteCurrent answer →
        ∃ id, window.session.editing = some id ∧ Lags (Session.delete id) window next) ∧
      (∀ actions choices, action = .importScenarios actions choices → Unseen window next) := by
  obtain ⟨rest, middle, hRun, hStore⟩ := storingFailure?_eq_some_iff.mp hFails
  have hUnseen := unseen_storeSettings middle
  rw [hStore] at hUnseen
  refine ⟨perform_of_storingFailure hFails, ?_, ?_, ?_⟩
  · rintro rfl
    exact lags_of_upToStoring_save hRun hUnseen
  · rintro answer rfl
    exact lags_of_upToStoring_delete hRun hUnseen
  · rintro actions choices rfl
    exact Trans.trans (unseen_of_upToStoring_import hRun) hUnseen

end

/-- An empty disk that is full when a scenario has been saved and deleted. -/
def fullAfterDeletion : Host :=
  { disk := { verdicts := List.replicate 14 none ++ [some ⟨.noSpace, 0⟩] } }

/-- A scenario is saved, selected and opened again. -/
def reopened : List Action := [.edit (.type "Scenario: A"), .save, .select 0, .editRow 0]

/-- The scenario is gone, but the mode label still has its title. -/
theorem deleted_scenario_is_still_shown :
    ∃ window left next, openWith ownDirectories {} fullAfterDeletion = (.ok window, left) ∧
      perform (.deleteCurrent true) (window.run reopened) =
        .error (.disk (.system ⟨.noSpace, some "config/gherkinpad/settings.json", none⟩)) next ∧
      next.session.scenarios = [] ∧ next.modeLabel = "Editing: A" ∧ ¬ next.ShowsSession := by
  have hView : (openWith ownDirectories {} fullAfterDeletion).1.toOption.map (fun window =>
      ((window.run reopened).storingFailure? (.deleteCurrent true)).map fun (failure, next) =>
        (failure, next.session.scenarios, next.modeLabel, decide (window.run reopened).ShowsSession)) =
      some (some (.disk (.system ⟨.noSpace, some "config/gherkinpad/settings.json", none⟩), [],
        ("Editing: A" : Text), true)) := by decide +kernel
  obtain ⟨window, left, hOpen, hFailure⟩ := exists_of_opened hView
  obtain ⟨⟨failure, next⟩, hFails, hValues⟩ := Option.map_eq_some_iff.mp hFailure
  obtain ⟨rfl, hRest⟩ := Prod.mk.inj hValues
  obtain ⟨hScenarios, hRest⟩ := Prod.mk.inj hRest
  obtain ⟨hMode, hShows⟩ := Prod.mk.inj hRest
  obtain ⟨hError, _, hDelete, _⟩ := unstored_settings_break_off hFails
  obtain ⟨_, _, hLags⟩ := hDelete true rfl
  exact ⟨window, left, next, hOpen, hError, hScenarios, hMode, hLags.stale (of_decide_eq_true hShows)⟩

/-- A disk with a directory where the settings are to be stored. -/
def blockedSettings : Host :=
  { disk := { nodes := [(["config"], .directory), (["config", "gherkinpad"], .directory),
      (["config", "gherkinpad", "settings.json"], .directory)] } }

/-- The first scenario is saved, since nothing is in its way, but the list still says that there is none. -/
theorem saved_scenario_has_no_row :
    ∃ window left next, openStored ownDirectories blockedSettings = (.ok window, left) ∧
      perform .save (window.run [.edit (.type "Scenario: A")]) =
        .error (.disk (.system ⟨.isDirectory, some "config/gherkinpad/settings.json", none⟩)) next ∧
      next.session.scenarios = [⟨"1700000000000-1", "A", "Scenario: A"⟩] ∧
      next.rows = [ListRow.placeholder] := by
  have hView : (openStored ownDirectories blockedSettings).1.toOption.map (fun window =>
      ((window.run [.edit (.type "Scenario: A")]).storingFailure? .save).map fun (failure, next) =>
        (failure, next.session.scenarios, next.rows)) =
      some (some (.disk (.system ⟨.isDirectory, some "config/gherkinpad/settings.json", none⟩),
        [⟨"1700000000000-1", "A", "Scenario: A"⟩], [ListRow.placeholder])) := by
    decide +kernel
  obtain ⟨window, left, hOpen, hFailure⟩ := exists_of_opened hView
  obtain ⟨⟨failure, next⟩, hFails, hValues⟩ := Option.map_eq_some_iff.mp hFailure
  obtain ⟨rfl, hRest⟩ := Prod.mk.inj hValues
  obtain ⟨hScenarios, hRows⟩ := Prod.mk.inj hRest
  exact ⟨window, left, next, hOpen, perform_of_storingFailure hFails, hScenarios, hRows⟩

end Window

end ScenarioDesk
