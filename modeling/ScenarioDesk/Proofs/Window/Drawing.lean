import ScenarioDesk.Proofs.Session.Effects
import ScenarioDesk.Proofs.Session.Importing
import ScenarioDesk.Proofs.Window.Drafts

/-! What the window shows of its session. The list with its count and the preview are drawn anew by one
operation and the mode by another one, and each of them is right from whatever state it starts. What happens
in the editor, to the draft and to the settings cannot be seen there. -/
namespace ScenarioDesk

namespace Collection

variable {scenarios : Collection} {id other : Text}

theorem byId?_append_of_mem (hMem : id ∈ scenarios.ids) (others : Collection) :
    byId? (scenarios ++ others) id = scenarios.byId? id := by
  obtain ⟨scenario, hFound⟩ := Option.isSome_iff_exists.mp (isSome_byId?_iff.mpr hMem)
  rw [byId?, List.find?_append]
  rw [byId?] at hFound
  rw [byId?, hFound, Option.some_or]

theorem byId?_remove_of_ne (h : other ≠ id) : (scenarios.remove id).byId? other = scenarios.byId? other := by
  rw [byId?, remove, List.find?_filter, byId?]
  congr 1
  funext scenario
  by_cases hOther : scenario.id = other
  · simp [hOther, h]
  · simp [hOther]

end Collection

/-- What the window shows of its session. -/
structure Face where
  rows : List ListRow
  shownCount : Nat
  selected : Option Text
  editedTitle : Option Text
  previewOn : Bool
  previewShown : Bool
  preview : Option Text

namespace Face

/-- The body of the preview that belongs to a selection. -/
def previewBody (scenarios : Collection) (selected : Option Text) : Text :=
  Preview.body (((selected.bind scenarios.byId?).map Scenario.content).getD [])

/-- The list, the count, the selection and the preview are those of a collection. -/
structure Lists (face : Face) (scenarios : Collection) : Prop where
  rows : face.rows = ListRow.ofCollection scenarios
  count : face.shownCount = scenarios.length
  selected : ∀ id, face.selected = some id → id ∈ scenarios.ids
  preview : face.previewOn = true → face.preview = some (previewBody scenarios face.selected)

/-- The title that is shown as being edited is that of the scenario with an id. -/
def Names (face : Face) (scenarios : Collection) (editing : Option Text) : Prop :=
  face.editedTitle = (editing.bind scenarios.byId?).map Scenario.title

end Face

namespace Window

/-- What a window shows of its session. -/
def face (window : Window) : Face where
  rows := window.rows
  shownCount := window.shownCount
  selected := window.selected
  editedTitle := window.editedTitle
  previewOn := window.previewOn
  previewShown := window.previewShown
  preview := window.preview

/-- The window shows the same, and there is the same to show. -/
structure Unseen (before next : Window) : Prop where
  scenarios : next.session.scenarios = before.session.scenarios
  editing : next.session.editing = before.session.editing
  face : next.face = before.face

instance : Std.Refl Unseen := ⟨fun _ => ⟨rfl, rfl, rfl⟩⟩

instance : Trans Unseen Unseen Unseen where
  trans hFirst hSecond := ⟨hSecond.scenarios.trans hFirst.scenarios,
    hSecond.editing.trans hFirst.editing, hSecond.face.trans hFirst.face⟩

section Unseen

theorem unseen_modify {change : Window → Window} (h : ∀ window, Unseen window (change window)) :
    Keeps Unseen (modify change : WindowM Unit) := h

theorem unseen_showNotice (notice : Notice) :
    Keeps Unseen (modify (showNotice notice) : WindowM Unit) := by
  intro window
  show Unseen window (window.showNotice notice)
  unfold showNotice
  dsimp only
  split
  · exact ⟨rfl, rfl, rfl⟩
  · exact ⟨rfl, rfl, rfl⟩

theorem unseen_showDialog (dialog : Dialog) : Keeps Unseen (modify (showDialog dialog) : WindowM Unit) :=
  fun _ => ⟨rfl, rfl, rfl⟩

theorem unseen_storeSettings : Keeps Unseen storeSettings := by
  intro window
  rw [storeSettings_apply]
  cases window.settings.stored.save window.settingsPath window.session.host with
  | ok answer host => exact ⟨rfl, rfl, rfl⟩
  | error failure host => exact ⟨rfl, rfl, rfl⟩

theorem unseen_rememberDirectory (path : Path) : Keeps Unseen (rememberDirectory path) :=
  keeps_bind (unseen_modify fun _ => ⟨rfl, rfl, rfl⟩) fun _ => unseen_storeSettings

theorem unseen_storeDraft (text : Text) : Keeps Unseen (storeDraft text) := by
  refine keeps_bind (unseen_modify fun _ => ⟨rfl, rfl, rfl⟩) fun _ => keeps_tryCatch
    (keeps_bind unseen_storeSettings fun _ => unseen_modify fun _ => ⟨rfl, rfl, rfl⟩) fun failure => ?_
  split
  · exact keeps_bind (unseen_modify fun _ => ⟨rfl, rfl, rfl⟩) fun _ => unseen_modify fun _ => ⟨rfl, rfl, rfl⟩
  · exact keeps_throw failure

theorem unseen_followDraft (events : List DraftEvent) : Keeps Unseen (followDraft events) := by
  induction events with
  | nil => exact keeps_pure ()
  | cons event events ih =>
      cases event with
      | pendingChanged pending => exact keeps_bind (unseen_modify fun _ => ⟨rfl, rfl, rfl⟩) fun _ => ih
      | ready text => exact keeps_bind (unseen_storeDraft text) fun _ => ih

theorem unseen_onDraft (operation : Draft → Draft × List DraftEvent) : Keeps Unseen (onDraft operation) :=
  keeps_bind keeps_get fun _ => keeps_bind (unseen_modify fun _ => ⟨rfl, rfl, rfl⟩) fun _ =>
    unseen_followDraft _

theorem unseen_onEditor (event : Editor.Event) : Keeps Unseen (onEditor event) := by
  refine keeps_bind keeps_get fun window => ?_
  dsimp only
  generalize ({ window.editor with vocabulary := some window.session.vocabulary }.handle event) = handled
  obtain ⟨editor, changed⟩ := handled
  refine keeps_bind (unseen_modify fun _ => ⟨rfl, rfl, rfl⟩) fun _ => ?_
  split
  · exact keeps_bind (unseen_onDraft _) fun _ => keeps_bind (unseen_modify fun _ => ⟨rfl, rfl, rfl⟩) fun _ =>
      keeps_pure _
  · exact keeps_pure _

/-- The editor never fails. -/
theorem exists_onEditor (event : Editor.Event) (window : Window) :
    ∃ changed next, onEditor event window = .ok changed next ∧ Unseen window next := by
  obtain ⟨next, hRun, _, _⟩ := onEditor_spec event window
  exact ⟨_, next, hRun, (unseen_onEditor event).of_ok hRun⟩

theorem unseen_clearEditor : Keeps Unseen clearEditor :=
  keeps_bind (unseen_onEditor _) fun _ => keeps_bind (unseen_onDraft _) fun _ =>
    unseen_modify fun _ => ⟨rfl, rfl, rfl⟩

theorem exists_clearEditor (window : Window) :
    ∃ next, clearEditor window = .ok () next ∧ Unseen window next := by
  obtain ⟨changed, edited, hEdit, _⟩ := exists_onEditor (.setText []) window
  obtain ⟨modified, hDiscard⟩ := discard_spec edited
  have hUnseen := unseen_clearEditor window
  rw [clearEditor, bind_of_ok hEdit, bind_of_ok hDiscard, modify_apply] at hUnseen ⊢
  exact ⟨_, rfl, hUnseen⟩

theorem unseen_withSession {window : Window} {session : Session}
    (hScenarios : session.scenarios = window.session.scenarios)
    (hEditing : session.editing = window.session.editing) :
    Unseen window { window with session := session } := ⟨hScenarios, hEditing, rfl⟩

theorem unseen_readImportFile [Runtime] (path : Path) : Keeps Unseen (onSession (Session.readImportFile path)) := by
  intro window
  have hRead := Session.readImportFile_spec path window.session
  rw [stateAfter_onSession]
  cases hRun : Session.readImportFile path window.session with
  | error failure session =>
      rw [hRun] at hRead
      exact unseen_withSession hRead.scenarios hRead.editing
  | ok answer session =>
      rw [hRun] at hRead
      cases answer with
      | ok text =>
          obtain rfl : session = window.session := hRead
          exact unseen_withSession rfl rfl
      | error notice => exact unseen_withSession hRead.2.scenarios hRead.2.editing

theorem unseen_exportTo [Runtime] (path : Path) : Keeps Unseen (onSession (Session.exportTo path)) := by
  intro window
  have hExport := Session.exportTo_spec path window.session
  rw [stateAfter_onSession]
  cases hRun : Session.exportTo path window.session with
  | error failure session =>
      rw [hRun] at hExport
      exact unseen_withSession hExport.scenarios hExport.editing
  | ok notice session =>
      rw [hRun] at hExport
      rcases hExport with ⟨_, hSame⟩ | ⟨_, hExported⟩
      · exact unseen_withSession hSame.scenarios hSame.editing
      · exact unseen_withSession hExported.scenarios hExported.editing

theorem unseen_exportScenarios [Runtime] (choice : Text) : Keeps Unseen (exportScenarios choice) :=
  keeps_exportScenarios unseen_showDialog unseen_rememberDirectory unseen_showNotice (unseen_exportTo _)

theorem unseen_close : Keeps Unseen close :=
  keeps_bind (unseen_onDraft _) fun _ => keeps_bind (unseen_modify fun _ => ⟨rfl, rfl, rfl⟩) fun _ =>
    unseen_storeSettings

end Unseen

/-- The window can be drawn: its session is tidy, and the preview is seen exactly if it is switched on. -/
structure Drawable (window : Window) : Prop where
  tidy : window.session.Tidy
  panel : window.face.previewShown = window.face.previewOn

/-- The scenario that is being edited is shown to be, and only the list and the preview may be out of date. -/
structure Named (window : Window) : Prop extends Drawable window where
  names : window.face.Names window.session.scenarios window.session.editing

/-- The scenarios are listed, and only the mode may be out of date. -/
structure Listed (window : Window) : Prop extends Drawable window where
  lists : window.face.Lists window.session.scenarios

/-- All that is shown is right. -/
structure Drawn (window : Window) : Prop extends Named window, Listed window

variable {window next : Window}

theorem Drawable.of_unseen (h : Drawable window) (hUnseen : Unseen window next) : Drawable next := by
  refine ⟨h.tidy.of_eq hUnseen.scenarios hUnseen.editing, ?_⟩
  rw [hUnseen.face]
  exact h.panel

theorem Named.of_unseen (h : Named window) (hUnseen : Unseen window next) : Named next := by
  refine ⟨h.toDrawable.of_unseen hUnseen, ?_⟩
  rw [hUnseen.face, hUnseen.scenarios, hUnseen.editing]
  exact h.names

theorem Listed.of_unseen (h : Listed window) (hUnseen : Unseen window next) : Listed next := by
  refine ⟨h.toDrawable.of_unseen hUnseen, ?_⟩
  rw [hUnseen.face, hUnseen.scenarios]
  exact h.lists

theorem Drawn.of_unseen (h : Drawn window) (hUnseen : Unseen window next) : Drawn next :=
  ⟨h.toNamed.of_unseen hUnseen, (h.toListed.of_unseen hUnseen).lists⟩

/-- A sound collection has nothing under the empty id, so that need not be asked. -/
theorem lookup_eq_byId? {scenarios : Collection} (h : ∀ scenario ∈ scenarios, scenario.IsSound) (id : Text) :
    (if id = [] then none else scenarios.byId? id) = scenarios.byId? id := by
  split
  · next hEmpty =>
      subst hEmpty
      refine (Option.eq_none_iff_forall_ne_some.mpr fun scenario hFound => ?_).symm
      obtain ⟨hMem, hId⟩ := Collection.mem_of_byId? hFound
      exact (h scenario hMem).id hId
  · rfl

theorem selectedScenario?_eq (h : window.session.Tidy) :
    window.selectedScenario? = window.selected.bind window.session.scenarios.byId? := by
  unfold selectedScenario?
  congr 1
  funext id
  exact lookup_eq_byId? h.each id

theorem editedScenario?_eq (h : window.session.Tidy) :
    window.editedScenario? = window.session.editing.bind window.session.scenarios.byId? := by
  unfold editedScenario?
  congr 1
  funext id
  exact lookup_eq_byId? h.each id

/-- Drawing the preview makes it right and leaves the rest of what is shown. -/
theorem updatePreview_spec (h : window.session.Tidy) : ∃ preview,
    window.updatePreview = { window with preview := preview } ∧
      (window.previewOn = true →
        preview = some (Face.previewBody window.session.scenarios window.selected)) := by
  unfold updatePreview
  rw [selectedScenario?_eq h]
  split
  · exact ⟨_, rfl, fun _ => rfl⟩
  · next hOff => exact ⟨window.preview, rfl, fun hOn => absurd hOn hOff⟩

/-- A list and a selection that are right become a right view when the preview is drawn. -/
theorem Drawable.listed_updatePreview (h : Drawable window)
    (hRows : window.rows = ListRow.ofCollection window.session.scenarios)
    (hCount : window.shownCount = window.session.scenarios.length)
    (hSelected : ∀ id, window.selected = some id → id ∈ window.session.scenarios.ids) :
    Listed window.updatePreview := by
  obtain ⟨preview, hPreview, hBody⟩ := updatePreview_spec h.tidy
  rw [hPreview]
  exact ⟨⟨h.tidy, h.panel⟩, hRows, hCount, hSelected, hBody⟩

theorem Listed.updatePreview (h : Listed window) : Listed window.updatePreview :=
  h.toDrawable.listed_updatePreview h.lists.rows h.lists.count h.lists.selected

theorem Drawable.updatePreview (h : Drawable window) : Drawable window.updatePreview := by
  obtain ⟨preview, hPreview, _⟩ := updatePreview_spec h.tidy
  rw [hPreview]
  exact ⟨h.tidy, h.panel⟩

theorem Named.updatePreview (h : Named window) : Named window.updatePreview := by
  refine ⟨h.toDrawable.updatePreview, ?_⟩
  obtain ⟨preview, hPreview, _⟩ := updatePreview_spec h.tidy
  rw [hPreview]
  exact h.names

theorem Drawn.updatePreview (h : Drawn window) : Drawn window.updatePreview :=
  ⟨h.toNamed.updatePreview, h.toListed.updatePreview.lists⟩

/-- Looking for a row finds none, keeps the one it started with, or meets a scenario that is selected. -/
theorem exists_of_foldl_eq_some {selected : Option Text} {pairs : List (Scenario × Nat)} {start : Option Nat}
    {row : Nat} (h : pairs.foldl (fun found (scenario, index) =>
      if some scenario.id = selected then some index else found) start = some row) :
    start = some row ∨ ∃ pair ∈ pairs, some pair.1.id = selected := by
  induction pairs generalizing start with
  | nil => exact .inl h
  | cons pair pairs ih =>
      obtain ⟨scenario, index⟩ := pair
      by_cases hSame : some scenario.id = selected
      · exact .inr ⟨(scenario, index), List.mem_cons_self, hSame⟩
      · have hRest : pairs.foldl _ (if some scenario.id = selected then some index else start) = some row := h
        rw [if_neg hSame] at hRest
        rcases ih hRest with hStart | ⟨later, hMem, hLater⟩
        · exact .inl hStart
        · exact .inr ⟨later, List.mem_cons_of_mem _ hMem, hLater⟩

theorem exists_of_rowOfSelected {row : Nat} (h : window.rowOfSelected = some row) :
    ∃ scenario ∈ window.session.scenarios, some scenario.id = window.selected := by
  rcases exists_of_foldl_eq_some h with hNone | ⟨pair, hMem, hSame⟩
  · cases hNone
  · exact ⟨pair.1, List.fst_mem_of_mem_zipIdx hMem, hSame⟩

/-- Filling the list anew makes it right, whatever was shown before. -/
theorem Drawable.listed_refreshList (h : Drawable window) : Listed window.refreshList := by
  refine Drawable.listed_updatePreview ⟨h.tidy, h.panel⟩ rfl rfl fun id hId => ?_
  have hKept : (if window.rowOfSelected.isSome then window.selected else none) = some id := hId
  cases hRow : window.rowOfSelected with
  | none =>
      rw [hRow] at hKept
      cases hKept
  | some row =>
      rw [hRow, if_pos (by rfl)] at hKept
      obtain ⟨scenario, hMem, hSame⟩ := exists_of_rowOfSelected hRow
      rw [hKept] at hSame
      exact Collection.mem_ids_iff.mpr ⟨scenario, hMem, Option.some.inj hSame⟩

/-- It does not touch the mode. -/
theorem Named.drawn_refreshList (h : Named window) : Drawn window.refreshList := by
  refine ⟨Named.updatePreview ⟨⟨h.tidy, h.panel⟩, h.names⟩, h.toDrawable.listed_refreshList.lists⟩

/-- Showing the mode makes it right, whatever was shown before. -/
theorem Drawable.named_updateMode (h : Drawable window) : Named window.updateMode := by
  refine ⟨⟨h.tidy, h.panel⟩, ?_⟩
  show window.editedScenario?.map Scenario.title = _
  rw [editedScenario?_eq h.tidy]
  rfl

/-- It does not touch the list. -/
theorem Listed.drawn_updateMode (h : Listed window) : Drawn window.updateMode :=
  ⟨h.toDrawable.named_updateMode, h.lists.rows, h.lists.count, h.lists.selected, h.lists.preview⟩

end Window

end ScenarioDesk
