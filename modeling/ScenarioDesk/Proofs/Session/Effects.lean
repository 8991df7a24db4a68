import ScenarioDesk.Proofs.Session.Consistency
import ScenarioDesk.Proofs.Session.Editing

/-! What a request that succeeds has done to the session, and what it has left alone. The scenario that is
being edited is one of the collection, so a save in the middle of editing replaces just that one; and ids that
are distinct let a deletion take away just one. -/
namespace ScenarioDesk

namespace Collection

variable {scenarios : Collection} {id title content : Text}

theorem update_of_not_mem (h : id ∉ scenarios.ids) : scenarios.update id title content = scenarios := by
  have hEach : ∀ scenario ∈ scenarios, (if scenario.id = id then
      { scenario with title := title, content := content } else scenario) = scenario := by
    intro scenario hMem
    refine if_neg fun hId => h ?_
    rw [← hId]
    exact mem_ids_iff.mpr ⟨scenario, hMem, rfl⟩
  rw [update, List.map_congr_left hEach, List.map_id']

theorem remove_of_not_mem (h : id ∉ scenarios.ids) : scenarios.remove id = scenarios := by
  refine List.filter_eq_self.mpr fun scenario hMem => decide_eq_true fun hId => h ?_
  rw [← hId]
  exact mem_ids_iff.mpr ⟨scenario, hMem, rfl⟩

/-- Where ids are distinct, an id that is there names one scenario, and there is another one neither in
front of it nor behind it. -/
theorem exists_split_of_mem_ids (hDistinct : scenarios.ids.Nodup) (h : id ∈ scenarios.ids) :
    ∃ front scenario back, scenarios = front ++ scenario :: back ∧ scenario.id = id ∧
      id ∉ ids front ∧ id ∉ ids back := by
  obtain ⟨scenario, hMem, rfl⟩ := mem_ids_iff.mp h
  obtain ⟨front, back, rfl⟩ := List.append_of_mem hMem
  rw [ids, List.map_append, List.map_cons, List.nodup_append, List.nodup_cons] at hDistinct
  obtain ⟨_, ⟨hBack, _⟩, hFront⟩ := hDistinct
  exact ⟨front, scenario, back, rfl, rfl, fun hEarlier => hFront _ hEarlier _ List.mem_cons_self rfl, hBack⟩

/-- Updating replaces one scenario in its place. -/
theorem exists_split_update (hDistinct : scenarios.ids.Nodup) (h : id ∈ scenarios.ids)
    (title content : Text) : ∃ front older back, older.id = id ∧ scenarios = front ++ older :: back ∧
      scenarios.update id title content =
        front ++ { older with title := title, content := content } :: back := by
  obtain ⟨front, older, back, rfl, rfl, hFront, hBack⟩ := exists_split_of_mem_ids hDistinct h
  refine ⟨front, older, back, rfl, rfl, ?_⟩
  have hSplit : update (front ++ older :: back) older.id title content =
      update front older.id title content ++ { older with title := title, content := content } ::
        update back older.id title content := by
    rw [update, List.map_append, List.map_cons, if_pos rfl]
    rfl
  rw [hSplit, update_of_not_mem hFront, update_of_not_mem hBack]

/-- Removing takes one scenario away and leaves the others in their order. -/
theorem exists_split_remove (hDistinct : scenarios.ids.Nodup) (h : id ∈ scenarios.ids) :
    ∃ front scenario back, scenario.id = id ∧ scenarios = front ++ scenario :: back ∧
      scenarios.remove id = front ++ back := by
  obtain ⟨front, scenario, back, rfl, rfl, hFront, hBack⟩ := exists_split_of_mem_ids hDistinct h
  refine ⟨front, scenario, back, rfl, rfl, ?_⟩
  have hSplit : remove (front ++ scenario :: back) scenario.id =
      remove front scenario.id ++ remove back scenario.id := by
    rw [remove, List.filter_append, List.filter_cons_of_neg (by simp)]
    rfl
  rw [hSplit, remove_of_not_mem hFront, remove_of_not_mem hBack]

/-- One scenario has the text in place of what it was, and keeps its id and its place. -/
def Replaces (before : Collection) (id text : Text) (next : Collection) : Prop :=
  ∃ front older back, older.id = id ∧ before = front ++ older :: back ∧
    next = front ++ ⟨older.id, Block.titleOf (Text.trim text), Text.trim text⟩ :: back

/-- One scenario with the text is new, behind all others. -/
def Appends (before : Collection) (text : Text) (next : Collection) : Prop :=
  ∃ id, next = before ++ [⟨id, Block.titleOf (Text.trim text), Text.trim text⟩]

/-- One scenario is gone, and the others have kept their order. -/
def TakesOut (before : Collection) (id : Text) (next : Collection) : Prop :=
  ∃ front scenario back, scenario.id = id ∧ before = front ++ scenario :: back ∧ next = front ++ back

/-- Saving replaces the scenario that is being edited, if it is there. -/
theorem replaces_of_save {source left : IdSource} {text : Text} {next : Collection}
    (hDistinct : scenarios.ids.Nodup) (hThere : id ∈ scenarios.ids)
    (hSave : scenarios.save source (some id) text = some (next, left)) :
    scenarios.Replaces id text next := by
  obtain ⟨edited, hFound⟩ := Option.isSome_iff_exists.mp (isSome_byId?_iff.mpr hThere)
  obtain ⟨_, hEdited⟩ := mem_of_byId? hFound
  rw [save, Option.bind_some, hFound] at hSave
  dsimp only at hSave
  split at hSave
  · cases hSave
  · obtain ⟨front, older, back, hOlder, hSplit, hUpdate⟩ :=
      exists_split_update hDistinct hThere (Block.titleOf (Text.trim text)) (Text.trim text)
    rw [hEdited, hUpdate] at hSave
    cases hSave
    exact ⟨front, older, back, hOlder, hSplit, rfl⟩

/-- Saving adds a scenario if none that is there is being edited. -/
theorem appends_of_save {source left : IdSource} {editing : Option Text} {text : Text} {next : Collection}
    (hNone : editing.bind scenarios.byId? = none)
    (hSave : scenarios.save source editing text = some (next, left)) : scenarios.Appends text next := by
  rw [save, hNone] at hSave
  dsimp only at hSave
  split at hSave
  · cases hSave
  · cases hSave
    exact ⟨_, rfl⟩

end Collection

namespace Session

variable {session next : Session} {notice : Notice}

/-- Every scenario is sound, and the one that is being edited is one of them. -/
structure Tidy (session : Session) : Prop where
  each : ∀ scenario ∈ session.scenarios, scenario.IsSound
  editing : ∀ id, session.editing = some id → id ∈ session.scenarios.ids

section

variable [Runtime]

theorem tidy_of_openStore {store : Path} {host left : Host}
    (hOpen : openStore store host = (.ok session, left)) : Tidy session := by
  obtain ⟨_, hEditing, hFound, _, _⟩ := openStore_eq_ok hOpen
  refine ⟨(Store.found_sound hFound).each, fun id hId => ?_⟩
  rw [hEditing] at hId
  cases hId

omit [Runtime] in
theorem Tidy.of_eq (h : Tidy session) (hScenarios : next.scenarios = session.scenarios)
    (hEditing : next.editing = session.editing) : Tidy next :=
  ⟨by rw [hScenarios]; exact h.each, by rw [hScenarios, hEditing]; exact h.editing⟩

/-- Every request leaves a tidy session tidy, whatever comes of it. -/
theorem Tidy.after (h : Tidy session) (request : Request) : Tidy (session.after request) := by
  have hMoves := moves_after session request
  generalize session.after request = next at hMoves
  cases hMoves with
  | untouched hSame => exact h.of_eq hSame.scenarios hSame.editing
  | edited editing hEditing hNext =>
      subst hNext
      exact ⟨h.each, hEditing⟩
  | stored hStored hEditing =>
      refine ⟨hStored.change.isSound_of_mem h.each, fun id hId => ?_⟩
      obtain ⟨hBefore, hKept⟩ := hEditing id hId
      exact hKept (h.editing id hBefore)
  | exported path _ hExported => exact h.of_eq hExported.scenarios hExported.editing

theorem Tidy.run (h : Tidy session) (requests : List Request) : Tidy (session.run requests) := by
  induction requests generalizing session with
  | nil => exact h
  | cons request requests ih => exact ih (h.after request)

theorem commit_eq_ok_none {scenarios : Collection} (h : commit scenarios session = .ok none next) :
    next.scenarios = scenarios ∧ next.editing = session.editing := by
  rw [commit_apply] at h
  cases hWrite : Disk.writeAtomically session.store (Store.render scenarios) session.host.disk with
  | ok answer disk =>
      rw [hWrite] at h
      cases h
      exact ⟨rfl, rfl⟩
  | error error disk =>
      rw [hWrite] at h
      cases error with
      | system refusal => cases h
      | nulInPath => cases h
      | unencodable fault => cases h

/-- Saving a text that is not blank takes its id and writes the collection with the text in it. -/
theorem save_apply {text : Text} {scenarios : Collection} {ids : IdSource}
    (hSave : session.scenarios.save session.host.ids session.editing text = some (scenarios, ids)) :
    save text session =
      match commit scenarios { session with host := { session.host with ids := ids } } with
      | .ok none next =>
        .ok (if session.editing.isSome then .updated else .saved) { next with editing := none }
      | .ok (some error) next => .ok (.notWritten error) next
      | .error failure next => .error failure next := by
  unfold save
  rw [bind_apply, get_apply]
  dsimp only
  rw [hSave]
  dsimp only
  rw [bind_apply, setIds_apply]
  dsimp only
  rw [bind_apply]
  cases commit scenarios { session with host := { session.host with ids := ids } } with
  | error failure next => rfl
  | ok answer next =>
      cases answer with
      | none => rfl
      | some error => rfl

/-- A save that succeeds takes over the collection with the text in it and ends the editing. -/
theorem save_eq_ok {text : Text} (h : save text session = .ok notice next)
    (hDone : notice.isError = false) :
    (∃ left, session.scenarios.save session.host.ids session.editing text = some (next.scenarios, left)) ∧
      next.editing = none ∧ notice = if session.editing.isSome then .updated else .saved := by
  cases hSave : session.scenarios.save session.host.ids session.editing text with
  | none =>
      unfold save at h
      rw [bind_apply, get_apply] at h
      dsimp only at h
      rw [hSave] at h
      cases h
      cases hDone
  | some found =>
      obtain ⟨scenarios, ids⟩ := found
      rw [save_apply hSave] at h
      cases hCommit : commit scenarios { session with host := { session.host with ids := ids } } with
      | error failure middle =>
          rw [hCommit] at h
          cases h
      | ok answer middle =>
          rw [hCommit] at h
          cases answer with
          | some error =>
              cases h
              cases hDone
          | none =>
              cases h
              obtain ⟨rfl, _⟩ := commit_eq_ok_none hCommit
              exact ⟨⟨ids, rfl⟩, rfl, rfl⟩

/-- A deletion that succeeds takes the scenarios with the id away, and the editing ends with them. -/
theorem delete_eq_ok {id : Text} (h : delete id session = .ok notice next)
    (hDone : notice.isError = false) :
    id ∈ session.scenarios.ids ∧ next.scenarios = session.scenarios.remove id ∧
      next.editing = (if session.editing = some id then none else session.editing) ∧ notice = .deleted := by
  have hEditing := editing_of_delete id session
  rw [h] at hEditing
  simp only [hDone, true_and] at hEditing
  unfold delete at h
  rw [bind_apply, get_apply] at h
  dsimp only at h
  by_cases hMissing : (session.find? id).isNone = true
  · rw [if_pos hMissing] at h
    cases h
    cases hDone
  · rw [if_neg hMissing, bind_apply] at h
    have hFound : id ∈ session.scenarios.ids := by
      rw [← Collection.isSome_byId?_iff]
      exact Option.isSome_iff_ne_none.mpr fun hNone => hMissing (Option.isNone_iff_eq_none.mpr hNone)
    refine ⟨hFound, ?_⟩
    cases hCommit : commit (session.scenarios.remove id) session with
    | error failure middle =>
        rw [hCommit] at h
        cases h
    | ok answer middle =>
        rw [hCommit] at h
        cases answer with
        | some error =>
            cases h
            cases hDone
        | none =>
            obtain ⟨hScenarios, _⟩ := commit_eq_ok_none hCommit
            dsimp only at h
            rw [bind_apply, get_apply] at h
            dsimp only at h
            by_cases hOpen : middle.editing = some id
            · rw [if_pos hOpen] at h
              cases h
              exact ⟨hScenarios, hEditing, rfl⟩
            · rw [if_neg hOpen] at h
              cases h
              exact ⟨hScenarios, hEditing, rfl⟩

/-- An import that succeeds adds scenarios at the end, and its notice counts them. -/
theorem importText_eq_ok {text : Text} (h : importText text session = .ok notice next)
    (hDone : notice.isError = false) :
    next.editing = session.editing ∧ ∃ others, next.scenarios = session.scenarios ++ others ∧
      notice = if others = [] then .nothingNew else .imported others.length := by
  have hEditing := keepsEditing_importText text session
  rw [h] at hEditing
  refine ⟨hEditing, ?_⟩
  cases hText : Text.isAllBlank text with
  | true =>
      rw [importText, if_pos hText] at h
      cases h
      cases hDone
  | false =>
      obtain ⟨others, hMerge, _⟩ := Collection.merge_spec session.scenarios session.host.ids
        (Block.ofText (Text.trim text))
      rw [importText_apply hText hMerge, List.length_append, Nat.add_sub_cancel_left] at h
      by_cases hNone : others = []
      · subst hNone
        cases h
        exact ⟨[], (List.append_nil _).symm, rfl⟩
      · refine ⟨others, ?_⟩
        rw [if_neg (mt List.length_eq_zero_iff.mp hNone)] at h
        rw [if_neg hNone]
        cases hCommit : commit (session.scenarios ++ others)
            { session with host := { session.host with ids := session.host.ids.skip others.length } } with
        | error failure middle =>
            rw [hCommit] at h
            cases h
        | ok answer middle =>
            rw [hCommit] at h
            cases answer with
            | some error =>
                cases h
                cases hDone
            | none =>
                cases h
                exact ⟨(commit_eq_ok_none hCommit).1, rfl⟩

/-- A file is imported as its text is, once it has been read. -/
theorem importFile_eq_ok {path : Path} (h : importFile path session = .ok notice next)
    (hDone : notice.isError = false) : ∃ text, importText text session = .ok notice next := by
  have hRead := readImportFile_spec path session
  obtain ⟨answer, middle, hRun, hRest⟩ := bind_eq_ok.mp h
  rw [hRun] at hRead
  cases answer with
  | ok text =>
      obtain rfl : middle = session := hRead
      exact ⟨text, hRest⟩
  | error refusal =>
      cases hRest
      rw [hRead.1] at hDone
      cases hDone

/-- Looking something up and exporting to another file leave the store's file alone, and so does beginning
or ending to edit. -/
def Request.IsAside (store : Path) : Request → Prop
  | .beginEdit _ | .cancelEdit | .find _ | .suggest _ | .vocabulary | .readImportFile _ => True
  | .exportTo path => path.place ≠ store.place
  | .save _ | .delete _ | .importText _ | .importFile _ => False

theorem after_of_isAside {request : Request} (h : request.IsAside session.store) :
    (session.after request).scenarios = session.scenarios ∧
      (session.after request).host.disk.fileAt session.store.place =
        session.host.disk.fileAt session.store.place := by
  rw [after_eq]
  cases request with
  | save text => exact h.elim
  | delete id => exact h.elim
  | importText text => exact h.elim
  | importFile path => exact h.elim
  | exportTo path =>
      have hExport := exportTo_spec path session
      rw [perform, stateAfter_map]
      cases hRun : exportTo path session with
      | error failure next =>
          rw [hRun] at hExport
          exact ⟨hExport.scenarios, hExport.grows.fileAt_eq _⟩
      | ok notice next =>
          rw [hRun] at hExport
          rcases hExport with ⟨_, hSame⟩ | ⟨_, hExported⟩
          · exact ⟨hSame.scenarios, hSame.grows.fileAt_eq _⟩
          · obtain ⟨content, hWrote⟩ := hExported.wrote
            exact ⟨hExported.scenarios, hWrote.fileAt_of_ne (Ne.symm h)⟩
  | readImportFile path =>
      have hRead := readImportFile_spec path session
      rw [perform, stateAfter_map]
      cases hRun : readImportFile path session with
      | error failure next =>
          rw [hRun] at hRead
          exact ⟨hRead.scenarios, hRead.grows.fileAt_eq _⟩
      | ok answer next =>
          rw [hRun] at hRead
          cases answer with
          | ok text =>
              obtain rfl : next = session := hRead
              exact ⟨rfl, rfl⟩
          | error notice => exact ⟨hRead.2.scenarios, hRead.2.grows.fileAt_eq _⟩
  | beginEdit id =>
      rw [perform, stateAfter_map, beginEdit_apply]
      cases session.find? id with
      | none => exact ⟨rfl, rfl⟩
      | some scenario => exact ⟨rfl, rfl⟩
  | cancelEdit => exact ⟨rfl, rfl⟩
  | find id => exact ⟨rfl, rfl⟩
  | vocabulary => exact ⟨rfl, rfl⟩
  | suggest snapshot => exact ⟨rfl, rfl⟩

/-- An import that succeeds leaves what is there and what is being edited, and its notice says how many
scenarios are new. -/
def Imported (notice : Notice) (before next : Session) : Prop :=
  next.editing = before.editing ∧ ∃ others, next.scenarios = before.scenarios ++ others ∧
    notice.message = (if others = [] then "Nothing new to import."
      else Text.ofNat others.length ++ " scenario(s) imported." : Text)

theorem imported_of_importText {text : Text} (h : importText text session = .ok notice next)
    (hDone : notice.isError = false) : Imported notice session next := by
  obtain ⟨hEditing, others, hScenarios, rfl⟩ := importText_eq_ok h hDone
  refine ⟨hEditing, others, hScenarios, ?_⟩
  split
  · rfl
  · rfl

/-- From an opened store any requests have led to a session whose ids are distinct. Then each request that
succeeds touches what it names. A save replaces the scenario that is being edited and says so, or adds one if
there is none; either way nothing is being edited any more. A deletion takes one scenario away and ends the
editing exactly if it was of that one. An import adds as many scenarios as it says, behind the old ones, and
what is being edited stays. Any other request, whether it succeeds or not, changes neither the collection nor
the store's file. -/
theorem each_request_touches_what_it_names {store : Path} {host left : Host} {session : Session}
    (hOpen : openStore store host = (.ok session, left)) (requests : List Request)
    (hDistinct : (session.run requests).scenarios.ids.Nodup) :
    let current := session.run requests
    (∀ text notice next, save text current = .ok notice next → notice.isError = false →
      next.editing = none ∧
        (∀ id, current.editing = some id → notice.message = ("Scenario updated." : Text) ∧
          current.scenarios.Replaces id text next.scenarios ∧
          next.scenarios.ids = current.scenarios.ids) ∧
        (current.editing = none → notice.message = ("Scenario saved." : Text) ∧
          current.scenarios.Appends text next.scenarios)) ∧
    (∀ id notice next, delete id current = .ok notice next → notice.isError = false →
      current.scenarios.TakesOut id next.scenarios ∧
        next.editing = if current.editing = some id then none else current.editing) ∧
    (∀ text notice next, importText text current = .ok notice next → notice.isError = false →
      Imported notice current next) ∧
    (∀ path notice next, importFile path current = .ok notice next → notice.isError = false →
      Imported notice current next) ∧
    (∀ request, request.IsAside store → (current.after request).scenarios = current.scenarios ∧
      (current.after request).host.disk.fileAt store.place = current.host.disk.fileAt store.place) := by
  intro current
  have hTidy : Tidy current := (tidy_of_openStore hOpen).run requests
  have hStore : current.store = store := by rw [store_run, (openStore_eq_ok hOpen).1]
  refine ⟨?save, ?delete, fun text notice next => imported_of_importText, ?file, ?aside⟩
  case save =>
    intro text notice next hRun hDone
    obtain ⟨⟨ids, hSave⟩, hEditing, rfl⟩ := save_eq_ok hRun hDone
    refine ⟨hEditing, fun id hId => ?_, fun hNone => ?_⟩
    · have hReplaces : current.scenarios.Replaces id text next.scenarios := by
        rw [hId] at hSave
        exact Collection.replaces_of_save hDistinct (hTidy.editing id hId) hSave
      rw [hId]
      refine ⟨rfl, hReplaces, ?_⟩
      obtain ⟨front, older, back, _, hBefore, hNext⟩ := hReplaces
      rw [hBefore, hNext, Collection.ids, Collection.ids, List.map_append, List.map_append]
      rfl
    · rw [hNone] at hSave ⊢
      exact ⟨rfl, Collection.appends_of_save rfl hSave⟩
  case delete =>
    intro id notice next hRun hDone
    obtain ⟨hThere, hScenarios, hEditing, _⟩ := delete_eq_ok hRun hDone
    obtain ⟨front, scenario, back, hId, hBefore, hRemove⟩ :=
      Collection.exists_split_remove hDistinct hThere
    exact ⟨⟨front, scenario, back, hId, hBefore, hScenarios.trans hRemove⟩, hEditing⟩
  case file =>
    intro path notice next hRun hDone
    obtain ⟨text, hText⟩ := importFile_eq_ok hRun hDone
    exact imported_of_importText hText hDone
  case aside =>
    intro request hAside
    rw [← hStore] at hAside ⊢
    exact after_of_isAside hAside

end

/-- In a store with one scenario, after another one has been saved and the first one opened, saving replaces
the first one and keeps both ids. -/
theorem loaded_scenario_is_replaced :
    ∃ session left, openStore ⟨.relative, ["scenarios.json"]⟩ storeWithOne = (.ok session, left) ∧
      ∃ notice next, save " Given x" (session.run [.save "Scenario: A", .beginEdit "a"]) =
          .ok notice next ∧
        notice.message = ("Scenario updated." : Text) ∧
        Collection.Replaces (session.run [.save "Scenario: A", .beginEdit "a"]).scenarios "a" " Given x"
          next.scenarios ∧
        next.scenarios.ids = (["a", "1700000000000-1"] : List Text) := by
  have hView : (openStore ⟨.relative, ["scenarios.json"]⟩ storeWithOne).1.toOption.map (fun session =>
      ((session.run [.save "Scenario: A", .beginEdit "a"]).scenarios.ids,
        (session.run [.save "Scenario: A", .beginEdit "a"]).editing,
        (answered? (save " Given x" (session.run [.save "Scenario: A", .beginEdit "a"]))).map
          fun found => found.1.isError)) =
      some ((["a", "1700000000000-1"] : List Text), some ("a" : Text), some false) := by decide +kernel
  obtain ⟨session, left, hOpen, hValues⟩ := exists_openStore_of_map hView
  obtain ⟨hIds, hRest⟩ := Prod.mk.inj hValues
  obtain ⟨hEditing, hAnswer⟩ := Prod.mk.inj hRest
  obtain ⟨notice, next, hRun, hDone⟩ := exists_of_answered hAnswer
  obtain ⟨hSave, _⟩ := each_request_touches_what_it_names hOpen
    [.save "Scenario: A", .beginEdit "a"] (by rw [hIds]; decide)
  obtain ⟨_, hUpdate, _⟩ := hSave " Given x" notice next hRun hDone
  obtain ⟨hMessage, hReplaces, hKept⟩ := hUpdate "a" hEditing
  exact ⟨session, left, hOpen, notice, next, hRun, hMessage, hReplaces, hKept.trans hIds⟩

end Session

end ScenarioDesk
