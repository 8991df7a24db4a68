import ScenarioDesk.Proofs.Store.RoundTrip
import ScenarioDesk.Session.Run

/-! What each operation of a session may do. There are few outcomes: everything is as it was but for new
directories, the collection has changed and lies changed in the store, or a file has been exported.
The statements about single steps and about whole runs are read off these. -/
namespace ScenarioDesk.Session

/-- The collection, what is being edited and every file are as they were. Ids may have been taken,
directories made, and the journal written. -/
structure Untouched (before after : Session) : Prop where
  store : after.store = before.store
  scenarios : after.scenarios = before.scenarios
  editing : after.editing = before.editing
  ids : ∃ count, after.host.ids = before.host.ids.skip count
  grows : before.host.disk.GrowsTo after.host.disk
  scratch : after.host.disk.scratch = before.host.disk.scratch ∨ after.host.disk.scratch = none

/-- The collection has changed and the store's file holds it as it is now. No other file differs. -/
structure Stored (before after : Session) : Prop where
  store : after.store = before.store
  change : Collection.Change before.scenarios before.host.ids after.scenarios after.host.ids
  wrote : ∃ content, Utf8.encode (Store.render after.scenarios) = .ok content ∧
    Disk.Wrote before.store content before.host.disk after.host.disk

/-- A file has been written at a path, and nothing else has happened. -/
structure Exported (path : Path) (before after : Session) : Prop where
  store : after.store = before.store
  scenarios : after.scenarios = before.scenarios
  editing : after.editing = before.editing
  ids : after.host.ids = before.host.ids
  wrote : ∃ content, Disk.Wrote path content before.host.disk after.host.disk

/-- Editing has gone on, or ended, but not moved to another scenario, and it goes on only if its
scenario is still there. -/
def EditingKept (before after : Session) : Prop :=
  ∀ id, after.editing = some id →
    before.editing = some id ∧ (id ∈ before.scenarios.ids → id ∈ after.scenarios.ids)

theorem Untouched.refl (session : Session) : Untouched session session :=
  ⟨rfl, rfl, rfl, ⟨0, rfl⟩, .refl _, .inl rfl⟩

/-- An operation on the collection ends in one of these ways. -/
inductive Ends (before : Session) : EStateM.Result Failure Session Notice → Prop where
  | failed {failure : Failure} {after : Session} (h : Untouched before after) :
      Ends before (.error failure after)
  | refused {notice : Notice} {after : Session}
      (hNotice : notice.isError = true ∨ notice = .nothingNew) (h : Untouched before after) :
      Ends before (.ok notice after)
  | stored {notice : Notice} {after : Session}
      (hNotice : ¬ (notice.isError = true ∨ notice = .nothingNew)) (h : Stored before after)
      (hEditing : EditingKept before after) : Ends before (.ok notice after)

theorem onHost_apply {α : Type} (operation : Host → EStateM.Result Failure Host α)
    (session : Session) :
    onHost operation session = match operation session.host with
      | .ok answer host => .ok answer { session with host := host }
      | .error failure host => .error failure { session with host := host } := rfl

theorem setIds_apply (ids : IdSource) (session : Session) :
    setIds ids session = .ok () { session with host := { session.host with ids := ids } } := rfl

variable [Runtime]

/-- Writing a collection is one atomic write of its stored form. -/
theorem commit_apply (scenarios : Collection) (session : Session) :
    commit scenarios session =
      match Disk.writeAtomically session.store (Store.render scenarios) session.host.disk with
      | .ok () disk => .ok none { session with
          scenarios := scenarios,
          host := { session.host with
            disk := disk,
            journal := session.host.journal ++ [.wrote scenarios.length session.store.text] } }
      | .error (.system error) disk => .ok (some error) { session with
          host := { session.host with
            disk := disk,
            journal := session.host.journal ++ [.savingFailed session.store.text error] } }
      | .error error disk => .error (.disk error)
          { session with host := { session.host with disk := disk } } := by
  unfold commit
  rw [bind_apply, get_apply]
  dsimp only
  rw [bind_apply, onHost_apply, Store.save_apply]
  cases Disk.writeAtomically session.store (Store.render scenarios) session.host.disk with
  | ok answer disk => rfl
  | error error disk =>
      cases error with
      | system refusal => rfl
      | nulInPath => rfl
      | unencodable fault => rfl

/-- An import of a text that is not blank takes the ids of the new scenarios, and if there are any it
writes the collection with them. -/
theorem importText_apply {text : Text} {session : Session} {scenarios : Collection} {ids : IdSource}
    (hText : Text.isAllBlank text = false)
    (hMerge : session.scenarios.merge session.host.ids (Block.ofText (Text.trim text)) = (scenarios, ids)) :
    importText text session =
      if scenarios.length - session.scenarios.length = 0 then
        .ok .nothingNew { session with host := { session.host with ids := ids } }
      else match commit scenarios { session with host := { session.host with ids := ids } } with
        | .ok none after =>
          .ok (.imported (scenarios.length - session.scenarios.length)) { after with
            host := { after.host with
              journal := after.host.journal ++ [.imported (scenarios.length - session.scenarios.length)
                (Block.ofText (Text.trim text)).length] } }
        | .ok (some error) after => .ok (.notWritten error) after
        | .error failure after => .error failure after := by
  unfold importText
  rw [if_neg (by rw [hText]; exact Bool.false_ne_true), bind_apply, get_apply]
  dsimp only
  rw [hMerge]
  dsimp only
  rw [bind_apply, setIds_apply]
  dsimp only
  split
  · rfl
  · rw [bind_apply]
    cases commit scenarios { session with host := { session.host with ids := ids } } with
    | error failure after => rfl
    | ok answer after =>
        cases answer with
        | none => rfl
        | some error => rfl

/-- Writing a changed collection either takes the change over, or leaves everything untouched but the
ids that the change took. -/
theorem commit_spec {session : Session} {scenarios : Collection} {ids : IdSource}
    (hChange : Collection.Change session.scenarios session.host.ids scenarios ids) :
    match commit scenarios { session with host := { session.host with ids := ids } } with
    | .ok none after => after.editing = session.editing ∧ after.scenarios = scenarios ∧
        Stored session after
    | .ok (some _) after => Untouched session after
    | .error _ after => Untouched session after := by
  rw [commit_apply]
  dsimp only
  cases hWrite : Disk.writeAtomically session.store (Store.render scenarios) session.host.disk with
  | ok answer disk => exact ⟨rfl, rfl, rfl, hChange, Disk.writeAtomically_ok hWrite⟩
  | error error disk =>
      obtain ⟨hGrows, hScratch⟩ := Disk.writeAtomically_error hWrite
      have hIds := hChange.left_eq
      cases error with
      | system refusal => exact ⟨rfl, rfl, rfl, ⟨_, hIds⟩, hGrows, hScratch⟩
      | nulInPath => exact ⟨rfl, rfl, rfl, ⟨_, hIds⟩, hGrows, hScratch⟩
      | unencodable fault => exact ⟨rfl, rfl, rfl, ⟨_, hIds⟩, hGrows, hScratch⟩

omit [Runtime] in
theorem editingKept_of_none {before after : Session} (h : after.editing = none) :
    EditingKept before after := by
  intro id hId
  rw [h] at hId
  cases hId

/-- An operation that writes a changed collection and reports a refusal ends as such operations do, if
it does so where the write succeeds. -/
theorem ends_of_commit {session : Session} {scenarios : Collection} {ids : IdSource}
    (hChange : Collection.Change session.scenarios session.host.ids scenarios ids)
    {next : Option SystemError → SessionM Notice}
    (hRefused : ∀ error middle, next (some error) middle = .ok (.notWritten error) middle)
    (hStored : ∀ middle : Session, middle.editing = session.editing → middle.scenarios = scenarios →
      Stored session middle → Ends session (next none middle)) :
    Ends session ((commit scenarios >>= next)
      { session with host := { session.host with ids := ids } }) := by
  have hCommit := commit_spec hChange
  rw [bind_apply]
  cases hRun : commit scenarios { session with host := { session.host with ids := ids } } with
  | error failure after =>
      rw [hRun] at hCommit
      exact .failed hCommit
  | ok answer after =>
      rw [hRun] at hCommit
      cases answer with
      | some error =>
          dsimp only
          rw [hRefused]
          exact .refused (.inl rfl) hCommit
      | none =>
          obtain ⟨hEditing, hScenarios, hSession⟩ := hCommit
          exact hStored after hEditing hScenarios hSession

theorem save_ends (text : Text) (session : Session) : Ends session (save text session) := by
  unfold save
  rw [bind_apply, get_apply]
  dsimp only
  cases hSave : session.scenarios.save session.host.ids session.editing text with
  | none => exact .refused (.inl rfl) (.refl session)
  | some found =>
      obtain ⟨scenarios, ids⟩ := found
      dsimp only
      rw [bind_apply, setIds_apply]
      apply ends_of_commit (Collection.save_spec hSave)
      · intro error middle
        rfl
      · intro middle _ _ hStored
        refine .stored ?_ ⟨hStored.store, hStored.change, hStored.wrote⟩ (editingKept_of_none rfl)
        cases session.editing.isSome with
        | true => decide
        | false => decide

theorem delete_ends (id : Text) (session : Session) : Ends session (delete id session) := by
  unfold delete
  rw [bind_apply, get_apply]
  dsimp only
  by_cases hFound : (session.find? id).isNone = true
  · rw [if_pos hFound]
    exact .refused (.inl rfl) (.refl session)
  · rw [if_neg hFound]
    apply ends_of_commit (@Collection.Change.removed session.scenarios session.host.ids id)
    · intro error middle
      rfl
    · intro middle hSame hScenarios hStored
      dsimp only
      rw [bind_apply, get_apply]
      dsimp only
      by_cases hEditing : middle.editing = some id
      · rw [if_pos hEditing]
        exact .stored (by decide) ⟨hStored.store, hStored.change, hStored.wrote⟩
          (editingKept_of_none rfl)
      · rw [if_neg hEditing]
        refine .stored (by decide) ⟨hStored.store, hStored.change, hStored.wrote⟩ ?_
        intro other hOther
        have hOther : middle.editing = some other := hOther
        refine ⟨hSame.symm.trans hOther, fun hMem => ?_⟩
        show other ∈ middle.scenarios.ids
        rw [hScenarios, Collection.mem_ids_remove]
        refine ⟨hMem, ?_⟩
        rintro rfl
        exact hEditing hOther

theorem importText_ends (text : Text) (session : Session) :
    Ends session (importText text session) := by
  unfold importText
  by_cases hBlank : Text.isAllBlank text = true
  · rw [if_pos hBlank]
    exact .refused (.inl rfl) (.refl session)
  · rw [if_neg hBlank]
    have hChange := Collection.change_merge session.scenarios session.host.ids (Text.trim text)
    have hPrefix := Collection.prefix_merge session.scenarios session.host.ids
      (Block.ofText (Text.trim text))
    rw [bind_apply, get_apply]
    dsimp only
    cases hMerge : session.scenarios.merge session.host.ids (Block.ofText (Text.trim text)) with
    | mk scenarios ids =>
        rw [hMerge] at hChange hPrefix
        dsimp only
        rw [bind_apply, setIds_apply]
        dsimp only
        by_cases hNew : scenarios.length - session.scenarios.length = 0
        · rw [if_pos hNew]
          exact .refused (.inr rfl) ⟨rfl, rfl, rfl, ⟨_, hChange.left_eq⟩, .refl _, .inl rfl⟩
        · rw [if_neg hNew]
          apply ends_of_commit hChange
          · intro error middle
            rfl
          · intro middle hSame hScenarios hStored
            refine .stored (by simp [Notice.isError])
              ⟨hStored.store, hStored.change, hStored.wrote⟩ ?_
            intro other hOther
            refine ⟨hSame.symm.trans hOther, fun hMem => ?_⟩
            show other ∈ middle.scenarios.ids
            rw [hScenarios]
            exact (hPrefix.map Scenario.id).subset hMem

omit [Runtime] in
/-- A disk operation of a session. Only a refusal by the system is an answer. -/
theorem attempt_apply {α : Type} (operation : DiskM α) (session : Session) :
    attempt operation session = match operation session.host.disk with
      | .ok answer disk =>
        .ok (.ok answer) { session with host := { session.host with disk := disk } }
      | .error (.system error) disk =>
        .ok (.error error) { session with host := { session.host with disk := disk } }
      | .error error disk =>
        .error (.disk error) { session with host := { session.host with disk := disk } } := by
  have hHost : onHost (Host.attempt operation) session =
      match Host.attempt operation session.host with
      | .ok answer host => .ok answer { session with host := host }
      | .error failure host => .error failure { session with host := host } := rfl
  rw [Host.attempt_apply] at hHost
  unfold attempt
  rw [bind_apply, hHost]
  cases operation session.host.disk with
  | ok answer disk => rfl
  | error error disk =>
      cases error with
      | system refusal => rfl
      | nulInPath => rfl
      | unencodable fault => rfl

/-- Reading a file changes at most the journal, and what it answers instead of a text is an error. -/
theorem readImportFile_spec (path : Path) (session : Session) :
    match readImportFile path session with
    | .ok (.ok _) after => after = session
    | .ok (.error notice) after => notice.isError = true ∧ Untouched session after
    | .error _ after => Untouched session after := by
  unfold readImportFile
  by_cases hKind : (!FileKind.isPlainText path) = true
  · rw [if_pos hKind]
    exact ⟨rfl, .refl session⟩
  · rw [if_neg hKind, bind_apply, attempt_apply, Disk.query_apply]
    cases session.host.disk.read path with
    | ok content => rfl
    | error error =>
        cases error with
        | system refusal => exact ⟨rfl, rfl, rfl, rfl, ⟨0, rfl⟩, .refl _, .inl rfl⟩
        | nulInPath => exact .refl session
        | unencodable fault => exact .refl session

theorem importFile_ends (path : Path) (session : Session) :
    Ends session (importFile path session) := by
  have hRead := readImportFile_spec path session
  unfold importFile
  rw [bind_apply]
  cases hRun : readImportFile path session with
  | error failure after =>
      rw [hRun] at hRead
      exact .failed hRead
  | ok answer after =>
      rw [hRun] at hRead
      cases answer with
      | ok text =>
          obtain rfl : after = session := hRead
          exact importText_ends text after
      | error notice => exact .refused (.inl hRead.1) hRead.2

/-- An export of scenarios is one atomic write of their text. -/
theorem exportTo_apply {path : Path} {session : Session} (h : session.scenarios ≠ []) :
    exportTo path session =
      match Disk.writeAtomically path session.scenarios.exportText session.host.disk with
      | .ok () disk =>
        .ok (.exported path.name) { session with host := { session.host with disk := disk } }
      | .error (.system error) disk => .ok (.notExported error) { session with
          host := { session.host with
            disk := disk,
            journal := session.host.journal ++ [.exportFailed path.text error] } }
      | .error error disk => .error (.disk error)
          { session with host := { session.host with disk := disk } } := by
  unfold exportTo
  rw [bind_apply, get_apply]
  dsimp only
  rw [if_neg h, bind_apply, attempt_apply]
  cases Disk.writeAtomically path session.scenarios.exportText session.host.disk with
  | ok answer disk => rfl
  | error error disk =>
      cases error with
      | system refusal => rfl
      | nulInPath => rfl
      | unencodable fault => rfl

theorem exportTo_spec (path : Path) (session : Session) :
    match exportTo path session with
    | .ok notice after => notice.isError = true ∧ Untouched session after ∨
        notice = .exported path.name ∧ Exported path session after
    | .error _ after => Untouched session after := by
  by_cases hEmpty : session.scenarios = []
  · unfold exportTo
    rw [bind_apply, get_apply]
    dsimp only
    rw [if_pos hEmpty]
    exact .inl ⟨rfl, .refl session⟩
  · rw [exportTo_apply hEmpty]
    cases hWrite : Disk.writeAtomically path session.scenarios.exportText session.host.disk with
    | ok answer disk =>
        obtain ⟨content, _, hWrote⟩ := Disk.writeAtomically_ok hWrite
        exact .inr ⟨rfl, rfl, rfl, rfl, rfl, content, hWrote⟩
    | error error disk =>
        obtain ⟨hGrows, hScratch⟩ := Disk.writeAtomically_error hWrite
        cases error with
        | system refusal => exact .inl ⟨rfl, rfl, rfl, rfl, ⟨0, rfl⟩, hGrows, hScratch⟩
        | nulInPath => exact ⟨rfl, rfl, rfl, ⟨0, rfl⟩, hGrows, hScratch⟩
        | unencodable fault => exact ⟨rfl, rfl, rfl, ⟨0, rfl⟩, hGrows, hScratch⟩

/-- What a request may make of a session. -/
inductive Moves (before : Session) (request : Request) : Session → Prop where
  | untouched {after : Session} (h : Untouched before after) : Moves before request after
  | edited {after : Session} (editing : Option Text)
      (hEditing : ∀ id, editing = some id → id ∈ before.scenarios.ids)
      (h : after = { before with editing := editing }) : Moves before request after
  | stored {after : Session} (h : Stored before after) (hEditing : EditingKept before after) :
      Moves before request after
  | exported {after : Session} (path : Path) (hRequest : request = .exportTo path)
      (h : Exported path before after) : Moves before request after

omit [Runtime] in
theorem stateAfter_map {α β : Type} (wrap : α → β) (operation : SessionM α) (session : Session) :
    stateAfter ((wrap <$> operation) session) = stateAfter (operation session) := by
  show stateAfter (EStateM.map wrap operation session) = _
  rw [EStateM.map]
  cases operation session with
  | ok answer after => rfl
  | error failure after => rfl

omit [Runtime] in
theorem Ends.moves {before : Session} {request : Request}
    {result : EStateM.Result Failure Session Notice} (h : Ends before result) :
    Moves before request (stateAfter result) := by
  cases h with
  | failed h => exact .untouched h
  | refused _ h => exact .untouched h
  | stored _ h hEditing => exact .stored h hEditing

theorem after_eq (session : Session) (request : Request) :
    after session request = stateAfter (perform request session) := by
  unfold after
  cases perform request session with
  | ok answer next => rfl
  | error failure next => rfl

/-- Every request moves the session in one of these ways, whether it is answered or fails. -/
theorem moves_after (session : Session) (request : Request) :
    Moves session request (after session request) := by
  rw [after_eq]
  cases request with
  | save text =>
      rw [perform, stateAfter_map]
      exact (save_ends text session).moves
  | delete id =>
      rw [perform, stateAfter_map]
      exact (delete_ends id session).moves
  | importText text =>
      rw [perform, stateAfter_map]
      exact (importText_ends text session).moves
  | importFile path =>
      rw [perform, stateAfter_map]
      exact (importFile_ends path session).moves
  | exportTo path =>
      rw [perform, stateAfter_map]
      have hSpec := exportTo_spec path session
      cases hRun : exportTo path session with
      | error failure next =>
          rw [hRun] at hSpec
          exact .untouched hSpec
      | ok notice next =>
          rw [hRun] at hSpec
          rcases hSpec with ⟨_, hUntouched⟩ | ⟨_, hExported⟩
          · exact .untouched hUntouched
          · exact .exported path rfl hExported
  | beginEdit id =>
      rw [perform, stateAfter_map, beginEdit, bind_apply, get_apply]
      dsimp only
      cases hFind : session.find? id with
      | none => exact .untouched (.refl session)
      | some scenario =>
          refine .edited (some scenario.id) ?_ rfl
          rintro _ ⟨⟩
          exact Collection.mem_ids_iff.mpr ⟨scenario, (Collection.mem_of_byId? hFind).1, rfl⟩
  | cancelEdit => exact .edited none nofun rfl
  | readImportFile path =>
      rw [perform, stateAfter_map]
      have hSpec := readImportFile_spec path session
      cases hRun : readImportFile path session with
      | error failure next =>
          rw [hRun] at hSpec
          exact .untouched hSpec
      | ok answer next =>
          rw [hRun] at hSpec
          cases answer with
          | ok text =>
              obtain rfl : next = session := hSpec
              exact .untouched (.refl next)
          | error notice => exact .untouched hSpec.2
  | find id => exact .untouched (.refl session)
  | vocabulary => exact .untouched (.refl session)
  | suggest snapshot => exact .untouched (.refl session)

end ScenarioDesk.Session
