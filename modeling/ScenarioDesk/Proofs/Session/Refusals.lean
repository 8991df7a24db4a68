import ScenarioDesk.Proofs.Session.Consistency

/-! Requests that are refused. Whatever the reason and however far the request got, the session and the
files are as they were. Only directories may be new, and a path may lead through them to what lay there. -/
namespace ScenarioDesk.Session

theorem map_eq_ok {α β : Type} {wrap : α → β} {operation : SessionM α} {session after : Session}
    {answer : β} (h : (wrap <$> operation) session = .ok answer after) :
    ∃ inner, operation session = .ok inner after ∧ wrap inner = answer := by
  change EStateM.map wrap operation session = _ at h
  rw [EStateM.map] at h
  cases hRun : operation session with
  | error failure middle =>
      rw [hRun] at h
      cases h
  | ok inner middle =>
      rw [hRun] at h
      cases h
      exact ⟨inner, rfl, rfl⟩

theorem Ends.untouched {session after : Session} {notice : Notice}
    {result : EStateM.Result Failure Session Notice} (h : Ends session result)
    (hResult : result = .ok notice after)
    (hNotice : notice.isError = true ∨ notice = .nothingNew) : Untouched session after := by
  cases h with
  | failed _ => cases hResult
  | refused _ h =>
      cases hResult
      exact h
  | stored hOther _ _ =>
      cases hResult
      exact absurd hNotice hOther

section

variable [Runtime]

theorem untouched_of_notice {session after : Session} {request : Request} {notice : Notice}
    (hRun : perform request session = .ok (.notice notice) after)
    (hNotice : notice.isError = true ∨ notice = .nothingNew) : Untouched session after := by
  cases request with
  | save text =>
      obtain ⟨_, hSave, ⟨⟩⟩ := map_eq_ok hRun
      exact (save_ends text session).untouched hSave hNotice
  | delete id =>
      obtain ⟨_, hDelete, ⟨⟩⟩ := map_eq_ok hRun
      exact (delete_ends id session).untouched hDelete hNotice
  | importText text =>
      obtain ⟨_, hImport, ⟨⟩⟩ := map_eq_ok hRun
      exact (importText_ends text session).untouched hImport hNotice
  | importFile path =>
      obtain ⟨_, hImport, ⟨⟩⟩ := map_eq_ok hRun
      exact (importFile_ends path session).untouched hImport hNotice
  | exportTo path =>
      obtain ⟨_, hExport, ⟨⟩⟩ := map_eq_ok hRun
      have hSpec := exportTo_spec path session
      rw [hExport] at hSpec
      rcases hSpec with ⟨_, hUntouched⟩ | ⟨rfl, _⟩
      · exact hUntouched
      · rcases hNotice with hError | hNew
        · cases hError
        · cases hNew
  | beginEdit id =>
      obtain ⟨_, _, hAnswer⟩ := map_eq_ok hRun
      cases hAnswer
  | cancelEdit => cases hRun
  | find id => cases hRun
  | readImportFile path =>
      obtain ⟨_, _, hAnswer⟩ := map_eq_ok hRun
      cases hAnswer
  | vocabulary => cases hRun
  | suggest snapshot => cases hRun

/-- A request that ends in an error notice, or finds nothing new to import, changes neither the
collection nor what is being edited, and no file: every place holds the content that it held, or none if it
held none, and every path that led to a file leads to it still. Directories may have been made, and the
request may have got as far as the very last step of the write, but no scratch file is left behind. So a
path that led to no file, the store's among them, leads to none, unless a directory was missing on it and a
file lies where it leads now. -/
theorem refused_request_changes_nothing {session after : Session} {request : Request}
    {notice : Notice} (hRun : perform request session = .ok (.notice notice) after)
    (hNotice : notice.isError = true ∨ notice = .nothingNew) :
    after.scenarios = session.scenarios ∧ after.editing = session.editing ∧
      (∀ place, after.host.disk.fileAt place = session.host.disk.fileAt place) ∧
      (∀ path content, session.host.disk.read path = .ok content →
        after.host.disk.read path = .ok content) ∧
      (∀ path, (session.host.disk.locate path = Disk.refuse .missing path →
          session.host.disk.fileAt path.place = none) →
        ∀ content, after.host.disk.read path = .ok content → session.host.disk.read path = .ok content) ∧
      (after.host.disk.scratch = session.host.disk.scratch ∨ after.host.disk.scratch = none) := by
  have hUntouched := untouched_of_notice hRun hNotice
  exact ⟨hUntouched.scenarios, hUntouched.editing, hUntouched.grows.fileAt_eq,
    fun _ _ => hUntouched.grows.read_eq, fun _ hHidden _ => hUntouched.grows.read_eq_of_not_hidden hHidden,
    hUntouched.scratch⟩

end

/-- An empty disk on which moving a scratch file will fail. -/
def failingMove : Session :=
  { store := ⟨.relative, ["scenarios.json"]⟩,
    host := { disk := { verdicts := [none, none, none, some ⟨.deviceFailure, 0⟩] } } }

/-- A save that is refused when the scratch file already holds the whole text. There is still no store. -/
theorem refused_save_changes_nothing :
    ∃ notice after, perform (.save "Scenario: A") failingMove = .ok (.notice notice) after ∧
      notice.isError = true ∧ after.scenarios = [] ∧ after.editing = none ∧
      (∀ place, after.host.disk.fileAt place = failingMove.host.disk.fileAt place) ∧
      ∀ content, after.host.disk.read failingMove.store ≠ .ok content := by
  have hView : (match perform (.save "Scenario: A") failingMove with
      | .ok (.notice notice) _ => notice.isError
      | _ => false) = true := by decide +kernel
  split at hView
  · next notice after hRun =>
      obtain ⟨hScenarios, hEditing, hFiles, _, hAbsent, _⟩ :=
        refused_request_changes_nothing hRun (.inl hView)
      refine ⟨notice, after, hRun, hView, hScenarios, hEditing, hFiles, fun content hRead => ?_⟩
      have hBefore := hAbsent failingMove.store (fun _ => rfl) content hRead
      have hNone : (failingMove.host.disk.read failingMove.store).toOption = none := by decide +kernel
      rw [hBefore] at hNone
      cases hNone
  · cases hView

/-- A save to a store whose path steps back from a missing directory to a file is refused after that
directory has been made. There was no store before, and now there is one. -/
theorem refused_save_brings_file_to_light :
    ∃ notice after content,
      perform (.save "A") { store := pathToHiddenFile, host := hiddenFile } = .ok (.notice notice) after ∧
        notice.isError = true ∧
        (∀ before, hiddenFile.disk.read pathToHiddenFile ≠ .ok before) ∧
        after.host.disk.read pathToHiddenFile = .ok content := by
  have hView : (match perform (.save "A") { store := pathToHiddenFile, host := hiddenFile } with
      | .ok (.notice notice) after =>
        notice.isError && (after.host.disk.read pathToHiddenFile).toOption.isSome
      | _ => false) = true := by decide +kernel
  have hNone : (hiddenFile.disk.read pathToHiddenFile).toOption = none := by decide +kernel
  split at hView
  · next notice after hRun =>
      obtain ⟨hError, hSome⟩ := Bool.and_eq_true_iff.mp hView
      cases hRead : after.host.disk.read pathToHiddenFile with
      | error error =>
          rw [hRead] at hSome
          cases hSome
      | ok content =>
          refine ⟨notice, after, content, hRun, hError, fun before hBefore => ?_, hRead⟩
          rw [hBefore] at hNone
          cases hNone
  · cases hView

end ScenarioDesk.Session
