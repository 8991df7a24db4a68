import ScenarioDesk.Proofs.Disk.Overwrite
import ScenarioDesk.Proofs.Session.Distinctness

/-! What another session on the same store finds. The store may lag behind the collection in no way that
loses an id, so what is being edited can be edited on. Ids need not be distinct for that: of scenarios
with one id loading drops all but the first, which leaves the id. -/
namespace ScenarioDesk.Session

variable [Runtime]

/-- Loading the store succeeds and finds every id of the collection. -/
structure Backed (session : Session) : Prop where
  settled : Store.Settled session.host.disk session.store
  found : ∃ loaded, Store.found session.store session.host.disk = .ok loaded ∧
    session.scenarios.ids ⊆ loaded.ids

/-- What lets another session go on. A store that was not settled when it was opened can only be loaded
for certain once something has been written to it, which is when the collection is not empty. -/
structure Recoverable (settled : Prop) (session : Session) : Prop where
  each : ∀ scenario ∈ session.scenarios, scenario.IsSound
  editing : ∀ id, session.editing = some id → id ∈ session.scenarios.ids
  backed : settled ∨ session.scenarios ≠ [] → Backed session

variable {settled : Prop} {session next : Session}

theorem Backed.of_keepsKinds (h : Backed session) (hStore : next.store = session.store)
    (hScenarios : next.scenarios = session.scenarios)
    (hKinds : session.host.disk.KeepsKinds next.host.disk)
    (hFile : next.host.disk.fileAt session.store.place =
      session.host.disk.fileAt session.store.place) : Backed next := by
  obtain ⟨hFound, hSettled⟩ := Store.found_of_keepsKinds h.settled hKinds hFile
  obtain ⟨loaded, hLoaded, hIds⟩ := h.found
  refine ⟨by rw [hStore]; exact hSettled, loaded, ?_, by rw [hScenarios]; exact hIds⟩
  rw [hStore, hFound, hLoaded]

theorem Backed.of_stored (hEach : ∀ scenario ∈ next.scenarios, scenario.IsSound)
    (h : Stored session next) : Backed next := by
  obtain ⟨content, hEncode, hWrote⟩ := h.wrote
  obtain ⟨hFound, hSettled⟩ := Store.found_of_wrote hWrote
  rw [Store.scenariosIn_render hEncode] at hFound
  rw [← h.store] at hFound hSettled
  exact ⟨hSettled, _, hFound, Collection.ids_subset_kept hEach⟩

/-- Nothing is lost where the collection is the same and the store's file as well. -/
theorem Recoverable.of_keepsKinds (h : Recoverable settled session) (hStore : next.store = session.store)
    (hScenarios : next.scenarios = session.scenarios) (hEditing : next.editing = session.editing)
    (hKinds : session.host.disk.KeepsKinds next.host.disk)
    (hFile : next.host.disk.fileAt session.store.place =
      session.host.disk.fileAt session.store.place) : Recoverable settled next := by
  refine ⟨by rw [hScenarios]; exact h.each, by rw [hScenarios, hEditing]; exact h.editing, ?_⟩
  rw [hScenarios]
  exact fun hAny => (h.backed hAny).of_keepsKinds hStore hScenarios hKinds hFile

/-- A request that does not export onto the store's file loses nothing, whatever comes of it. -/
theorem Recoverable.after (h : Recoverable settled session) {request : Request}
    (hExport : ∀ path, request = .exportTo path → path.place ≠ session.store.place) :
    Recoverable settled (after session request) := by
  have hMoves := moves_after session request
  generalize session.after request = next at hMoves
  cases hMoves with
  | untouched hSame =>
      exact h.of_keepsKinds hSame.store hSame.scenarios hSame.editing hSame.grows.keepsKinds
        (hSame.grows.fileAt_eq _)
  | edited editing hEditing hNext =>
      subst hNext
      exact ⟨h.each, hEditing, fun hAny => ⟨(h.backed hAny).settled, (h.backed hAny).found⟩⟩
  | stored hStored hEditing =>
      have hEach := hStored.change.isSound_of_mem h.each
      refine ⟨hEach, fun id hId => ?_, fun _ => .of_stored hEach hStored⟩
      obtain ⟨hBefore, hKept⟩ := hEditing id hId
      exact hKept (h.editing id hBefore)
  | exported path hRequest hExported =>
      obtain ⟨content, hWrote⟩ := hExported.wrote
      exact h.of_keepsKinds hExported.store hExported.scenarios hExported.editing hWrote.keepsKinds
        (hWrote.fileAt_of_ne (hExport path hRequest).symm)

/-- Overwriting another file than the store's loses nothing. -/
theorem Recoverable.of_overwritesAt (h : Recoverable settled session) {path : Path} {host : Host}
    (hPath : session.store.place ≠ path.place)
    (hDisk : Disk.OverwritesAt path session.host.disk host.disk) :
    Recoverable settled { session with host := host } :=
  h.of_keepsKinds rfl rfl rfl hDisk.keepsKinds (hDisk.others _ hPath)

/-- A session that has just been opened has taken over all that is in its store. -/
theorem recoverable_of_openStore {store : Path} {host left : Host}
    (hOpen : openStore store host = (.ok session, left)) :
    Recoverable (Store.Settled host.disk store) session := by
  obtain ⟨hStore, hEditing, hFound, hDisk, _⟩ := openStore_eq_ok hOpen
  refine ⟨(Store.found_sound hFound).each, ?_, fun hAny => ⟨?_, session.scenarios, ?_, fun _ => id⟩⟩
  · intro id hId
    rw [hEditing] at hId
    cases hId
  · rw [hStore, hDisk]
    rcases hAny with hSettled | hSome
    · exact hSettled
    · exact Store.settled_of_found hFound hSome
  · rw [hStore, hDisk, hFound]

end ScenarioDesk.Session
