import ScenarioDesk.Proofs.Session.Distinctness

/-! What holds after every request of a run: the collection is sound, what is being edited is there, and
the store's file holds the collection. A write that is refused may leave directories, and these may
bring another file to light at the store's path, so the store has to be settled when it is opened. -/
namespace ScenarioDesk.Session

section

variable [Runtime]

/-- The collection is sound, what is being edited belongs to it, and loading the store as it is now
gives it back. -/
structure Consistent (session : Session) : Prop where
  sound : session.scenarios.Sound
  editing : ∀ id, session.editing = some id → id ∈ session.scenarios.ids
  stored : ∃ after, Store.load session.store session.host = .ok session.scenarios after

/-- What carries consistency through a run. -/
structure Holds (session : Session) : Prop where
  sound : session.scenarios.Sound
  editing : ∀ id, session.editing = some id → id ∈ session.scenarios.ids
  found : Store.found session.store session.host.disk = .ok session.scenarios
  settled : Store.Settled session.host.disk session.store

theorem Holds.consistent {session : Session} (h : Holds session) : Consistent session :=
  ⟨h.sound, h.editing, Store.exists_load_eq_ok h.found⟩

/-- Loading goes on finding the collection where the kinds of things and the store's file are kept. -/
theorem Holds.of_keepsKinds {session next : Session} (h : Holds session)
    (hStore : next.store = session.store) (hScenarios : next.scenarios = session.scenarios)
    (hEditing : next.editing = session.editing)
    (hKinds : session.host.disk.KeepsKinds next.host.disk)
    (hFile : next.host.disk.fileAt session.store.place =
      session.host.disk.fileAt session.store.place) : Holds next := by
  obtain ⟨hFound, hSettled⟩ := Store.found_of_keepsKinds h.settled hKinds hFile
  refine ⟨?_, ?_, ?_, ?_⟩
  · rw [hScenarios]
    exact h.sound
  · rw [hScenarios, hEditing]
    exact h.editing
  · rw [hStore, hScenarios, hFound, h.found]
  · rw [hStore]
    exact hSettled

/-- One request carries consistency on, provided that it does not export onto the store's file and
takes no id in use. -/
theorem Holds.after {session : Session} (h : Holds session) {request : Request}
    (hExport : ∀ path, request = .exportTo path → path.place ≠ session.store.place)
    (hFresh : ∀ id ∈ issued session [request], id ∉ session.scenarios.ids) :
    Holds (after session request) := by
  have hMoves := moves_after session request
  have hIssued : issued session [request] = session.host.ids.ids
      ((session.after request).host.ids.next - session.host.ids.next) := rfl
  rw [hIssued] at hFresh
  generalize session.after request = next at hMoves hFresh
  cases hMoves with
  | untouched hSame =>
      exact h.of_keepsKinds hSame.store hSame.scenarios hSame.editing hSame.grows.keepsKinds
        (hSame.grows.fileAt_eq _)
  | edited editing hEditing hNext =>
      subst hNext
      exact ⟨h.sound, hEditing, h.found, h.settled⟩
  | stored hStored hEditing =>
      obtain ⟨content, hEncode, hWrote⟩ := hStored.wrote
      have hSound := hStored.change.sound h.sound hFresh
      obtain ⟨hFound, hSettled⟩ := Store.found_of_wrote hWrote
      refine ⟨hSound, ?_, ?_, ?_⟩
      · intro id hId
        obtain ⟨hBefore, hKept⟩ := hEditing id hId
        exact hKept (h.editing id hBefore)
      · rw [hStored.store, hFound, Store.scenariosIn_render hEncode,
          Collection.kept_of_sound hSound]
      · rw [hStored.store]
        exact hSettled
  | exported path hRequest hExported =>
      obtain ⟨content, hWrote⟩ := hExported.wrote
      exact h.of_keepsKinds hExported.store hExported.scenarios hExported.editing hWrote.keepsKinds
        (hWrote.fileAt_of_ne (hExport path hRequest).symm)

/-- A run carries consistency on. The induction goes forward through the requests; ids that are taken
later are not among those that earlier requests took. -/
theorem Holds.run {session : Session} (h : Holds session) {requests : List Request}
    (hExport : ∀ path, .exportTo path ∈ requests → path.place ≠ session.store.place)
    (hFresh : ∀ id ∈ issued session requests, id ∉ session.scenarios.ids) :
    Holds (session.run requests) := by
  induction requests generalizing session with
  | nil => exact h
  | cons request requests ih =>
      have hSplit := issued_append session [request] requests
      rw [List.singleton_append] at hSplit
      rw [hSplit] at hFresh
      have hFirst : Holds (session.after request) := by
        refine h.after ?_ fun id hId => hFresh id (List.mem_append_left _ hId)
        rintro path rfl
        exact hExport path List.mem_cons_self
      refine ih hFirst ?_ ?_
      · intro path hMem
        rw [(moves_after session request).store_eq]
        exact hExport path (List.mem_cons_of_mem _ hMem)
      · intro id hId hUsed
        rcases mem_ids_after hUsed with hBefore | hTaken
        · exact hFresh id (List.mem_append_right _ hId) hBefore
        · exact not_mem_issued_of_mem_issued_run hId hTaken

/-- After every request of a run on an opened store the session is consistent: ids are distinct and not
empty, neither titles nor contents are blank, what is being edited is there, and loading the store
gives the collection. Requests may fail at any step for any reason, and the clock may show anything.
The run must not export onto the store's own file nor take the id of a loaded scenario, and the store
must be settled: if a directory is missing on the way to it, its names fit and no file lies where its
path would lead. -/
theorem consistent_after_every_request {store : Path} {host left : Host} {session : Session}
    (hOpen : openStore store host = (.ok session, left)) (hSettled : Store.Settled host.disk store)
    {requests : List Request}
    (hExport : ∀ path, .exportTo path ∈ requests → path.place ≠ store.place)
    (hFresh : ∀ id ∈ issued session requests, id ∉ session.scenarios.ids) :
    ∀ done, done <+: requests →
      (session.run done).store = store ∧ Consistent (session.run done) := by
  intro done hPrefix
  obtain ⟨hStore, hEditing, hFound, hDisk, _⟩ := openStore_eq_ok hOpen
  have hHolds : Holds session := by
    refine ⟨Store.found_sound hFound, ?_, ?_, ?_⟩
    · intro id hId
      rw [hEditing] at hId
      cases hId
    · rw [hStore, hDisk, hFound]
    · rw [hStore, hDisk]
      exact hSettled
  refine ⟨by rw [store_run, hStore], Holds.consistent (hHolds.run ?_ ?_)⟩
  · intro path hMem
    rw [hStore]
    exact hExport path (hPrefix.subset hMem)
  · exact fun id hId => hFresh id (mem_issued_mono hPrefix hId)

end

/-- A store with one scenario, whose id no run makes. -/
def storeWithOne : Host :=
  { disk := { nodes := [(["scenarios.json"], .file
      ((Utf8.encode (Store.render [⟨"a", "t", "c"⟩])).toOption.getD []))] } }

/-- The assumptions hold of a run that saves, exports to another file, and deletes what was loaded. -/
theorem consistent_on_store_with_one :
    ∃ session left, openStore ⟨.relative, ["scenarios.json"]⟩ storeWithOne = (.ok session, left) ∧
      ∀ done, done <+: [.save "Scenario: A", .beginEdit "1700000000000-1",
        .exportTo ⟨.relative, ["all.txt"]⟩, .delete "a"] →
        (session.run done).store = ⟨.relative, ["scenarios.json"]⟩ ∧
          Consistent (session.run done) := by
  have hView : (openStore ⟨.relative, ["scenarios.json"]⟩ storeWithOne).1.toOption.map
      (fun session => (session.scenarios.ids, issued session [.save "Scenario: A",
        .beginEdit "1700000000000-1", .exportTo ⟨.relative, ["all.txt"]⟩, .delete "a"])) =
      some ((["a"] : List Text), (["1700000000000-1"] : List Text)) := by decide +kernel
  obtain ⟨session, left, hOpen, hIds⟩ := exists_openStore_of_map hView
  obtain ⟨hLoaded, hIssued⟩ := Prod.mk.inj hIds
  refine ⟨session, left, hOpen, consistent_after_every_request hOpen ?_ ?_ ?_⟩
  · intro hMissing
    have hLocate : (storeWithOne.disk.locate ⟨.relative, ["scenarios.json"]⟩).toOption =
        some (["scenarios.json"] : List Text) := by decide +kernel
    rw [hMissing] at hLocate
    cases hLocate
  · intro path hMem
    have hPath : path = ⟨.relative, ["all.txt"]⟩ := by simpa using hMem
    rw [hPath]
    decide +kernel
  · rw [hLoaded, hIssued]
    decide +kernel

/-- A name that fits, but not with what the name of a scratch file adds to it. -/
def longName : Text := List.replicate 250 (.char 'b')

/-- A disk with one file, of such a name. -/
def hiddenFile : Host :=
  { disk := { nodes := [([longName], .file
      ((Utf8.encode (Store.render [⟨"a", "t", "c"⟩])).toOption.getD []))] } }

/-- A path that leads to the file once there is a directory that is missing. -/
def pathToHiddenFile : Path := ⟨.relative, ["x", Path.above, longName]⟩

/-- Saving to a store that is not settled may be refused after the missing directory has been made.
Then the collection is empty, as it was when the store was opened, but loading finds a scenario. -/
theorem hidden_file_comes_to_light :
    ∃ session left, openStore pathToHiddenFile hiddenFile = (.ok session, left) ∧
      session.scenarios = [] ∧ (session.run [.save "A"]).scenarios = [] ∧
      ¬ Consistent (session.run [.save "A"]) := by
  have hView : (openStore pathToHiddenFile hiddenFile).1.toOption.map (fun session =>
      (session.scenarios, (session.run [.save "A"]).scenarios,
        (Store.found (session.run [.save "A"]).store
          (session.run [.save "A"]).host.disk).toOption)) =
      some ([], [], some [⟨"a", "t", "c"⟩]) := by decide +kernel
  obtain ⟨session, left, hOpen, hValues⟩ := exists_openStore_of_map hView
  obtain ⟨hBefore, hRest⟩ := Prod.mk.inj hValues
  obtain ⟨hAfter, hFound⟩ := Prod.mk.inj hRest
  refine ⟨session, left, hOpen, hBefore, hAfter, fun hConsistent => ?_⟩
  obtain ⟨after, hLoad⟩ := hConsistent.stored
  rw [(Store.load_eq_ok hLoad).1, hAfter] at hFound
  cases hFound

end ScenarioDesk.Session
