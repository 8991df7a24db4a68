import ScenarioDesk.Proofs.Scenario.Canonical
import ScenarioDesk.Proofs.Session.Effects
import ScenarioDesk.Proofs.Session.Importing

/-! Canonical scenarios through the life of a store, from the first session on it to the last. A store that
begins with nothing only ever holds what sessions wrote to it, so opening it again brings nothing else in.
The one way around this is a file that lies where the store's path does not lead yet. -/
namespace ScenarioDesk

/-- A sound collection of canonical scenarios, all under some ids that were taken. -/
structure Collection.GrownUnder (taken : List Text) (scenarios : Collection) : Prop where
  sound : scenarios.Sound
  canonical : scenarios.Canonical
  known : scenarios.ids ⊆ taken

namespace Collection

variable {taken more : List Text} {scenarios : Collection}

theorem grownUnder_nil (taken : List Text) : GrownUnder taken [] :=
  ⟨⟨nofun, List.nodup_nil⟩, nofun, List.nil_subset _⟩

theorem GrownUnder.mono (h : scenarios.GrownUnder taken) (hMore : taken ⊆ more) :
    scenarios.GrownUnder more := ⟨h.sound, h.canonical, fun _ hMem => hMore (h.known hMem)⟩

end Collection

namespace Store

/-- Nothing is loaded from the path but a collection that has grown under the ids. Either the way to the path
is blocked by something, which no directory that is made later can change, or the file at its end, if there
is one, holds such a collection. -/
def GrownAt (taken : List Text) (path : Path) (disk : Disk) : Prop :=
  (∃ error, disk.locate path = .error error ∧ disk.locate path ≠ Disk.refuse .missing path) ∨
    ∀ content, disk.fileAt path.place = some content →
      ∃ scenarios : Collection, scenarios.GrownUnder taken ∧ Utf8.encode (render scenarios) = .ok content

variable {taken more : List Text} {path : Path} {disk before after : Disk}

theorem grownAt_of_absent (hAbsent : disk.contains path = .ok false)
    (hHidden : disk.locate path = Disk.refuse .missing path → disk.fileAt path.place = none) :
    GrownAt [] path disk := by
  cases hLocate : disk.locate path with
  | error error =>
      by_cases hMissing : disk.locate path = Disk.refuse .missing path
      · refine .inr fun content hFile => ?_
        rw [hHidden hMissing] at hFile
        cases hFile
      · exact .inl ⟨error, hLocate, hMissing⟩
  | ok place =>
      obtain rfl := Disk.eq_place_of_locate hLocate
      refine .inr fun content hFile => ?_
      rw [Disk.contains, Disk.status, hLocate] at hAbsent
      dsimp only [Except.map] at hAbsent
      rw [Disk.fileAt_eq_some.mp hFile] at hAbsent
      cases hAbsent

theorem GrownAt.mono (h : GrownAt taken path disk) (hMore : taken ⊆ more) : GrownAt more path disk := by
  refine h.imp_right fun hFile content hContent => ?_
  obtain ⟨scenarios, hGrown, hEncode⟩ := hFile content hContent
  exact ⟨scenarios, hGrown.mono hMore, hEncode⟩

theorem GrownAt.of_keepsKinds (h : GrownAt taken path before) (hKinds : before.KeepsKinds after)
    (hFile : after.fileAt path.place = before.fileAt path.place) : GrownAt taken path after := by
  rcases h with ⟨error, hLocate, hBlocked⟩ | hHeld
  · have hSame := Disk.locate_of_keepsKinds hKinds hBlocked
    exact .inl ⟨error, hSame.trans hLocate, by rwa [hSame]⟩
  · exact .inr fun content hContent => hHeld content (hFile.symm.trans hContent)

variable [Runtime]

theorem GrownAt.grownUnder_of_found (h : GrownAt taken path disk) {scenarios : Collection}
    (hFound : found path disk = .ok scenarios) : scenarios.GrownUnder taken := by
  unfold found at hFound
  cases hLocate : disk.locate path with
  | error error =>
      rw [hLocate] at hFound
      have hNone : scenarios = [] := by
        cases error with
        | nulInPath => exact (Except.ok.inj hFound).symm
        | unencodable fault => exact (Except.ok.inj hFound).symm
        | system refusal =>
            dsimp only at hFound
            split at hFound
            · exact (Except.ok.inj hFound).symm
            · cases hFound
      rw [hNone]
      exact Collection.grownUnder_nil taken
  | ok place =>
      obtain rfl := Disk.eq_place_of_locate hLocate
      rw [hLocate] at hFound
      dsimp only at hFound
      cases hContent : disk.fileAt path.place with
      | none =>
          rw [hContent] at hFound
          cases hFound
          exact Collection.grownUnder_nil taken
      | some content =>
          rw [hContent] at hFound
          rcases h with ⟨error, hBlocked, _⟩ | hHeld
          · rw [hLocate] at hBlocked
            cases hBlocked
          · obtain ⟨others, hGrown, hEncode⟩ := hHeld content hContent
            dsimp only at hFound
            rw [scenariosIn_render hEncode, Collection.kept_of_sound hGrown.sound] at hFound
            cases hFound
            exact hGrown

end Store

namespace Session

/-- What happens to a session: something is asked of it, or its store is opened again. The ids that the new
session takes may go on where those of the old one ended, or come from another run of the program. -/
inductive Event where
  | request (request : Request)
  | reopen (ids : IdSource)

section

variable [Runtime]

/-- The session after an event. A store that cannot be loaded leaves the old session. -/
def follow (session : Session) : Event → Session
  | .request request => session.after request
  | .reopen ids => (openStore session.store { session.host with ids := ids }).1.toOption.getD session

/-- The session after some events. -/
def history (session : Session) (events : List Event) : Session := events.foldl follow session

/-- The ids that are taken in an event. -/
def issuedIn (session : Session) : Event → List Text
  | .request request => issued session [request]
  | .reopen _ => []

/-- The ids that are taken in some events, in order. -/
def issuedThroughout : Session → List Event → List Text
  | _, [] => []
  | session, event :: events => issuedIn session event ++ issuedThroughout (session.follow event) events

variable {taken : List Text} {session : Session}

theorem openStore_of_toOption {store : Path} {host : Host} {next : Session}
    (h : (openStore store host).1.toOption = some next) : ∃ left, openStore store host = (.ok next, left) := by
  have hMap : (openStore store host).1.toOption.map id = some next := by rw [h, Option.map_some, id]
  obtain ⟨session, left, hOpen, rfl⟩ := exists_openStore_of_map hMap
  exact ⟨left, hOpen⟩

theorem scenarios_commit (scenarios : Collection) (session : Session) :
    (stateAfter (commit scenarios session)).scenarios = session.scenarios ∨
      (stateAfter (commit scenarios session)).scenarios = scenarios := by
  rw [commit_apply]
  cases Disk.writeAtomically session.store (Store.render scenarios) session.host.disk with
  | ok answer disk => exact .inr rfl
  | error error disk =>
      cases error with
      | system refusal => exact .inl rfl
      | nulInPath => exact .inl rfl
      | unencodable fault => exact .inl rfl

/-- Deleting leaves the collection as it is or takes the scenarios with the id away. -/
theorem scenarios_after_delete (id : Text) (session : Session) :
    (after session (.delete id)).scenarios = session.scenarios ∨
      (after session (.delete id)).scenarios = session.scenarios.remove id := by
  rw [after_eq, perform, stateAfter_map, delete, bind_apply, get_apply]
  dsimp only
  split
  · exact .inl rfl
  · have hCommit := scenarios_commit (session.scenarios.remove id) session
    rw [bind_apply]
    cases hRun : commit (session.scenarios.remove id) session with
    | error failure next =>
        rw [hRun] at hCommit
        exact hCommit
    | ok answer next =>
        rw [hRun] at hCommit
        cases answer with
        | some error => exact hCommit
        | none =>
            dsimp only
            rw [bind_apply, get_apply]
            dsimp only
            split
            · exact hCommit
            · exact hCommit

theorem canonical_after_importText (h : session.scenarios.Canonical) (text : Text) :
    (after session (.importText text)).scenarios.Canonical := by
  rcases scenarios_after_importText text session with hSame | hMerged
  · rwa [hSame]
  · rw [hMerged]
    exact h.merge _ _

/-- No request brings in a scenario that is not canonical. -/
theorem canonical_after (h : session.scenarios.Canonical) {request : Request}
    (hExport : ∀ path, request = .exportTo path → path.place ≠ session.store.place) :
    (session.after request).scenarios.Canonical := by
  have hAside : request.IsAside session.store → (session.after request).scenarios.Canonical := by
    intro hAside
    rwa [(after_of_isAside hAside).1]
  cases request with
  | save text =>
      rcases scenarios_after_save text session with hSame | ⟨ids, hSave⟩
      · rwa [hSame]
      · exact h.save hSave
  | delete id =>
      rcases scenarios_after_delete id session with hSame | hRemoved
      · rwa [hSame]
      · rw [hRemoved]
        exact h.remove id
  | importText text => exact canonical_after_importText h text
  | importFile path =>
      have hRead := readImportFile_spec path session
      rw [after_eq, perform, stateAfter_map, importFile, bind_apply]
      cases hRun : readImportFile path session with
      | error failure next =>
          rw [hRun] at hRead
          show next.scenarios.Canonical
          rwa [hRead.scenarios]
      | ok answer next =>
          rw [hRun] at hRead
          cases answer with
          | error notice =>
              show next.scenarios.Canonical
              rwa [hRead.2.scenarios]
          | ok text =>
              obtain rfl : next = session := hRead
              have hImport := canonical_after_importText h text
              rwa [after_eq, perform, stateAfter_map] at hImport
  | exportTo path => exact hAside (hExport path rfl)
  | beginEdit id => exact hAside trivial
  | cancelEdit => exact hAside trivial
  | find id => exact hAside trivial
  | readImportFile path => exact hAside trivial
  | vocabulary => exact hAside trivial
  | suggest snapshot => exact hAside trivial

/-- What the session works on, and what it would find if it were opened again, has grown under some ids. -/
structure Grown (taken : List Text) (session : Session) : Prop where
  scenarios : session.scenarios.GrownUnder taken
  stored : Store.GrownAt taken session.store session.host.disk

omit [Runtime] in
theorem Grown.of_same {next : Session} (h : Grown taken session) (hStore : next.store = session.store)
    (hScenarios : next.scenarios = session.scenarios)
    (hKinds : session.host.disk.KeepsKinds next.host.disk)
    (hFile : next.host.disk.fileAt session.store.place = session.host.disk.fileAt session.store.place) :
    Grown taken next := by
  refine ⟨?_, ?_⟩
  · rw [hScenarios]
    exact h.scenarios
  · rw [hStore]
    exact h.stored.of_keepsKinds hKinds hFile

omit [Runtime] in
theorem Grown.mono {more : List Text} (h : Grown taken session) (hMore : taken ⊆ more) : Grown more session :=
  ⟨h.scenarios.mono hMore, h.stored.mono hMore⟩

/-- One request takes ids of its own, and if it changes the collection, the store's file has it as it is
now. -/
theorem Grown.after (h : Grown taken session) {request : Request}
    (hExport : ∀ path, request = .exportTo path → path.place ≠ session.store.place)
    (hFresh : ∀ id ∈ issued session [request], id ∉ taken) :
    Grown (taken ++ issued session [request]) (session.after request) := by
  have hCanonical := canonical_after h.scenarios.canonical hExport
  have hKnown : ∀ id ∈ (session.after request).scenarios.ids, id ∈ taken ++ issued session [request] := by
    intro id hMem
    rcases mem_ids_after hMem with hBefore | hTaken
    · exact List.mem_append_left _ (h.scenarios.known hBefore)
    · exact List.mem_append_right _ hTaken
  have hUnused : ∀ id ∈ issued session [request], id ∉ session.scenarios.ids :=
    fun id hId hUsed => hFresh id hId (h.scenarios.known hUsed)
  have hMoves := moves_after session request
  have hIssued : issued session [request] = session.host.ids.ids
      ((session.after request).host.ids.next - session.host.ids.next) := rfl
  rw [hIssued] at hKnown hUnused ⊢
  generalize session.after request = next at hMoves hCanonical hKnown hUnused
  have hMore := List.subset_append_left taken
    (session.host.ids.ids (next.host.ids.next - session.host.ids.next))
  cases hMoves with
  | untouched hSame =>
      exact (h.mono hMore).of_same hSame.store hSame.scenarios hSame.grows.keepsKinds
        (hSame.grows.fileAt_eq _)
  | edited editing _ hNext =>
      subst hNext
      exact ⟨(h.mono hMore).scenarios, (h.mono hMore).stored⟩
  | stored hStored _ =>
      have hGrown : next.scenarios.GrownUnder
          (taken ++ session.host.ids.ids (next.host.ids.next - session.host.ids.next)) :=
        ⟨hStored.change.sound h.scenarios.sound hUnused, hCanonical, hKnown⟩
      obtain ⟨content, hEncode, hWrote⟩ := hStored.wrote
      refine ⟨hGrown, ?_⟩
      rw [hStored.store]
      refine .inr fun other hOther => ⟨next.scenarios, hGrown, ?_⟩
      rw [hWrote.fileAt_place] at hOther
      rw [hEncode, Option.some.inj hOther]
  | exported path hRequest hExported =>
      obtain ⟨content, hWrote⟩ := hExported.wrote
      exact (h.mono hMore).of_same hExported.store hExported.scenarios hWrote.keepsKinds
        (hWrote.fileAt_of_ne (hExport path hRequest).symm)

/-- Opening the store again brings in what it holds. -/
theorem Grown.follow (h : Grown taken session) {event : Event}
    (hExport : ∀ path, event = .request (.exportTo path) → path.place ≠ session.store.place)
    (hFresh : ∀ id ∈ issuedIn session event, id ∉ taken) :
    Grown (taken ++ issuedIn session event) (session.follow event) := by
  cases event with
  | request request =>
      refine h.after ?_ hFresh
      rintro path rfl
      exact hExport path rfl
  | reopen ids =>
      rw [issuedIn, List.append_nil, Session.follow]
      cases hOpen : (openStore session.store { session.host with ids := ids }).1.toOption with
      | none => exact h
      | some next =>
          obtain ⟨left, hOpen⟩ := openStore_of_toOption hOpen
          obtain ⟨hStore, _, hFound, hDisk, _⟩ := openStore_eq_ok hOpen
          refine ⟨h.stored.grownUnder_of_found hFound, ?_⟩
          show Store.GrownAt taken next.store next.host.disk
          rw [hStore, hDisk]
          exact h.stored

theorem store_follow (session : Session) (event : Event) : (session.follow event).store = session.store := by
  cases event with
  | request request => exact (moves_after session request).store_eq
  | reopen ids =>
      rw [Session.follow]
      cases hOpen : (openStore session.store { session.host with ids := ids }).1.toOption with
      | none => rfl
      | some next =>
          obtain ⟨left, hOpen⟩ := openStore_of_toOption hOpen
          exact (openStore_eq_ok hOpen).1

/-- The induction goes forward through the events; the ids of each are added to those that were taken before
it. -/
theorem Grown.history (h : Grown taken session) {events : List Event}
    (hExport : ∀ path, .request (.exportTo path) ∈ events → path.place ≠ session.store.place)
    (hDistinct : (taken ++ issuedThroughout session events).Nodup) :
    Grown (taken ++ issuedThroughout session events) (session.history events) := by
  induction events generalizing taken session with
  | nil => exact h.mono (List.subset_append_left _ _)
  | cons event events ih =>
      rw [issuedThroughout, ← List.append_assoc] at hDistinct ⊢
      have hFresh : ∀ id ∈ issuedIn session event, id ∉ taken :=
        fun id hId hOld => (List.nodup_append.mp (List.nodup_append.mp hDistinct).1).2.2 id hOld id hId rfl
      refine ih (h.follow (fun path hEvent => hExport path ?_) hFresh) (fun path hMem => ?_) hDistinct
      · rw [hEvent]
        exact List.mem_cons_self
      · rw [store_follow]
        exact hExport path (List.mem_cons_of_mem _ hMem)

theorem issuedThroughout_append (session : Session) (first second : List Event) :
    issuedThroughout session (first ++ second) =
      issuedThroughout session first ++ issuedThroughout (session.history first) second := by
  induction first generalizing session with
  | nil => rfl
  | cons event first ih =>
      rw [List.cons_append, issuedThroughout, issuedThroughout, ih, List.append_assoc]
      rfl

/-- Saving what beginning to edit has given leaves the collection as it is, whether or not it can be
written. -/
theorem scenarios_after_save_own (h : session.scenarios.Canonical) (hDistinct : session.scenarios.ids.Nodup)
    {scenario : Scenario} (hMem : scenario ∈ session.scenarios) :
    ∃ editing, beginEdit scenario.id session = .ok (some scenario.content) editing ∧
      (editing.after (.save scenario.content)).scenarios = session.scenarios := by
  have hFind : session.find? scenario.id = some scenario := Collection.byId?_of_mem hDistinct hMem
  refine ⟨{ session with editing := some scenario.id }, by rw [beginEdit_apply, hFind], ?_⟩
  rcases scenarios_after_save scenario.content { session with editing := some scenario.id } with
    hSame | ⟨ids, hSave⟩
  · exact hSame
  · rw [h.save_own hDistinct session.host.ids hMem] at hSave
    exact (Prod.mk.inj (Option.some.inj hSave)).1.symm

/-- A store is opened when its file is not there, and from then on any requests are made and the store is
opened again any number of times, under whatever ids the new sessions take; writes may fail at any step.
Then all scenarios are canonical after every event, and one that is edited and saved as it is leaves the whole
collection as it is. No id may be taken twice and nothing be exported onto the store's own file. And where a
directory is missing on the way to the store, no file may lie where the path would lead, since a write that
is refused may have made the directory. -/
theorem scenarios_stay_canonical {store : Path} {host left : Host}
    (hOpen : openStore store host = (.ok session, left)) (hAbsent : host.disk.contains store = .ok false)
    (hHidden : host.disk.locate store = Disk.refuse .missing store → host.disk.fileAt store.place = none)
    {events : List Event}
    (hExport : ∀ path, .request (.exportTo path) ∈ events → path.place ≠ store.place)
    (hDistinct : (issuedThroughout session events).Nodup) :
    ∀ done, done <+: events →
      (∀ scenario ∈ (session.history done).scenarios, scenario.IsCanonical) ∧
      ∀ scenario ∈ (session.history done).scenarios, ∃ editing,
        beginEdit scenario.id (session.history done) = .ok (some scenario.content) editing ∧
          (editing.after (.save scenario.content)).scenarios = (session.history done).scenarios := by
  rintro done ⟨rest, rfl⟩
  obtain ⟨hStore, _, hFound, hDisk, _⟩ := openStore_eq_ok hOpen
  have hAbsentAt := Store.grownAt_of_absent hAbsent hHidden
  have hStart : Grown [] session := by
    refine ⟨hAbsentAt.grownUnder_of_found hFound, ?_⟩
    rw [hStore, hDisk]
    exact hAbsentAt
  rw [issuedThroughout_append] at hDistinct
  have hGrown := (hStart.history (fun path hMem => by
    rw [hStore]
    exact hExport path (List.mem_append_left _ hMem)) (List.nodup_append.mp hDistinct).1).scenarios
  exact ⟨hGrown.canonical, fun scenario => scenarios_after_save_own hGrown.canonical hGrown.sound.ids⟩

end

/-- A text with blanks around it is saved, the store is opened by a later run of the program, and a text with
a note in front of a scenario is imported. -/
def twoRuns : List Event :=
  [.request (.save " \nScenario: A \n"), .reopen { clock := 1800000000000000000 },
    .request (.importText "note\n\nScenario:  B \nGiven b\n\n")]

/-- All three scenarios of the two runs are canonical. -/
theorem two_runs_are_canonical :
    ∃ session left, openStore ⟨.relative, ["scenarios.json"]⟩ {} = (.ok session, left) ∧
      (session.history twoRuns).scenarios.length = 3 ∧
      ∀ scenario ∈ (session.history twoRuns).scenarios, scenario.IsCanonical := by
  have hView : (openStore ⟨.relative, ["scenarios.json"]⟩ {}).1.toOption.map (fun session =>
      ((session.history twoRuns).scenarios.length, issuedThroughout session twoRuns)) =
      some (3, (["1700000000000-1", "1800000000000-1", "1800000000000-2"] : List Text)) := by
    decide +kernel
  obtain ⟨session, left, hOpen, hValues⟩ := exists_openStore_of_map hView
  obtain ⟨hLength, hIssued⟩ := Prod.mk.inj hValues
  have hNode : Disk.fileAt {} (Path.place ⟨.relative, ["scenarios.json"]⟩) = none := by decide +kernel
  have hExport : ∀ path, .request (.exportTo path) ∈ twoRuns →
      path.place ≠ Path.place ⟨.relative, ["scenarios.json"]⟩ := by
    intro path hMem
    simp [twoRuns] at hMem
  have hDistinct : (issuedThroughout session twoRuns).Nodup := by
    rw [hIssued]
    decide
  obtain ⟨hCanonical, _⟩ := scenarios_stay_canonical hOpen rfl (fun _ => hNode) hExport hDistinct
    twoRuns List.prefix_rfl
  exact ⟨session, left, hOpen, hLength, hCanonical⟩

/-- The file of the store is not there, but one lies where the store's path will lead. Saving is refused after
the missing directory has been made, and opening the store again brings in a scenario whose title is not the
one that its content gives. -/
theorem hidden_file_is_not_canonical :
    hiddenFile.disk.contains pathToHiddenFile = .ok false ∧
      ∃ session left, openStore pathToHiddenFile hiddenFile = (.ok session, left) ∧
        (issuedThroughout session [.request (.save "A"), .reopen {}]).Nodup ∧
        ∃ scenario ∈ (session.history [.request (.save "A"), .reopen {}]).scenarios,
          ¬ scenario.IsCanonical := by
  have hView : (openStore pathToHiddenFile hiddenFile).1.toOption.map (fun session =>
      (issuedThroughout session [.request (.save "A"), .reopen {}],
        (session.history [.request (.save "A"), .reopen {}]).scenarios)) =
      some ((["1700000000000-1"] : List Text), [⟨"a", "t", "c"⟩]) := by decide +kernel
  obtain ⟨session, left, hOpen, hValues⟩ := exists_openStore_of_map hView
  obtain ⟨hIssued, hScenarios⟩ := Prod.mk.inj hValues
  refine ⟨by decide +kernel, session, left, hOpen, by rw [hIssued]; decide, ⟨"a", "t", "c"⟩, ?_, ?_⟩
  · rw [hScenarios]
    exact List.mem_singleton_self _
  · intro hCanonical
    have hTitle : Block.titleOf "c" ≠ "t" := by decide +kernel
    exact hTitle hCanonical.titled.symm

end Session

end ScenarioDesk
