import ScenarioDesk.Proofs.Disk.AtomicWrite
import ScenarioDesk.Proofs.Store.Entries

/-! What loading answers, read off the disk. Loading changes nothing but the journal, and what it
answers depends only on where the path leads and on the file there, and on the levels that are left to
reading and reporting. -/
namespace ScenarioDesk

namespace Host

theorem attempt_apply {α : Type} (operation : DiskM α) (host : Host) :
    attempt operation host = match operation host.disk with
      | .ok answer disk => .ok (.ok answer) { host with disk := disk }
      | .error error disk => .ok (.error error) { host with disk := disk } := by
  rw [attempt, modifyGet_apply]
  cases operation host.disk with
  | ok answer disk => rfl
  | error error disk => rfl

theorem onDisk_apply {α : Type} (operation : DiskM α) (host : Host) :
    onDisk operation host = match operation host.disk with
      | .ok answer disk => .ok answer { host with disk := disk }
      | .error error disk => .error (.disk error) { host with disk := disk } := by
  rw [onDisk, bind_apply, attempt_apply]
  cases operation host.disk with
  | ok answer disk => rfl
  | error error disk => rfl

theorem attempt_query_apply {α : Type} (question : Disk → Except DiskError α) (host : Host) :
    attempt (Disk.query question) host = .ok (question host.disk) host := by
  rw [attempt_apply, Disk.query_apply]
  cases question host.disk with
  | ok answer => rfl
  | error error => rfl

theorem onDisk_query_apply {α : Type} (question : Disk → Except DiskError α) (host : Host) :
    onDisk (Disk.query question) host = match question host.disk with
      | .ok answer => .ok answer host
      | .error error => .error (.disk error) host := by
  rw [onDisk_apply, Disk.query_apply]
  cases question host.disk with
  | ok answer => rfl
  | error error => rfl

section Logging

variable [Runtime]

theorem log_apply (entry : LogEntry) (host : Host) :
    log entry host = if isUnshowable entry then .error (.json (.tooDeep .shown)) host
      else .ok () { host with journal := host.journal ++ [entry] } := by
  rw [log]
  split
  · rfl
  · rfl

/-- Entries are logged up to the first one that cannot be put into words, which ends the logging. -/
theorem forIn_log_apply (entries : List LogEntry) (host : Host) :
    (forIn entries PUnit.unit fun entry _ => do
      log entry
      pure (ForInStep.yield PUnit.unit) : HostM PUnit) host =
      if entries.any isUnshowable then .error (.json (.tooDeep .shown))
        { host with journal := host.journal ++ entries.takeWhile (!isUnshowable ·) }
      else .ok PUnit.unit { host with journal := host.journal ++ entries } := by
  induction entries generalizing host with
  | nil =>
      rw [List.forIn_nil, List.append_nil]
      rfl
  | cons entry entries ih =>
      rw [List.forIn_cons, bind_apply, bind_apply, log_apply]
      cases hEntry : isUnshowable entry with
      | true => simp [hEntry]
      | false =>
          have hRest := ih { host with journal := host.journal ++ [entry] }
          simp only [List.append_assoc, List.singleton_append] at hRest
          simp only [List.any_cons, List.takeWhile_cons, hEntry, Bool.false_eq_true, Bool.false_or, Bool.not_false,
            if_false, if_true]
          exact hRest

end Logging

end Host

namespace Store

variable [Runtime]

/-- Saving is one atomic write, which is reported if it succeeds. -/
theorem save_apply (path : Path) (scenarios : Collection) (host : Host) :
    save path scenarios host = match Disk.writeAtomically path (render scenarios) host.disk with
      | .ok () disk =>
        .ok () { host with
          disk := disk, journal := host.journal ++ [.wrote scenarios.length path.text] }
      | .error error disk => .error (.disk error) { host with disk := disk } := by
  rw [save, bind_apply, Host.onDisk_apply]
  cases Disk.writeAtomically path (render scenarios) host.disk with
  | ok answer disk => rfl
  | error error disk => rfl

/-- The entry has to be reported and has too many levels to be shown. -/
structure IsUnreportable (entry : Json) : Prop where
  malformed : ∀ scenario : Scenario, ¬ scenario.IsStoredAs entry
  deep : Runtime.shownDepth < entry.levels

instance (entry : Json) : Decidable (IsUnreportable entry) :=
  decidable_of_iff (Scenario.ofJson? entry = none ∧ Runtime.shownDepth < entry.levels)
    ⟨fun h => ⟨Scenario.ofJson?_eq_none_iff.mp h.1, h.2⟩,
      fun h => ⟨Scenario.ofJson?_eq_none_iff.mpr h.malformed, h.deep⟩⟩

/-- Of the entries some cannot be reported, whatever the path and the ids taken are. -/
theorem any_isUnshowable_fates (path : Text) (taken : List Text) (entries : List Json) :
    ((fates taken entries).filterMap (EntryFate.warning? path)).any Host.isUnshowable = true ↔
      ∃ entry ∈ entries, IsUnreportable entry := by
  induction entries generalizing taken with
  | nil => simp [fates]
  | cons entry entries ih =>
      have hEntry : IsUnreportable entry ↔
          Scenario.ofJson? entry = none ∧ Runtime.shownDepth < entry.levels := by
        rw [Scenario.ofJson?_eq_none_iff]
        exact ⟨fun h => ⟨h.malformed, h.deep⟩, fun h => ⟨h.1, h.2⟩⟩
      simp only [List.mem_cons, exists_eq_or_imp, hEntry]
      rw [fates]
      cases Scenario.ofJson? entry with
      | none => simp [EntryFate.warning?, Host.isUnshowable, LogEntry.value?, ← ih taken]
      | some scenario =>
          dsimp only
          split
          · simp [EntryFate.warning?, Host.isUnshowable, LogEntry.value?, ← ih taken]
          · simp [EntryFate.warning?, ← ih (scenario.id :: taken)]

theorem any_isUnshowable_report (path : Text) (entries : List Json) :
    (report path entries).any Host.isUnshowable = true ↔ ∃ entry ∈ entries, IsUnreportable entry := by
  rw [report, List.any_append, Bool.or_eq_true, any_isUnshowable_fates]
  exact or_iff_left Bool.false_ne_true

/-- The scenarios in the content of a stored file. Content that is no array counts as empty. -/
def scenariosIn (content : Bytes) : Except Failure Collection :=
  match Json.readWithin Runtime.storeDepth (FileText.read content) with
  | .ok (.array entries) =>
    if ∃ entry ∈ entries, IsUnreportable entry then .error (.json (.tooDeep .shown))
    else .ok (accepted entries)
  | .ok _ => .ok []
  | .error (.malformed ..) => .ok []
  | .error error => .error (.json error)

/-- The scenarios that loading finds on a disk. -/
def found (path : Path) (disk : Disk) : Except Failure Collection :=
  match disk.locate path with
  | .ok place =>
    match disk.fileAt place with
    | some content => scenariosIn content
    | none => .ok []
  | .error (.system error) =>
    if error.cause = .missing ∨ error.cause = .notDirectory then .ok []
    else .error (.disk (.system error))
  | .error _ => .ok []

/-- What loading answers and reports on the content of a file. -/
def outcome (path : Text) (content : Bytes) : Except Failure Collection × List LogEntry :=
  match Json.readWithin Runtime.storeDepth (FileText.read content) with
  | .error (.malformed reason line column offset) =>
    (.ok [], [.unreadable path (.malformed (.malformed reason line column offset))])
  | .error error => (.error (.json error), [])
  | .ok (.array entries) =>
    if ∃ entry ∈ entries, IsUnreportable entry then
      (.error (.json (.tooDeep .shown)), (report path entries).takeWhile (!Host.isUnshowable ·))
    else (.ok (accepted entries), report path entries)
  | .ok _ => (.ok [], [.notAnArray path])

theorem load_of_read {path : Path} {host : Host} {content : Bytes}
    (h : host.disk.read path = .ok content) :
    load path host = match outcome path.text content with
      | (.ok scenarios, entries) => .ok scenarios { host with journal := host.journal ++ entries }
      | (.error failure, entries) => .error failure { host with journal := host.journal ++ entries } := by
  obtain ⟨hLocate, hFile⟩ := Disk.read_eq_ok.mp h
  have hNode := Disk.fileAt_eq_some.mp hFile
  unfold load outcome
  simp only [bind_apply, Host.onDisk_query_apply, Disk.contains, Disk.status, hLocate, hNode, Except.map,
    Option.isSome_some, Bool.not_true, Bool.false_eq_true, if_false, Host.attempt_query_apply, h]
  cases Json.readWithin Runtime.storeDepth (FileText.read content) with
  | error error =>
      cases error with
      | malformed reason line column offset => rfl
      | hugeInteger digits => simp [throw_apply]
      | tooDeep excess => simp [throw_apply]
  | ok value =>
      cases value with
      | array entries =>
          dsimp only
          rw [bind_apply, Host.forIn_log_apply]
          have hAny := any_isUnshowable_report path.text entries
          by_cases hDeep : ∃ entry ∈ entries, IsUnreportable entry
          · rw [if_pos hDeep, if_pos (hAny.mpr hDeep)]
          · rw [if_neg hDeep, if_neg (hDeep ∘ hAny.mp)]
            rfl
      | null => rfl
      | bool value => rfl
      | int value => rfl
      | float value => rfl
      | string text => rfl
      | object fields => rfl

theorem scenariosIn_eq (path : Text) (content : Bytes) :
    scenariosIn content = (outcome path content).1 := by
  unfold scenariosIn outcome
  cases Json.readWithin Runtime.storeDepth (FileText.read content) with
  | error error =>
      cases error with
      | malformed reason line column offset => rfl
      | hugeInteger digits => rfl
      | tooDeep excess => rfl
  | ok value =>
      cases value with
      | array entries =>
          dsimp only
          split
          · rfl
          · rfl
      | null => rfl
      | bool value => rfl
      | int value => rfl
      | float value => rfl
      | string text => rfl
      | object fields => rfl

/-- Loading answers with what it finds and adds to the journal only. -/
theorem load_apply (path : Path) (host : Host) :
    ∃ entries, load path host = match found path host.disk with
      | .ok scenarios => .ok scenarios { host with journal := host.journal ++ entries }
      | .error failure => .error failure { host with journal := host.journal ++ entries } := by
  cases hRead : host.disk.read path with
  | ok content =>
      obtain ⟨hLocate, hFile⟩ := Disk.read_eq_ok.mp hRead
      have hFound : found path host.disk = (outcome path.text content).1 := by
        rw [found, hLocate]
        dsimp only
        rw [hFile]
        exact scenariosIn_eq path.text content
      rw [load_of_read hRead, hFound]
      obtain ⟨answer, entries⟩ := outcome path.text content
      cases answer with
      | ok scenarios => exact ⟨entries, rfl⟩
      | error failure => exact ⟨entries, rfl⟩
  | error refused =>
      unfold load found
      rw [bind_apply, Host.onDisk_query_apply, Disk.contains, Disk.status]
      cases hLocate : host.disk.locate path with
      | error error =>
          refine ⟨[], ?_⟩
          rw [List.append_nil]
          cases error with
          | nulInPath => rfl
          | unencodable fault => rfl
          | system refusal =>
              dsimp only
              by_cases hCause : refusal.cause = .missing ∨ refusal.cause = .notDirectory
              · rw [if_pos hCause, if_pos hCause]
                rfl
              · rw [if_neg hCause, if_neg hCause]
                rfl
      | ok place =>
          dsimp only [Disk.fileAt]
          rw [Disk.read_of_locate hLocate] at hRead
          cases hNode : host.disk.node? place with
          | none => exact ⟨[], by rw [List.append_nil]; rfl⟩
          | some node =>
              cases node with
              | directory =>
                  simp only [Except.map, Option.isSome_some, Bool.not_true, Bool.false_eq_true, if_false,
                    bind_apply, Host.attempt_query_apply, Disk.read_of_locate hLocate, hNode]
                  exact ⟨_, rfl⟩
              | file content =>
                  rw [hNode] at hRead
                  cases hRead

theorem load_eq_ok {path : Path} {host after : Host} {scenarios : Collection}
    (h : load path host = .ok scenarios after) :
    found path host.disk = .ok scenarios ∧ after.disk = host.disk ∧ after.ids = host.ids := by
  obtain ⟨entries, hLoad⟩ := load_apply path host
  rw [hLoad] at h
  cases hFound : found path host.disk with
  | error failure =>
      rw [hFound] at h
      cases h
  | ok others =>
      rw [hFound] at h
      cases h
      exact ⟨rfl, rfl, rfl⟩

theorem exists_load_eq_ok {path : Path} {host : Host} {scenarios : Collection}
    (h : found path host.disk = .ok scenarios) : ∃ after, load path host = .ok scenarios after := by
  obtain ⟨entries, hLoad⟩ := load_apply path host
  rw [h] at hLoad
  exact ⟨_, hLoad⟩

/-- What loading finds is sound, whatever the file holds. -/
theorem found_sound {path : Path} {disk : Disk} {scenarios : Collection}
    (h : found path disk = .ok scenarios) : scenarios.Sound := by
  have hEmpty : Collection.Sound [] := ⟨nofun, List.nodup_nil⟩
  unfold found at h
  split at h
  · split at h
    · unfold scenariosIn at h
      split at h
      · split at h
        · cases h
        · cases h
          exact accepted_sound _
      · cases h
        exact hEmpty
      · cases h
        exact hEmpty
      · cases h
    · cases h
      exact hEmpty
  · split at h
    · cases h
      exact hEmpty
    · cases h
  · cases h
    exact hEmpty

/-- New directories bring no file to light at the path: either no directory is missing on the way, or
all names fit and no file lies where the path would lead. -/
def Settled (disk : Disk) (path : Path) : Prop :=
  disk.locate path = Disk.refuse .missing path →
    Disk.NamesFit path.names ∧ disk.fileAt path.place = none

/-- Where something is found no directory is missing. -/
theorem settled_of_found {path : Path} {disk : Disk} {scenarios : Collection}
    (h : found path disk = .ok scenarios) (hSome : scenarios ≠ []) : Settled disk path := by
  intro hMissing
  rw [found, hMissing] at h
  cases h
  exact absurd rfl hSome

/-- Loading finds the same where the kinds of things are kept and the file at the place of the path is
the same. -/
theorem found_of_keepsKinds {path : Path} {before after : Disk} (hSettled : Settled before path)
    (hKinds : before.KeepsKinds after) (hFile : after.fileAt path.place = before.fileAt path.place) :
    found path after = found path before ∧ Settled after path := by
  by_cases hMissing : before.locate path = Disk.refuse .missing path
  · obtain ⟨hNames, hNone⟩ := hSettled hMissing
    rw [hNone] at hFile
    refine ⟨?_, fun _ => ⟨hNames, hFile⟩⟩
    have hBefore : found path before = .ok [] := by
      unfold found
      rw [hMissing]
      rfl
    rw [hBefore]
    unfold found
    rcases Disk.locate_of_missing hNames hMissing with h | h | h
    · rw [h]
      dsimp only
      rw [hFile]
    · rw [h]
      rfl
    · rw [h]
      rfl
  · have hLocate := Disk.locate_of_keepsKinds hKinds hMissing
    refine ⟨?_, fun hAfter => absurd (hLocate.symm.trans hAfter) hMissing⟩
    unfold found
    rw [hLocate]
    cases hPlace : before.locate path with
    | error error =>
        cases error with
        | system refusal => rfl
        | nulInPath => rfl
        | unencodable fault => rfl
    | ok place =>
        rw [Disk.eq_place_of_locate hPlace]
        dsimp only
        rw [hFile]

/-- After a write to the path, loading finds what was written. -/
theorem found_of_wrote {path : Path} {content : Bytes} {before after : Disk}
    (h : Disk.Wrote path content before after) :
    found path after = scenariosIn content ∧ Settled after path := by
  refine ⟨?_, ?_⟩
  · unfold found
    rw [h.locate_eq]
    dsimp only
    rw [h.fileAt_place]
  · intro hMissing
    rw [h.locate_eq] at hMissing
    cases hMissing

end Store

end ScenarioDesk
