import ScenarioDesk.Proofs.Json.Levels
import ScenarioDesk.Proofs.Session.Distinctness
import ScenarioDesk.Proofs.Text.Encoding

/-! Opening a store on whatever its file holds. The loader handles a file that is no JSON and a value
that is no array; it handles neither a text that the reader refuses for its limits nor an entry that lies
too deep to be put into the warning about it. -/
namespace ScenarioDesk

namespace Store

section

variable [Runtime]

/-- The text is beyond the limits of the reader, or an array with an entry that cannot be reported. -/
def IsUnloadable (text : Text) : Prop :=
  Json.BeyondLimits Runtime.storeDepth text ∨
    ∃ entries, Json.read text = .ok (.array entries) ∧ ∃ entry ∈ entries, IsUnreportable entry

theorem outcome_of_isUnloadable {content : Bytes} (h : IsUnloadable (FileText.read content)) (path : Text) :
    ∃ failure reported, outcome path content = (.error failure, reported) := by
  rw [outcome]
  by_cases hLimits : Json.BeyondLimits Runtime.storeDepth (FileText.read content)
  · obtain ⟨error, hRead, hLimit⟩ := hLimits
    rw [hRead]
    cases error with
    | malformed reason line column offset => cases hLimit
    | hugeInteger digits => exact ⟨_, _, rfl⟩
    | tooDeep excess => exact ⟨_, _, rfl⟩
  · obtain ⟨entries, hArray, hDeep⟩ := h.resolve_left hLimits
    rw [Json.readWithin_of_not_beyondLimits hLimits, hArray]
    dsimp only
    rw [if_pos hDeep]
    exact ⟨_, _, rfl⟩

/-- In every other case loading answers. Content that is no array gives no scenario and one warning. -/
theorem outcome_of_not_isUnloadable {content : Bytes} (h : ¬ IsUnloadable (FileText.read content))
    (path : Text) :
    ∃ scenarios reported, outcome path content = (.ok scenarios, reported) ∧
      ((∀ items, Json.read (FileText.read content) ≠ .ok (.array items)) →
        scenarios = [] ∧ ∃ entry, reported = [entry] ∧ entry.severity = .warning) := by
  obtain ⟨hLimits, hShown⟩ := not_or.mp h
  rw [outcome, Json.readWithin_of_not_beyondLimits hLimits]
  cases hRead : Json.read (FileText.read content) with
  | error error =>
      have hWithin := (Json.readWithin_of_not_beyondLimits hLimits).trans hRead
      cases error with
      | malformed reason line column offset => exact ⟨_, _, rfl, fun _ => ⟨rfl, _, rfl, rfl⟩⟩
      | hugeInteger digits => exact absurd ⟨_, hWithin, rfl⟩ hLimits
      | tooDeep excess => exact absurd ⟨_, hWithin, rfl⟩ hLimits
  | ok value =>
      cases value with
      | array items =>
          have hEach : ¬ ∃ entry ∈ items, IsUnreportable entry := fun hDeep =>
            hShown ⟨items, hRead, hDeep⟩
          dsimp only
          rw [if_neg hEach]
          exact ⟨_, _, rfl, fun hNone => absurd rfl (hNone items)⟩
      | null => exact ⟨_, _, rfl, fun _ => ⟨rfl, _, rfl, rfl⟩⟩
      | bool value => exact ⟨_, _, rfl, fun _ => ⟨rfl, _, rfl, rfl⟩⟩
      | int value => exact ⟨_, _, rfl, fun _ => ⟨rfl, _, rfl, rfl⟩⟩
      | float value => exact ⟨_, _, rfl, fun _ => ⟨rfl, _, rfl, rfl⟩⟩
      | string text => exact ⟨_, _, rfl, fun _ => ⟨rfl, _, rfl, rfl⟩⟩
      | object fields => exact ⟨_, _, rfl, fun _ => ⟨rfl, _, rfl, rfl⟩⟩

end

end Store

namespace Session

/-- Opening a store whose file can be read from the disk fails exactly if the text of the file is beyond
the limits of the reader with the levels left to it, which a moderate text never is, or if it is an array
with a malformed entry of more levels than can be shown; so does loading. In every other case, whatever
the bytes are, loading answers and changes nothing but the journal, and the session has the scenarios of
that answer. Where the text is no array there are none, and one warning is reported. -/
theorem opening_fails_iff_beyond_limits [Runtime] {store : Path} {host : Host} {content : Bytes}
    (hFile : host.disk.read store = .ok content) :
    (Json.Moderate Runtime.storeDepth (FileText.read content) →
      ¬ Json.BeyondLimits Runtime.storeDepth (FileText.read content)) ∧
    ((∃ failure left, Store.load store host = .error failure left) ↔
      Store.IsUnloadable (FileText.read content)) ∧
    ((∃ failure left, openStore store host = (.error failure, left)) ↔
      Store.IsUnloadable (FileText.read content)) ∧
    (¬ Store.IsUnloadable (FileText.read content) → ∃ scenarios reported session left,
      Store.load store host = .ok scenarios { host with journal := host.journal ++ reported } ∧
        openStore store host = (.ok session, left) ∧ session.scenarios = scenarios ∧
        ((∀ items, Json.read (FileText.read content) ≠ .ok (.array items)) →
          scenarios = [] ∧ ∃ entry, reported = [entry] ∧ entry.severity = .warning)) := by
  have hLoad := Store.load_of_read hFile
  by_cases hUnloadable : Store.IsUnloadable (FileText.read content)
  · obtain ⟨failure, reported, hOutcome⟩ := Store.outcome_of_isUnloadable hUnloadable store.text
    rw [hOutcome] at hLoad
    have hOpen : openStore store host =
        (.error failure, { host with journal := host.journal ++ reported }) := by
      rw [openStore, hLoad]
    exact ⟨Json.Moderate.not_beyondLimits, iff_of_true ⟨_, _, hLoad⟩ hUnloadable,
      iff_of_true ⟨_, _, hOpen⟩ hUnloadable, fun hLoadable => absurd hUnloadable hLoadable⟩
  · obtain ⟨scenarios, reported, hOutcome, hOther⟩ :=
      Store.outcome_of_not_isUnloadable hUnloadable store.text
    rw [hOutcome] at hLoad
    have hOpen : openStore store host =
        (.ok ⟨store, scenarios, none, { host with journal := host.journal ++ reported }⟩,
          { host with journal := host.journal ++ reported }) := by
      rw [openStore, hLoad]
    refine ⟨Json.Moderate.not_beyondLimits, iff_of_false ?_ hUnloadable, iff_of_false ?_ hUnloadable,
      fun _ => ⟨scenarios, reported, _, _, hLoad, hOpen, rfl, hOther⟩⟩
    · rintro ⟨failure, left, hFails⟩
      rw [hLoad] at hFails
      cases hFails
    · rintro ⟨failure, left, hFails⟩
      rw [hOpen] at hFails
      cases hFails

/-- A file that is not UTF-8: a half-written array in the Cyrillic code page. -/
def brokenStore : Host :=
  { disk := { nodes := [(["scenarios.json"], .file [0x5B, 0x22, 0xFF, 0xFE, 0x22, 0x2C])] } }

/-- A session is opened on it, without scenarios. -/
theorem broken_store_opens_empty : ∃ session left,
    openStore ⟨.relative, ["scenarios.json"]⟩ brokenStore = (.ok session, left) ∧
      session.scenarios = [] := by
  have hFile : (brokenStore.disk.read ⟨.relative, ["scenarios.json"]⟩) =
      .ok [0x5B, 0x22, 0xFF, 0xFE, 0x22, 0x2C] := rfl
  have hNone : (Json.read (FileText.read [0x5B, 0x22, 0xFF, 0xFE, 0x22, 0x2C])).toOption.isNone = true := by
    decide +kernel
  have hNoArray : ∀ items,
      Json.read (FileText.read [0x5B, 0x22, 0xFF, 0xFE, 0x22, 0x2C]) ≠ .ok (.array items) := by
    intro items hItems
    rw [hItems] at hNone
    cases hNone
  have hLoadable : ¬ Store.IsUnloadable (FileText.read [0x5B, 0x22, 0xFF, 0xFE, 0x22, 0x2C]) := by
    rintro (hLimits | ⟨items, hItems, _⟩)
    · revert hLimits
      decide +kernel
    · exact hNoArray items hItems
  obtain ⟨_, _, _, hOpens⟩ := opening_fails_iff_beyond_limits hFile
  obtain ⟨scenarios, reported, session, left, _, hOpen, hScenarios, hOther⟩ := hOpens hLoadable
  exact ⟨session, left, hOpen, hScenarios.trans (hOther hNoArray).1⟩

/-- An integer with one digit more than the reader converts. -/
def longNumeral : List Char := List.replicate (Json.digitLimit + 1) '1'

/-- A store whose file is nothing but this integer. -/
def storeOfLongNumeral : Host :=
  { disk := { nodes := [(["scenarios.json"], .file (longNumeral.flatMap Utf8.encodeChar))] } }

/-- No session is opened on it. -/
theorem long_numeral_keeps_store_closed : ∃ failure left,
    openStore ⟨.relative, ["scenarios.json"]⟩ storeOfLongNumeral = (.error failure, left) := by
  have hFile : storeOfLongNumeral.disk.read ⟨.relative, ["scenarios.json"]⟩ =
      .ok (longNumeral.flatMap Utf8.encodeChar) := rfl
  have hDigits : ∀ c ∈ Text.ofChars longNumeral, c = CodePoint.char '1' := by
    intro c hMem
    obtain ⟨d, hOne, rfl⟩ := List.mem_map.mp hMem
    rw [List.eq_of_mem_replicate hOne]
  have hText : FileText.read (longNumeral.flatMap Utf8.encodeChar) = Text.ofChars longNumeral := by
    refine FileText.read_of_encode (c := '1') (by decide) ?_ (Utf8.encode_ofChars longNumeral)
    intro hMem
    cases hDigits _ hMem
  have hLength : (Text.ofChars longNumeral).length = Json.digitLimit + 1 := by
    rw [Text.ofChars, List.length_map, longNumeral, List.length_replicate]
  have hRead : Json.readWithin Runtime.storeDepth (Text.ofChars longNumeral) =
      .error (.hugeInteger (Json.digitLimit + 1)) := by
    rw [← hLength]
    refine Json.readWithin_of_long _ ?_ ?_ ?_
    · intro c hMem
      rw [hDigits c hMem]
      rfl
    · intro hZero
      cases hDigits _ (List.mem_of_mem_head? hZero)
    · rw [hLength]
      exact Nat.lt_succ_self _
  rw [openStore, Store.load_of_read hFile, Store.outcome, hText, hRead]
  exact ⟨_, _, rfl⟩

end Session

end ScenarioDesk
