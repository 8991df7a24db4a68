import ScenarioDesk.Proofs.Json.Levels
import ScenarioDesk.Proofs.Store.Loading

/-! What becomes of each entry of a stored array. An entry is taken, or it holds no scenario, or an
earlier entry holds a scenario with its id; loading answers with the first kind and warns of each of the
others, so nothing is left out in silence. -/
namespace ScenarioDesk

/-- A text is an array exactly if it is read as a value that has items. -/
theorem Json.read_eq_array_iff {text : Text} {items : List Json} :
    Json.read text = .ok (.array items) ↔ (Json.read text).toOption.bind Json.items? = some items := by
  cases Json.read text with
  | error error => simp [Except.toOption]
  | ok value => simp [Except.toOption, Json.items?_eq_some_iff]

namespace Store

/-- One of the entries holds a scenario with the id. -/
def Takes (entries : List Json) (id : Text) : Prop :=
  ∃ entry ∈ entries, ∃ scenario : Scenario, scenario.IsStoredAs entry ∧ scenario.id = id

theorem takes_append_singleton {entries : List Json} {entry : Json} {id : Text} :
    Takes (entries ++ [entry]) id ↔
      Takes entries id ∨ ∃ scenario : Scenario, scenario.IsStoredAs entry ∧ scenario.id = id := by
  simp only [Takes, List.mem_append, List.mem_singleton, or_and_right, exists_or, exists_eq_left]

/-- What has to become of an entry behind some others. -/
def IsFateOf (earlier : List Json) (entry : Json) : EntryFate → Prop
  | .loaded scenario => scenario.IsStoredAs entry ∧ ¬ Takes earlier scenario.id
  | .malformed reported => reported = entry ∧ ∀ scenario : Scenario, ¬ scenario.IsStoredAs entry
  | .duplicate id => Takes earlier id ∧ ∃ scenario : Scenario, scenario.IsStoredAs entry ∧ scenario.id = id

/-- One entry. If the taken ids are those of the entries before it, it meets the fate that it has to meet,
and afterwards the taken ids are again those of the entries read. -/
theorem fates_cons {earlier : List Json} {taken : List Text} (hTaken : ∀ id, id ∈ taken ↔ Takes earlier id)
    (entry : Json) (entries : List Json) : ∃ fate after,
      fates taken (entry :: entries) = fate :: fates after entries ∧ IsFateOf earlier entry fate ∧
      ∀ id, id ∈ after ↔ Takes (earlier ++ [entry]) id := by
  cases hEntry : Scenario.ofJson? entry with
  | none =>
      have hNone : ∀ scenario : Scenario, ¬ scenario.IsStoredAs entry := by
        intro scenario hStored
        rw [Scenario.ofJson?_eq_some_iff.mpr hStored] at hEntry
        cases hEntry
      refine ⟨.malformed entry, taken, ?_, ⟨rfl, hNone⟩, fun id => ?_⟩
      · rw [fates, hEntry]
      · simp [takes_append_singleton, hNone, hTaken]
  | some scenario =>
      have hStored := Scenario.ofJson?_eq_some_iff.mp hEntry
      have hHolds : ∀ id, (∃ other : Scenario, other.IsStoredAs entry ∧ other.id = id) ↔
          id = scenario.id := by
        intro id
        constructor
        · rintro ⟨other, hOther, rfl⟩
          rw [hOther.unique hStored]
        · rintro rfl
          exact ⟨scenario, hStored, rfl⟩
      by_cases hOld : scenario.id ∈ taken
      · have hTakes := (hTaken scenario.id).mp hOld
        refine ⟨.duplicate scenario.id, taken, ?_, ⟨hTakes, scenario, hStored, rfl⟩, fun id => ?_⟩
        · simp [fates, hEntry, hOld]
        · rw [takes_append_singleton, hHolds, hTaken]
          constructor
          · exact .inl
          · rintro (hEarlier | rfl)
            · exact hEarlier
            · exact hTakes
      · refine ⟨.loaded scenario, scenario.id :: taken, ?_, ⟨hStored, ?_⟩, fun id => ?_⟩
        · simp [fates, hEntry, hOld]
        · rwa [hTaken] at hOld
        · rw [takes_append_singleton, hHolds, List.mem_cons, hTaken, or_comm]

/-- Each entry meets the fate that it has to meet behind the entries before it. -/
structure Accounts (earlier entries : List Json) (fates : List EntryFate) : Prop where
  length : fates.length = entries.length
  each : ∀ index entry, entries[index]? = some entry →
    ∃ fate, fates[index]? = some fate ∧ IsFateOf (earlier ++ entries.take index) entry fate

theorem accounts_fates {earlier : List Json} {taken : List Text} (hTaken : ∀ id, id ∈ taken ↔ Takes earlier id)
    (entries : List Json) : Accounts earlier entries (fates taken entries) := by
  induction entries generalizing earlier taken with
  | nil => exact ⟨rfl, nofun⟩
  | cons first entries ih =>
      obtain ⟨fate, after, hFates, hFirst, hAfter⟩ := fates_cons hTaken first entries
      obtain ⟨hLength, hEach⟩ := ih hAfter
      rw [hFates]
      refine ⟨congrArg Nat.succ hLength, fun index entry hEntry => ?_⟩
      cases index with
      | zero =>
          cases hEntry
          rw [List.take_zero, List.append_nil]
          exact ⟨fate, rfl, hFirst⟩
      | succ index =>
          have hLater := hEach index entry hEntry
          rwa [List.append_assoc, List.singleton_append] at hLater

theorem accounts_all_fates (entries : List Json) : Accounts [] entries (fates [] entries) :=
  accounts_fates (by simp [Takes]) entries

/-- Every entry is loaded or reported, and none is both. -/
theorem length_loaded_add_length_reported (path : Text) (fates : List EntryFate) :
    (fates.filterMap EntryFate.scenario?).length + (fates.filterMap (EntryFate.warning? path)).length =
      fates.length := by
  induction fates with
  | nil => rfl
  | cons fate fates ih =>
      rw [List.length_cons, ← ih]
      cases fate with
      | loaded scenario => exact Nat.add_right_comm ..
      | malformed entry => exact (Nat.add_assoc ..).symm
      | duplicate id => exact (Nat.add_assoc ..).symm

/-- The warnings among some entries of the journal. -/
def warnings (reported : List LogEntry) : List LogEntry :=
  reported.filter fun entry => entry.severity = .warning

theorem severity_of_warning? {path : Text} {fate : EntryFate} {entry : LogEntry}
    (h : fate.warning? path = some entry) : entry.severity = .warning := by
  cases fate with
  | loaded scenario => cases h
  | malformed entry =>
      cases h
      rfl
  | duplicate id =>
      cases h
      rfl

theorem warnings_report (path : Text) (entries : List Json) :
    warnings (report path entries) = (fates [] entries).filterMap (EntryFate.warning? path) := by
  have hEach : ∀ entry ∈ (fates [] entries).filterMap (EntryFate.warning? path),
      decide (entry.severity = .warning) = true := by
    intro entry hMem
    obtain ⟨fate, _, hWarning⟩ := List.mem_filterMap.mp hMem
    exact decide_eq_true (severity_of_warning? hWarning)
  have hLast : warnings [.loaded (accepted entries).length path] = [] := rfl
  rw [warnings] at hLast
  rw [warnings, report, List.filter_append, hLast, List.append_nil, List.filter_eq_self.mpr hEach]

/-- The fates of the first entries are the first fates. -/
theorem fates_take (taken : List Text) (entries : List Json) (count : Nat) :
    fates taken (entries.take count) = (fates taken entries).take count := by
  induction entries generalizing taken count with
  | nil => simp [fates]
  | cons entry entries ih =>
      cases count with
      | zero => simp [fates]
      | succ count =>
          rw [List.take_succ_cons, fates, fates]
          cases Scenario.ofJson? entry with
          | none => exact congrArg _ (ih taken count)
          | some scenario =>
              dsimp only
              split
              · exact congrArg _ (ih taken count)
              · exact congrArg _ (ih _ count)

/-- An entry without a scenario is malformed. -/
theorem IsFateOf.eq_malformed {earlier : List Json} {entry : Json} {fate : EntryFate}
    (h : IsFateOf earlier entry fate) (hNone : ∀ scenario : Scenario, ¬ scenario.IsStoredAs entry) :
    fate = .malformed entry := by
  cases fate with
  | loaded scenario => exact absurd h.1 (hNone scenario)
  | malformed reported => rw [h.1]
  | duplicate id =>
      obtain ⟨_, scenario, hStored, _⟩ := h
      exact absurd hStored (hNone scenario)

section Reporting

variable [Runtime]

/-- Up to the first entry that cannot be shown exactly the entries before it are reported. -/
theorem takeWhile_report {path : Text} {entries : List Json} {index : Nat} {entry : Json}
    (hEntry : entries[index]? = some entry) (hDeep : IsUnreportable entry)
    (hEarlier : ∀ earlier ∈ entries.take index, ¬ IsUnreportable earlier) :
    (report path entries).takeWhile (!Host.isUnshowable ·) =
      ((fates [] entries).take index).filterMap (EntryFate.warning? path) := by
  obtain ⟨fate, hFate, hMeets⟩ := (accounts_all_fates entries).each index entry hEntry
  obtain rfl := hMeets.eq_malformed hDeep.malformed
  have hSplit : fates [] entries =
      (fates [] entries).take index ++ .malformed entry :: (fates [] entries).drop (index + 1) := by
    obtain ⟨hIndex, hGet⟩ := List.getElem?_eq_some_iff.mp hFate
    rw [← hGet, ← List.drop_eq_getElem_cons hIndex, List.take_append_drop]
  have hShown : ∀ warning ∈ ((fates [] entries).take index).filterMap (EntryFate.warning? path),
      (!Host.isUnshowable warning) = true := by
    intro warning hMem
    rw [← fates_take] at hMem
    cases hUnshowable : Host.isUnshowable warning with
    | false => rfl
    | true =>
        have hAny := (any_isUnshowable_fates path [] (entries.take index)).mp
          (List.any_eq_true.mpr ⟨warning, hMem, hUnshowable⟩)
        obtain ⟨earlier, hTaken, hUnreportable⟩ := hAny
        exact absurd hUnreportable (hEarlier earlier hTaken)
  have hLast : Host.isUnshowable (.malformedEntry path entry) = true := decide_eq_true hDeep.deep
  have hReport : report path entries =
      ((fates [] entries).take index).filterMap (EntryFate.warning? path) ++ .malformedEntry path entry ::
        (((fates [] entries).drop (index + 1)).filterMap (EntryFate.warning? path) ++
          [.loaded (accepted entries).length path]) := by
    conv_lhs => rw [report, hSplit]
    simp [EntryFate.warning?]
  rw [hReport, List.takeWhile_append_of_pos hShown, List.takeWhile_cons_of_neg (by simp [hLast]), List.append_nil]

section Arrays

variable {path : Path} {host : Host} {content : Bytes} {entries : List Json}
  (hFile : host.disk.read path = .ok content)
  (hArray : Json.read (FileText.read content) = .ok (.array entries))
include hFile hArray

/-- An array that cannot be read with the levels left is not loaded. -/
theorem load_of_beyondLimits (hLimits : Json.BeyondLimits Runtime.storeDepth (FileText.read content)) :
    ∃ excess, load path host = .error (.json (.tooDeep excess)) host := by
  obtain ⟨excess, hRead⟩ := Json.readWithin_of_beyondLimits hArray hLimits
  refine ⟨excess, ?_⟩
  rw [load_of_read hFile, outcome, hRead]
  dsimp only
  rw [List.append_nil]

/-- Neither is one with an entry that cannot be reported. -/
theorem load_of_isUnreportable (hLimits : ¬ Json.BeyondLimits Runtime.storeDepth (FileText.read content))
    {index : Nat} {entry : Json} (hEntry : entries[index]? = some entry) (hDeep : IsUnreportable entry)
    (hEarlier : ∀ earlier ∈ entries.take index, ¬ IsUnreportable earlier) :
    load path host = .error (.json (.tooDeep .shown))
      { host with journal := host.journal ++
          ((fates [] entries).take index).filterMap (EntryFate.warning? path.text) } := by
  have hSome : ∃ entry ∈ entries, IsUnreportable entry := ⟨entry, List.mem_of_getElem? hEntry, hDeep⟩
  rw [load_of_read hFile, outcome, Json.readWithin_of_not_beyondLimits hLimits, hArray]
  dsimp only
  rw [if_pos hSome, takeWhile_report hEntry hDeep hEarlier]

/-- Every other one is. -/
theorem load_of_reportable (hLimits : ¬ Json.BeyondLimits Runtime.storeDepth (FileText.read content))
    (hShown : ∀ entry ∈ entries, ¬ IsUnreportable entry) :
    load path host =
      .ok (accepted entries) { host with journal := host.journal ++ report path.text entries } := by
  have hNone : ¬ ∃ entry ∈ entries, IsUnreportable entry := fun ⟨entry, hMem, h⟩ => hShown entry hMem h
  rw [load_of_read hFile, outcome, Json.readWithin_of_not_beyondLimits hLimits, hArray]
  dsimp only
  rw [if_neg hNone]

end Arrays

/-- Loading accounts for every entry of a stored array, whatever the entries are and however deep they lie,
where enough levels are left to it. Each entry meets its fate in its place: it is loaded if it holds a
scenario whose id no earlier entry holds, else it is malformed or a duplicate. If the levels suffice to read
the text, and to show each malformed entry, loading answers with the scenarios of the entries loaded, in
their order, and what it adds to the journal holds one warning for each of the others and no more. If they
do not suffice to read the text, loading fails without a word. If they do not suffice to show some malformed
entry, it fails at the first such one, after the warnings of the entries before that. -/
theorem loading_accounts_for_every_entry {path : Path} {host : Host} {content : Bytes}
    {entries : List Json} (hFile : host.disk.read path = .ok content)
    (hArray : Json.read (FileText.read content) = .ok (.array entries)) :
    ∃ fates, Accounts [] entries fates ∧
      (¬ Json.BeyondLimits Runtime.storeDepth (FileText.read content) →
        (∀ entry ∈ entries, ¬ IsUnreportable entry) → ∃ reported,
          load path host = .ok (fates.filterMap EntryFate.scenario?)
            { host with journal := host.journal ++ reported } ∧
          warnings reported = fates.filterMap (EntryFate.warning? path.text) ∧
          (fates.filterMap EntryFate.scenario?).length + (warnings reported).length = entries.length) ∧
      (Json.BeyondLimits Runtime.storeDepth (FileText.read content) →
        ∃ excess, load path host = .error (.json (.tooDeep excess)) host) ∧
      (¬ Json.BeyondLimits Runtime.storeDepth (FileText.read content) →
        ∀ index entry, entries[index]? = some entry → IsUnreportable entry →
          (∀ earlier ∈ entries.take index, ¬ IsUnreportable earlier) →
          load path host = .error (.json (.tooDeep .shown))
            { host with journal := host.journal ++
                (fates.take index).filterMap (EntryFate.warning? path.text) }) := by
  have hAccounts := accounts_all_fates entries
  have hWarnings := warnings_report path.text entries
  refine ⟨fates [] entries, hAccounts, fun hLimits hShown => ?_, load_of_beyondLimits hFile hArray,
    fun hLimits index entry hEntry hDeep => load_of_isUnreportable hFile hArray hLimits hEntry hDeep⟩
  refine ⟨report path.text entries, load_of_reportable hFile hArray hLimits hShown, hWarnings, ?_⟩
  rw [hWarnings, length_loaded_add_length_reported, hAccounts.length]

end Reporting

/-- Four entries: no object, a blank content under an id, a scenario with this id whose title is no string,
and another scenario with it. -/
def oddEntries : String :=
  "[0,\x7b\"id\":\"1\",\"content\":\" \"\x7d,\x7b\"content\":\"Given a\",\"id\":\"1\",\"title\":[]\x7d," ++
    "\x7b\"id\":\"1\",\"content\":\"Given b\"\x7d]"

/-- A store that holds them. -/
def oddStore : Host :=
  { disk := { nodes := [(["scenarios.json"], .file (oddEntries.toList.flatMap Utf8.encodeChar))] } }

/-- The third entry is loaded, since the one before it takes no id, and the others are warned of. -/
theorem odd_entries_are_accounted_for : ∃ left,
    load ⟨.relative, ["scenarios.json"]⟩ oddStore = .ok [⟨"1", "Untitled Scenario", "Given a"⟩] left ∧
      (warnings left.journal).length = 3 := by
  have hFile : oddStore.disk.read ⟨.relative, ["scenarios.json"]⟩ =
      .ok (oddEntries.toList.flatMap Utf8.encodeChar) := rfl
  have hFound : found ⟨.relative, ["scenarios.json"]⟩ oddStore.disk =
      .ok [⟨"1", "Untitled Scenario", "Given a"⟩] := by decide +kernel
  have hItems : ((Json.read (FileText.read (oddEntries.toList.flatMap Utf8.encodeChar))).toOption.bind
      Json.items?).map (fun items => (items.length, items.all (·.levels ≤ Runtime.shownDepth))) =
        some (4, true) := by decide +kernel
  have hLimits : ¬ Json.BeyondLimits Runtime.storeDepth
      (FileText.read (oddEntries.toList.flatMap Utf8.encodeChar)) := by decide +kernel
  obtain ⟨entries, hArray, hEntries⟩ := Option.map_eq_some_iff.mp hItems
  obtain ⟨hLength, hLevels⟩ := Prod.mk.inj hEntries
  have hShown : ∀ entry ∈ entries, ¬ IsUnreportable entry := fun entry hMem hDeep =>
    Nat.not_le.mpr hDeep.deep (of_decide_eq_true (List.all_eq_true.mp hLevels entry hMem))
  obtain ⟨fates, _, hLoads, _⟩ :=
    loading_accounts_for_every_entry hFile (Json.read_eq_array_iff.mpr hArray)
  obtain ⟨reported, hLoad, _, hCount⟩ := hLoads hLimits hShown
  have hScenarios := Except.ok.inj ((load_eq_ok hLoad).1.symm.trans hFound)
  rw [hScenarios, hLength] at hCount
  rw [hScenarios] at hLoad
  exact ⟨_, hLoad, Nat.add_left_cancel hCount⟩

/-- The characters of an array with this many others in it, each in the one before. -/
def deepArray (inner : Nat) : List Char := List.replicate (inner + 1) '[' ++ List.replicate (inner + 1) ']'

theorem fileText_deepArray (inner : Nat) :
    FileText.read ((deepArray inner).flatMap Utf8.encodeChar) = Json.nestedText inner := by
  have hChars : Text.ofChars (deepArray inner) = Json.nestedText inner := by
    rw [Text.ofChars, deepArray, List.map_append, List.map_replicate, List.map_replicate]
    rfl
  have hReturn : CodePoint.char '\r' ∉ Json.nestedText inner := by
    simp [Json.nestedText, List.mem_replicate]
  have hEncode := Utf8.encode_ofChars (deepArray inner)
  rw [hChars] at hEncode
  exact FileText.read_of_encode (by decide) hReturn hEncode

/-- A store that holds an array with 994 others in it. -/
def deepStore : Host :=
  { disk := { nodes := [(["scenarios.json"], .file ((deepArray 994).flatMap Utf8.encodeChar))] } }

/-- It is an array with one malformed entry, but loading does not skip the entry. -/
theorem deep_array_is_not_loaded :
    deepStore.disk.read ⟨.relative, ["scenarios.json"]⟩ = .ok ((deepArray 994).flatMap Utf8.encodeChar) ∧
      Json.read (FileText.read ((deepArray 994).flatMap Utf8.encodeChar)) = .ok (.array [Json.nested 993]) ∧
      ∃ failure left, load ⟨.relative, ["scenarios.json"]⟩ deepStore = .error failure left := by
  have hFile : deepStore.disk.read ⟨.relative, ["scenarios.json"]⟩ =
      .ok ((deepArray 994).flatMap Utf8.encodeChar) := rfl
  have hArray : Json.read (FileText.read ((deepArray 994).flatMap Utf8.encodeChar)) =
      .ok (.array [Json.nested 993]) := by
    rw [fileText_deepArray, Json.read_nestedText, Json.nested]
  refine ⟨hFile, hArray, ?_⟩
  by_cases hLimits : Json.BeyondLimits Runtime.storeDepth
      (FileText.read ((deepArray 994).flatMap Utf8.encodeChar))
  · obtain ⟨excess, hLoad⟩ := load_of_beyondLimits hFile hArray hLimits
    exact ⟨_, _, hLoad⟩
  · have hDeep : IsUnreportable (Json.nested 993) := by
      refine ⟨fun scenario hStored => ?_, ?_⟩
      · have hId := hStored.id
        rw [Json.nested] at hId
        cases hId
      · rw [Json.levels_nested]
        decide
    have hFirst : [Json.nested 993][0]? = some (Json.nested 993) := rfl
    exact ⟨_, _, load_of_isUnreportable hFile hArray hLimits hFirst hDeep
      fun _ hMem => absurd hMem List.not_mem_nil⟩

end Store

end ScenarioDesk
