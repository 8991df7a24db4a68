import ScenarioDesk.Proofs.Disk.Overwrite
import ScenarioDesk.Proofs.Json.Reading
import ScenarioDesk.Proofs.Store.RoundTrip
import ScenarioDesk.Settings.File

/-! The settings file. Whatever was stored there, if it was stored as strings, truth values and integers
that are not too long, is read again; each field then passes its check or gives its default. -/
namespace ScenarioDesk

namespace Json

/-- A string, a truth value, or an integer that the reader converts. -/
inductive IsScalar : Json → Prop where
  | string (content : Text) : IsScalar (.string content)
  | bool (value : Bool) : IsScalar (.bool value)
  | int {value : Int} (h : IsShort value) : IsScalar (.int value)

theorem IsScalar.readsBack {value : Json} (h : value.IsScalar) (depth : Nat) : ReadsBack depth value := by
  cases h with
  | string content => exact readsBack_string depth content
  | bool value => exact readsBack_bool depth value
  | int h => exact readsBack_int depth h

theorem IsScalar.writtenWith {allowed : CodePoint → Prop} (hLayout : AllowsLayout allowed) {value : Json}
    (h : value.IsScalar) (hText : ∀ content, value = .string content → AllowsText allowed content) :
    WrittenWith allowed value := by
  cases h with
  | string content => exact writtenWith_string hLayout (hText content rfl)
  | bool value => exact writtenWith_bool hLayout value
  | int h => exact writtenWith_int hLayout _

end Json

namespace StoredSettings

/-- The values of the fields. -/
def values (stored : StoredSettings) : List Json :=
  [stored.lastDirectory, stored.autosaveDelay, stored.theme, stored.previewVisible, stored.maxSuggestions,
    stored.logLevel, stored.draftText, stored.editingId, stored.windowWidth, stored.windowHeight]

/-- No string among the fields holds half of a surrogate pair on its own. -/
def IsWhole (stored : StoredSettings) : Prop :=
  ∀ content, .string content ∈ stored.values → content.isWhole = true

/-- Every field is a string, a truth value, or an integer that can be read again. -/
structure IsStorable (stored : StoredSettings) : Prop where
  lastDirectory : stored.lastDirectory.IsScalar
  autosaveDelay : stored.autosaveDelay.IsScalar
  theme : stored.theme.IsScalar
  previewVisible : stored.previewVisible.IsScalar
  maxSuggestions : stored.maxSuggestions.IsScalar
  logLevel : stored.logLevel.IsScalar
  draftText : stored.draftText.IsScalar
  editingId : stored.editingId.IsScalar
  windowWidth : stored.windowWidth.IsScalar
  windowHeight : stored.windowHeight.IsScalar

theorem IsStorable.forall_fields {stored : StoredSettings} (h : stored.IsStorable) :
    ∃ fields, stored.toJson = .object fields ∧ (fields.map Prod.fst).Nodup ∧
      fields.map Prod.snd = stored.values ∧
      (∀ field ∈ fields, (∀ c ∈ field.1, Json.IsPlain c) ∧ field.2.IsScalar) := by
  have hNames : (["last_directory", "autosave_debounce_ms", "ui_theme", "preview_visible",
      "max_visible_suggestions", "log_level", "draft_text", "editing_id", "window_width",
      "window_height"] : List Text).Nodup := by decide
  refine ⟨_, rfl, hNames, rfl, ?_⟩
  simp only [List.forall_mem_cons]
  refine ⟨⟨by decide, h.lastDirectory⟩, ⟨by decide, h.autosaveDelay⟩, ⟨by decide, h.theme⟩,
    ⟨by decide, h.previewVisible⟩, ⟨by decide, h.maxSuggestions⟩, ⟨by decide, h.logLevel⟩,
    ⟨by decide, h.draftText⟩, ⟨by decide, h.editingId⟩, ⟨by decide, h.windowWidth⟩,
    ⟨by decide, h.windowHeight⟩, nofun⟩

theorem IsStorable.readsBack [Runtime] {stored : StoredSettings} (h : stored.IsStorable) :
    Json.ReadsBack Runtime.settingsDepth stored.toJson := by
  obtain ⟨fields, hFields, hNames, _, hEach⟩ := h.forall_fields
  obtain ⟨depth, hDepth⟩ := Nat.exists_eq_add_of_le' Runtime.one_le_settingsDepth
  rw [hFields, hDepth]
  exact Json.readsBack_object hNames fun field hMem => (hEach field hMem).2.readsBack depth

theorem IsStorable.writtenWith {stored : StoredSettings} (h : stored.IsStorable)
    {allowed : CodePoint → Prop} (hLayout : Json.AllowsLayout allowed)
    (hText : ∀ content, .string content ∈ stored.values → Json.AllowsText allowed content) :
    Json.WrittenWith allowed stored.toJson := by
  obtain ⟨fields, hFields, _, hValues, hEach⟩ := h.forall_fields
  rw [hFields]
  refine Json.writtenWith_object hLayout fun field hMem => ?_
  obtain ⟨hName, hScalar⟩ := hEach field hMem
  refine ⟨fun c hChar _ => hLayout c (.inr (hName c hChar)), hScalar.writtenWith hLayout ?_⟩
  intro content hContent
  refine hText content ?_
  rw [← hValues, ← hContent]
  exact List.mem_map_of_mem hMem

theorem IsStorable.isWhole_render {stored : StoredSettings} (h : stored.IsStorable) (hWhole : stored.IsWhole) :
    stored.toJson.render.isWhole = true := by
  refine List.all_eq_true.mpr fun c hMem => ?_
  refine h.writtenWith Json.allowsLayout_not_half (fun content hContent => ?_) 0 c hMem
  exact Json.allowsText_not_half (hWhole content hContent)

/-- Fields without halves of surrogate pairs are saved wherever a file can be written in place. -/
theorem exists_save_eq_ok {path : Path} {stored : StoredSettings} {host : Host} (h : stored.IsStorable)
    (hWhole : stored.IsWhole) (hDisk : host.disk.AcceptsInPlace path) :
    ∃ saved, stored.save path host = .ok () saved := by
  obtain ⟨written, hWrite⟩ := hDisk.exists_ok (h.isWhole_render hWhole)
  rw [save, Host.onDisk_apply, hWrite]
  exact ⟨_, rfl⟩

/-- Saving overwrites the settings file and changes nothing else of the host. -/
theorem save_spec (path : Path) (stored : StoredSettings) (host : Host) :
    match stored.save path host with
    | .error _ after => after = { host with disk := after.disk } ∧
        Disk.OverwritesAt path host.disk after.disk
    | .ok _ after => after = { host with disk := after.disk } ∧
        Disk.OverwritesAt path host.disk after.disk ∧
        ∃ content, Utf8.encode stored.toJson.render = .ok content ∧
          after.disk.locate path = .ok path.place ∧
          after.disk.fileAt path.place = some content := by
  have hDirectories := Disk.keeps_ensureDirectories path.parent host.disk
  unfold save
  rw [Host.onDisk_apply, bind_apply]
  cases hRun : Disk.ensureDirectories path.parent host.disk with
  | error error disk =>
      rw [hRun] at hDirectories
      exact ⟨rfl, .of_growsTo hDirectories.1⟩
  | ok answer disk =>
      rw [hRun] at hDirectories
      have hGrown : Disk.OverwritesAt path host.disk disk := .of_growsTo hDirectories.1
      have hWrite := Disk.writeFile_spec path stored.toJson.render disk
      dsimp only
      cases hWritten : Disk.writeFile path stored.toJson.render disk with
      | error error after =>
          rw [hWritten] at hWrite
          exact ⟨rfl, hGrown.trans hWrite⟩
      | ok answer after =>
          rw [hWritten] at hWrite
          exact ⟨rfl, hGrown.trans hWrite.1, hWrite.2⟩

end StoredSettings

namespace Settings

/-- The settings in the content of a stored file. Content that is no JSON counts as none. -/
def settingsIn [Runtime] (content : Bytes) : Except Failure Settings :=
  match FileText.readStrict content with
  | .error fault => .error (.undecodable fault)
  | .ok text =>
    match Json.readWithin Runtime.settingsDepth text with
    | .ok data => .ok (ofJson data)
    | .error (.malformed ..) => .ok {}
    | .error error => .error (.json error)

/-- The settings that loading finds on a disk. -/
def found [Runtime] (path : Path) (disk : Disk) : Except Failure Settings :=
  match disk.locate path with
  | .ok place =>
    match disk.fileAt place with
    | some content => settingsIn content
    | none => .ok {}
  | .error (.system error) =>
    if error.cause = .missing ∨ error.cause = .notDirectory then .ok {}
    else .error (.disk (.system error))
  | .error _ => .ok {}

/-- Loading answers with what it finds and changes nothing. -/
theorem load_apply [Runtime] (path : Path) (host : Host) :
    load path host = match found path host.disk with
      | .ok settings => .ok settings host
      | .error failure => .error failure host := by
  unfold load found
  rw [bind_apply, Host.onDisk_query_apply, Disk.contains, Disk.status]
  cases hLocate : host.disk.locate path with
  | error error =>
      cases error with
      | nulInPath => rfl
      | unencodable fault => rfl
      | system refusal =>
          dsimp only
          by_cases hCause : refusal.cause = .missing ∨ refusal.cause = .notDirectory
          · rw [if_pos hCause, if_pos hCause]
            rfl
          · rw [if_neg hCause, if_neg hCause]
            rfl
  | ok place =>
      dsimp only [Disk.fileAt]
      cases hNode : host.disk.node? place with
      | none => rfl
      | some node =>
          simp only [Except.map, Option.isSome_some, Bool.not_true, Bool.false_eq_true, if_false,
            bind_apply, Host.attempt_query_apply, Disk.read_of_locate hLocate, hNode]
          cases node with
          | directory => rfl
          | file content =>
              dsimp only [settingsIn]
              cases FileText.readStrict content with
              | error fault => rfl
              | ok text =>
                  dsimp only
                  cases Json.readWithin Runtime.settingsDepth text with
                  | ok data => rfl
                  | error error =>
                      cases error with
                      | malformed reason line column offset => rfl
                      | hugeInteger digits => rfl
                      | tooDeep excess => rfl

/-- Stored settings are read back from the file that they were written to. -/
theorem settingsIn_render [Runtime] {stored : StoredSettings} (h : stored.IsStorable) {content : Bytes}
    (hEncode : Utf8.encode stored.toJson.render = .ok content) :
    settingsIn content = .ok (ofJson stored.toJson) := by
  have hReturn : CodePoint.char '\r' ∉ stored.toJson.render :=
    fun hMem => h.writtenWith Json.allowsLayout_ne_return (fun content _ => Json.allowsText_ne_return content)
      0 _ hMem rfl
  have hStrict : FileText.readStrict content = .ok stored.toJson.render := by
    rw [FileText.readStrict, Utf8.decode_encode hEncode, Except.map, Text.universalNewlines_eq_self hReturn]
  rw [settingsIn, hStrict]
  dsimp only
  rw [Json.readWithin_render h.readsBack]

/-- After settings have been saved, loading finds what they were saved as. -/
theorem found_of_save [Runtime] {path : Path} {stored : StoredSettings} (h : stored.IsStorable) {host saved : Host}
    (hSave : stored.save path host = .ok () saved) :
    found path saved.disk = .ok (ofJson stored.toJson) := by
  have hSpec := stored.save_spec path host
  rw [hSave] at hSpec
  obtain ⟨_, _, content, hEncode, hLocate, hFile⟩ := hSpec
  rw [found, hLocate]
  dsimp only
  rw [hFile]
  exact settingsIn_render h hEncode

/-- The amounts are numbers that can be written and read again. -/
structure IsStorable (settings : Settings) : Prop where
  autosaveDelay : settings.autosaveDelay.toJson.IsScalar
  maxSuggestions : settings.maxSuggestions.toJson.IsScalar
  windowWidth : settings.windowWidth.toJson.IsScalar
  windowHeight : settings.windowHeight.toJson.IsScalar

theorem IsStorable.stored {settings : Settings} (h : settings.IsStorable) : settings.stored.IsStorable where
  lastDirectory := .string _
  autosaveDelay := h.autosaveDelay
  theme := .string _
  previewVisible := .bool _
  maxSuggestions := h.maxSuggestions
  logLevel := .string _
  draftText := .string _
  editingId := .string _
  windowWidth := h.windowWidth
  windowHeight := h.windowHeight

/-- A number with few digits is short enough for the reader. -/
theorem isShort_of_lt {value : Int} (h : value.natAbs < 10 ^ 10) : Json.IsShort value :=
  Nat.lt_of_lt_of_le h (Nat.pow_le_pow_right (by decide) (by decide))

theorem isStorable_default : IsStorable {} where
  autosaveDelay := .int (isShort_of_lt (by decide))
  maxSuggestions := .int (isShort_of_lt (by decide))
  windowWidth := .int (isShort_of_lt (by decide))
  windowHeight := .int (isShort_of_lt (by decide))

/-- An amount that passes its check was read as it is. -/
theorem isScalar_checked {fields : Json.Fields} (hFields : Json.ShortFields fields) (name : Text)
    (low : Int) (high : Option Int) {default : Amount} (hDefault : default.toJson.IsScalar) :
    (checked (Json.field? name (.object fields)) (amountWithin low high) default).toJson.IsScalar := by
  rw [checked, Json.field?]
  cases hLookup : fields.lookup name with
  | none => exact hDefault
  | some value =>
      rw [Option.bind_some]
      cases hAmount : amountWithin low high value with
      | none => exact hDefault
      | some amount =>
          obtain ⟨hOfJson, _⟩ := Option.filter_eq_some_iff.mp hAmount
          obtain ⟨front, back, hSplit, _⟩ := List.lookup_eq_some_iff.mp hLookup
          have hMem : (name, value) ∈ fields := by simp [hSplit]
          cases value with
          | int number =>
              cases hOfJson
              exact .int (hFields _ hMem number rfl)
          | bool flag =>
              cases hOfJson
              exact .bool flag
          | null => cases hOfJson
          | float number => cases hOfJson
          | string content => cases hOfJson
          | array items => cases hOfJson
          | object fields => cases hOfJson

/-- Where settings that are found come from: they are the defaults, or those of a value that was read. -/
theorem found_cases [Runtime] {path : Path} {disk : Disk} {settings : Settings} (h : found path disk = .ok settings) :
    settings = {} ∨ ∃ text data,
      Json.readWithin Runtime.settingsDepth text = .ok data ∧ settings = ofJson data := by
  unfold found settingsIn at h
  split at h
  · split at h
    · split at h
      · cases h
      · next text _ =>
          split at h
          · next data hRead =>
              cases h
              exact .inr ⟨text, data, hRead, rfl⟩
          · cases h
            exact .inl rfl
          · cases h
    · cases h
      exact .inl rfl
  · split at h
    · cases h
      exact .inl rfl
    · cases h
  · cases h
    exact .inl rfl

theorem isStorable_of_readWithin {depth : Nat} {text : Text} {data : Json}
    (h : Json.readWithin depth text = .ok data) :
    (ofJson data).IsStorable := by
  cases data with
  | object fields =>
      have hFields := Json.shortFields_of_readWithin h
      exact ⟨isScalar_checked hFields _ _ _ isStorable_default.autosaveDelay,
        isScalar_checked hFields _ _ _ isStorable_default.maxSuggestions,
        isScalar_checked hFields _ _ _ isStorable_default.windowWidth,
        isScalar_checked hFields _ _ _ isStorable_default.windowHeight⟩
  | null => exact isStorable_default
  | bool value => exact isStorable_default
  | int value => exact isStorable_default
  | float value => exact isStorable_default
  | string text => exact isStorable_default
  | array items => exact isStorable_default

/-- Settings that are loaded can be saved and loaded again. -/
theorem isStorable_of_found [Runtime] {path : Path} {disk : Disk} {settings : Settings}
    (h : found path disk = .ok settings) : settings.IsStorable := by
  rcases found_cases h with rfl | ⟨text, data, hRead, rfl⟩
  · exact isStorable_default
  · exact isStorable_of_readWithin hRead

end Settings

end ScenarioDesk
