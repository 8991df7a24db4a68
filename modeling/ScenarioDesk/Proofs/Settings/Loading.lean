import ScenarioDesk.Proofs.Json.Levels
import ScenarioDesk.Proofs.Settings.RoundTrip
import ScenarioDesk.Proofs.Text.Decoding

/-! Loading the settings from whatever their file holds. The loader handles a text that is no JSON and a
value that is no object; it handles neither bytes that are no text nor a text that the reader refuses for
its limits. -/
namespace ScenarioDesk.Settings

theorem load_of_read [Runtime] {path : Path} {host : Host} {content : Bytes}
    (h : host.disk.read path = .ok content) :
    load path host = match settingsIn content with
      | .ok settings => .ok settings host
      | .error failure => .error failure host := by
  obtain ⟨hLocate, hFile⟩ := Disk.read_eq_ok.mp h
  have hFound : found path host.disk = settingsIn content := by
    rw [found, hLocate]
    dsimp only
    rw [hFile]
  have hLoad := load_apply path host
  rw [hFound] at hLoad
  exact hLoad

/-- Bytes are read as a text exactly if they are the encoding of one. -/
theorem readStrict_of_encode {text : Text} {content : Bytes} (h : Utf8.encode text = .ok content) :
    FileText.readStrict content = .ok text.universalNewlines := by
  rw [FileText.readStrict, Utf8.decode_eq_ok_iff.mpr h]
  rfl

theorem readStrict_of_not_encode {content : Bytes} (h : ∀ text, Utf8.encode text ≠ .ok content) :
    ∃ fault, FileText.readStrict content = .error fault := by
  rw [FileText.readStrict]
  cases hDecode : Utf8.decode content with
  | error fault => exact ⟨fault, rfl⟩
  | ok text => exact absurd (Utf8.decode_eq_ok_iff.mp hDecode) (h text)

section Limits

variable [Runtime]

/-- Within the limits a text gives settings. They are the defaults if it is no object. -/
theorem settingsIn_of_not_beyondLimits {text : Text} {content : Bytes}
    (hText : Utf8.encode text = .ok content)
    (hLimits : ¬ Json.BeyondLimits Runtime.settingsDepth text.universalNewlines) :
    ∃ settings, settingsIn content = .ok settings ∧
      ((∀ fields, Json.read text.universalNewlines ≠ .ok (.object fields)) → settings = {}) := by
  rw [settingsIn, readStrict_of_encode hText, ← Json.readWithin_of_not_beyondLimits hLimits]
  dsimp only
  cases hRead : Json.readWithin Runtime.settingsDepth text.universalNewlines with
  | error error =>
      cases error with
      | malformed reason line column offset => exact ⟨_, rfl, fun _ => rfl⟩
      | hugeInteger digits => exact absurd ⟨_, hRead, rfl⟩ hLimits
      | tooDeep excess => exact absurd ⟨_, hRead, rfl⟩ hLimits
  | ok value =>
      cases value with
      | object fields => exact ⟨_, rfl, fun hNone => absurd rfl (hNone fields)⟩
      | null => exact ⟨_, rfl, fun _ => rfl⟩
      | bool value => exact ⟨_, rfl, fun _ => rfl⟩
      | int value => exact ⟨_, rfl, fun _ => rfl⟩
      | float value => exact ⟨_, rfl, fun _ => rfl⟩
      | string content => exact ⟨_, rfl, fun _ => rfl⟩
      | array items => exact ⟨_, rfl, fun _ => rfl⟩

/-- The bytes are no text, or a text beyond the limits of the reader. -/
def Unloadable (content : Bytes) : Prop :=
  (∀ text, Utf8.encode text ≠ .ok content) ∨
    ∃ text, Utf8.encode text = .ok content ∧ Json.BeyondLimits Runtime.settingsDepth text.universalNewlines

theorem settingsIn_of_unloadable {content : Bytes} (h : Unloadable content) :
    ∃ failure, settingsIn content = .error failure := by
  unfold settingsIn
  rcases h with hNone | ⟨text, hText, error, hRead, hLimit⟩
  · obtain ⟨fault, hStrict⟩ := readStrict_of_not_encode hNone
    rw [hStrict]
    exact ⟨_, rfl⟩
  · rw [readStrict_of_encode hText]
    dsimp only
    rw [hRead]
    cases error with
    | malformed reason line column offset => cases hLimit
    | hugeInteger digits => exact ⟨_, rfl⟩
    | tooDeep excess => exact ⟨_, rfl⟩

theorem unloadable_iff {text : Text} {content : Bytes} (hText : Utf8.encode text = .ok content) :
    Unloadable content ↔ Json.BeyondLimits Runtime.settingsDepth text.universalNewlines := by
  refine ⟨?_, fun hLimits => .inr ⟨text, hText, hLimits⟩⟩
  rintro (hNone | ⟨other, hOther, hLimits⟩)
  · exact absurd hText (hNone text)
  · have hSame := (Utf8.decode_encode hOther).symm.trans (Utf8.decode_encode hText)
    cases hSame
    exact hLimits

/-- Loading the settings from a file that the disk lets be read fails exactly if the bytes are not UTF-8,
or are UTF-8 for a text beyond the limits of the reader with the levels left to it, which a moderate text
never is. In every other case, whatever the text is, loading gives settings and changes nothing. They are
the defaults if the text, whose byte order mark counts as a character, is no object. -/
theorem loading_fails_iff_unloadable {path : Path} {host : Host} {content : Bytes}
    (hFile : host.disk.read path = .ok content) :
    ((∃ failure left, load path host = .error failure left) ↔ Unloadable content) ∧
    ∀ text, Utf8.encode text = .ok content →
      (Json.Moderate Runtime.settingsDepth text.universalNewlines → ¬ Unloadable content) ∧
      (¬ Unloadable content → ∃ settings, load path host = .ok settings host ∧
        ((∀ fields, Json.read text.universalNewlines ≠ .ok (.object fields)) → settings = {})) := by
  have hLoad := load_of_read hFile
  refine ⟨⟨?_, fun hUnloadable => ?_⟩, fun text hText => ⟨?_, fun hLoadable => ?_⟩⟩
  · rintro ⟨failure, left, hFails⟩
    by_contra hLoadable
    obtain ⟨text, hText⟩ := not_forall_not.mp (not_or.mp hLoadable).1
    rw [unloadable_iff hText] at hLoadable
    obtain ⟨settings, hSettings, _⟩ := settingsIn_of_not_beyondLimits hText hLoadable
    rw [hLoad, hSettings] at hFails
    cases hFails
  · obtain ⟨failure, hFailure⟩ := settingsIn_of_unloadable hUnloadable
    rw [hLoad, hFailure]
    exact ⟨_, _, rfl⟩
  · intro hModerate
    rw [unloadable_iff hText]
    exact hModerate.not_beyondLimits
  · rw [unloadable_iff hText] at hLoadable
    obtain ⟨settings, hSettings, hDefaults⟩ := settingsIn_of_not_beyondLimits hText hLoadable
    rw [hLoad, hSettings]
    exact ⟨settings, rfl, hDefaults⟩

end Limits

/-- A settings file with a byte order mark in front of an object. -/
def markedFile : Host :=
  { disk := { nodes := [(["settings.json"], .file [0xEF, 0xBB, 0xBF, 0x7B, 0x7D])] } }

/-- It gives the defaults. -/
theorem marked_file_gives_defaults :
    load ⟨.relative, ["settings.json"]⟩ markedFile = .ok {} markedFile := by
  have hFile : markedFile.disk.read ⟨.relative, ["settings.json"]⟩ =
      .ok [0xEF, 0xBB, 0xBF, 0x7B, 0x7D] := rfl
  have hText : Utf8.encode ['\uFEFF', '\x7b', '\x7d'] = .ok [0xEF, 0xBB, 0xBF, 0x7B, 0x7D] := rfl
  have hLoadable : ¬ Unloadable [0xEF, 0xBB, 0xBF, 0x7B, 0x7D] := by
    rw [unloadable_iff hText]
    decide +kernel
  have hRefused : (Json.read (Text.universalNewlines ['\uFEFF', '\x7b', '\x7d'])).toOption.isNone = true := by
    decide +kernel
  obtain ⟨settings, hLoad, hDefaults⟩ := ((loading_fails_iff_unloadable hFile).2 _ hText).2 hLoadable
  rw [hLoad, hDefaults]
  intro fields hFields
  rw [hFields] at hRefused
  cases hRefused

/-- A settings file of one byte with which no character begins. -/
def undecodableFile : Host := { disk := { nodes := [(["settings.json"], .file [0xFF])] } }

/-- It cannot be loaded. -/
theorem undecodable_file_is_not_loaded :
    ∃ failure left, load ⟨.relative, ["settings.json"]⟩ undecodableFile = .error failure left :=
  ⟨_, _, rfl⟩

end ScenarioDesk.Settings
