import ScenarioDesk.Proofs.Settings.RoundTrip
import ScenarioDesk.Window.Launch

/-! Reading the settings back field by field. Each field has its own rule for which stored values pass
and what they mean; a field keeps what passes its rule and takes its default otherwise, whatever the other
fields hold. What was read passes all rules, so it is restored as it is. -/
namespace ScenarioDesk

theorem Amount.ofJson?_eq_some_iff {stored : Json} {amount : Amount} :
    ofJson? stored = some amount ↔ stored = amount.toJson := by
  constructor
  · intro h
    cases stored with
    | int value =>
        cases h
        rfl
    | bool value =>
        cases h
        rfl
    | null => cases h
    | float value => cases h
    | string content => cases h
    | array items => cases h
    | object fields => cases h
  · rintro rfl
    cases amount with
    | number value => rfl
    | flag value => rfl

theorem LogLevel.named?_eq_some_iff {name : Text} {level : LogLevel} :
    named? name = some level ↔ level.name = name := by
  constructor
  · intro h
    rw [named?] at h
    have hFound := List.find?_some h
    exact of_decide_eq_true hFound
  · rintro rfl
    cases level with
    | debug => rfl
    | info => rfl
    | warning => rfl
    | error => rfl
    | critical => rfl

theorem Theme.named?_eq_some_iff {name : Text} {theme : Theme} :
    named? name = some theme ↔ theme.name = name := by
  constructor
  · intro h
    unfold named? at h
    split at h
    · next hDark =>
        cases h
        exact hDark.symm
    · split at h
      · next hLight =>
          cases h
          exact hLight.symm
      · cases h
  · rintro rfl
    cases theme with
    | dark => rfl
    | light => rfl

namespace Settings

/-! ## The rules -/

/-- A text passes as it is. -/
def PassesText (stored : Json) (text : Text) : Prop := stored = .string text

/-- A truth value passes as it is. -/
def PassesFlag (stored : Json) (flag : Bool) : Prop := stored = .bool flag

/-- The name of a theme passes, in exactly this spelling. -/
def PassesTheme (stored : Json) (theme : Theme) : Prop := stored = .string theme.name

/-- A text passes whose upper case is the name of a level. -/
def PassesLevel (stored : Json) (level : LogLevel) : Prop :=
  ∃ text : Text, stored = .string text ∧ text.upper = level.name

/-- An integer within the bounds passes, and so does a truth value if zero or one, for which it counts,
lies within them. It stays a truth value. -/
def PassesAmount (low : Int) (high : Option Int) (stored : Json) (amount : Amount) : Prop :=
  stored = amount.toJson ∧ low ≤ amount.value ∧ ∀ most ∈ high, amount.value ≤ most

/-- The check finds the value that passes the rule, if there is one. -/
def Decides {α : Type} (check : Json → Option α) (passes : Json → α → Prop) : Prop :=
  ∀ stored value, check stored = some value ↔ passes stored value

theorem decides_text : Decides Json.text? PassesText := fun _ _ => Json.text?_eq_some_iff

theorem decides_flag : Decides Json.bool? PassesFlag := fun _ _ => Json.bool?_eq_some_iff

theorem decides_theme : Decides (fun stored => stored.text?.bind Theme.named?) PassesTheme := by
  intro stored theme
  rw [Option.bind_eq_some_iff]
  constructor
  · rintro ⟨text, hText, hTheme⟩
    rw [PassesTheme, Theme.named?_eq_some_iff.mp hTheme]
    exact Json.text?_eq_some_iff.mp hText
  · intro h
    exact ⟨theme.name, Json.text?_eq_some_iff.mpr h, Theme.named?_eq_some_iff.mpr rfl⟩

theorem decides_level : Decides (fun stored => stored.text?.bind LogLevel.ofText?) PassesLevel := by
  intro stored level
  rw [Option.bind_eq_some_iff]
  constructor
  · rintro ⟨text, hText, hLevel⟩
    exact ⟨text, Json.text?_eq_some_iff.mp hText, (LogLevel.named?_eq_some_iff.mp hLevel).symm⟩
  · rintro ⟨text, hText, hLevel⟩
    exact ⟨text, Json.text?_eq_some_iff.mpr hText, LogLevel.named?_eq_some_iff.mpr hLevel.symm⟩

theorem decides_amount (low : Int) (high : Option Int) :
    Decides (amountWithin low high) (PassesAmount low high) := by
  intro stored amount
  rw [amountWithin, Option.filter_eq_some_iff, Amount.ofJson?_eq_some_iff]
  refine and_congr_right fun _ => ?_
  rw [Bool.and_eq_true, decide_eq_true_eq, Option.all_eq_true]
  simp only [decide_eq_true_eq, Option.mem_def]

/-! ## The fields -/

/-- The value is what passes the rule of the field, or the default if nothing does. -/
def IsTaken {α : Type} (passes : Json → α → Prop) (stored : Json) (default value : α) : Prop :=
  passes stored value ∨ (∀ other, ¬ passes stored other) ∧ value = default

theorem isTaken_checked {α : Type} {check : Json → Option α} {passes : Json → α → Prop}
    (h : Decides check passes) (stored : Json) (default : α) :
    IsTaken passes stored default (checked (some stored) check default) := by
  rw [checked, Option.bind_some]
  cases hCheck : check stored with
  | some value => exact .inl ((h stored value).mp hCheck)
  | none =>
      refine .inr ⟨fun other hPasses => ?_, rfl⟩
      rw [(h stored other).mpr hPasses] at hCheck
      cases hCheck

/-- A field holds one value only. -/
theorem IsTaken.unique {α : Type} {check : Json → Option α} {passes : Json → α → Prop}
    (h : Decides check passes) {stored : Json} {default first second : α}
    (hFirst : IsTaken passes stored default first) (hSecond : IsTaken passes stored default second) :
    first = second := by
  rcases hFirst with hFirst | ⟨hNone, rfl⟩
  · rcases hSecond with hSecond | ⟨hNone, _⟩
    · exact Option.some.inj (((h _ _).mpr hFirst).symm.trans ((h _ _).mpr hSecond))
    · exact absurd hFirst (hNone _)
  · rcases hSecond with hSecond | ⟨_, rfl⟩
    · exact absurd hSecond (hNone _)
    · rfl

/-- Every field of the settings is taken from the stored field of its name and from no other. -/
structure RestoredFrom (stored : StoredSettings) (settings : Settings) : Prop where
  lastDirectory : IsTaken PassesText stored.lastDirectory [] settings.lastDirectory
  autosaveDelay :
    IsTaken (PassesAmount 100 none) stored.autosaveDelay (.number 1200) settings.autosaveDelay
  theme : IsTaken PassesTheme stored.theme .dark settings.theme
  previewVisible : IsTaken PassesFlag stored.previewVisible true settings.previewVisible
  maxSuggestions :
    IsTaken (PassesAmount 1 (some 50)) stored.maxSuggestions (.number 8) settings.maxSuggestions
  logLevel : IsTaken PassesLevel stored.logLevel .warning settings.logLevel
  draftText : IsTaken PassesText stored.draftText [] settings.draftText
  editingId : IsTaken PassesText stored.editingId [] settings.editingId
  windowWidth :
    IsTaken (PassesAmount 640 (some 7680)) stored.windowWidth (.number 1180) settings.windowWidth
  windowHeight :
    IsTaken (PassesAmount 480 (some 4320)) stored.windowHeight (.number 760) settings.windowHeight

theorem restoredFrom_ofJson (stored : StoredSettings) : RestoredFrom stored (ofJson stored.toJson) where
  lastDirectory := isTaken_checked decides_text stored.lastDirectory []
  autosaveDelay := isTaken_checked (decides_amount 100 none) stored.autosaveDelay _
  theme := isTaken_checked decides_theme stored.theme _
  previewVisible := isTaken_checked decides_flag stored.previewVisible _
  maxSuggestions := isTaken_checked (decides_amount 1 (some 50)) stored.maxSuggestions _
  logLevel := isTaken_checked decides_level stored.logLevel _
  draftText := isTaken_checked decides_text stored.draftText _
  editingId := isTaken_checked decides_text stored.editingId _
  windowWidth := isTaken_checked (decides_amount 640 (some 7680)) stored.windowWidth _
  windowHeight := isTaken_checked (decides_amount 480 (some 4320)) stored.windowHeight _

/-- The amounts of the settings pass their rules. -/
structure Passes (settings : Settings) : Prop where
  autosaveDelay : PassesAmount 100 none settings.autosaveDelay.toJson settings.autosaveDelay
  maxSuggestions : PassesAmount 1 (some 50) settings.maxSuggestions.toJson settings.maxSuggestions
  windowWidth : PassesAmount 640 (some 7680) settings.windowWidth.toJson settings.windowWidth
  windowHeight : PassesAmount 480 (some 4320) settings.windowHeight.toJson settings.windowHeight

theorem passes_default : Passes {} where
  autosaveDelay := ⟨rfl, by decide, nofun⟩
  maxSuggestions := ⟨rfl, by decide, by decide⟩
  windowWidth := ⟨rfl, by decide, by decide⟩
  windowHeight := ⟨rfl, by decide, by decide⟩

theorem passesAmount_checked {low : Int} {high : Option Int} {default : Amount}
    (hDefault : PassesAmount low high default.toJson default) (stored : Option Json) :
    PassesAmount low high (checked stored (amountWithin low high) default).toJson
      (checked stored (amountWithin low high) default) := by
  cases stored with
  | none => exact hDefault
  | some value =>
      rcases isTaken_checked (decides_amount low high) value default with hPasses | ⟨_, hSame⟩
      · exact ⟨rfl, hPasses.2⟩
      · rw [hSame]
        exact hDefault

theorem passes_ofJson (data : Json) : (ofJson data).Passes := by
  cases data with
  | object fields =>
      exact ⟨passesAmount_checked passes_default.autosaveDelay _,
        passesAmount_checked passes_default.maxSuggestions _,
        passesAmount_checked passes_default.windowWidth _,
        passesAmount_checked passes_default.windowHeight _⟩
  | null => exact passes_default
  | bool value => exact passes_default
  | int value => exact passes_default
  | float value => exact passes_default
  | string text => exact passes_default
  | array items => exact passes_default

theorem passes_of_found [Runtime] {path : Path} {disk : Disk} {settings : Settings}
    (h : found path disk = .ok settings) : settings.Passes := by
  rcases found_cases h with rfl | ⟨_, data, _, rfl⟩
  · exact passes_default
  · exact passes_ofJson data

/-- The stored fields determine the settings. -/
theorem RestoredFrom.unique {stored : StoredSettings} {first second : Settings}
    (hFirst : RestoredFrom stored first) (hSecond : RestoredFrom stored second) : first = second := by
  have hDirectory := hFirst.lastDirectory.unique decides_text hSecond.lastDirectory
  have hDelay := hFirst.autosaveDelay.unique (decides_amount 100 none) hSecond.autosaveDelay
  have hTheme := hFirst.theme.unique decides_theme hSecond.theme
  have hPreview := hFirst.previewVisible.unique decides_flag hSecond.previewVisible
  have hMost := hFirst.maxSuggestions.unique (decides_amount 1 (some 50)) hSecond.maxSuggestions
  have hLevel := hFirst.logLevel.unique decides_level hSecond.logLevel
  have hDraft := hFirst.draftText.unique decides_text hSecond.draftText
  have hEditing := hFirst.editingId.unique decides_text hSecond.editingId
  have hWidth := hFirst.windowWidth.unique (decides_amount 640 (some 7680)) hSecond.windowWidth
  have hHeight := hFirst.windowHeight.unique (decides_amount 480 (some 4320)) hSecond.windowHeight
  cases first
  cases second
  rw [Settings.mk.injEq]
  exact ⟨hDirectory, hDelay, hTheme, hPreview, hMost, hLevel, hDraft, hEditing, hWidth, hHeight⟩

theorem passesLevel_name (level : LogLevel) : PassesLevel (.string level.name) level := by
  refine ⟨level.name, rfl, ?_⟩
  cases level with
  | debug => decide
  | info => decide
  | warning => decide
  | error => decide
  | critical => decide

/-- Settings that pass are taken over as they are. -/
theorem Passes.restoredFrom {settings : Settings} (h : settings.Passes) :
    RestoredFrom settings.stored settings where
  lastDirectory := .inl rfl
  autosaveDelay := .inl h.autosaveDelay
  theme := .inl rfl
  previewVisible := .inl rfl
  maxSuggestions := .inl h.maxSuggestions
  logLevel := .inl (passesLevel_name settings.logLevel)
  draftText := .inl rfl
  editingId := .inl rfl
  windowWidth := .inl h.windowWidth
  windowHeight := .inl h.windowHeight

/-! ## Saving and loading -/

theorem load_of_save [Runtime] {path : Path} {stored : StoredSettings} (h : stored.IsStorable) {host saved : Host}
    (hSave : stored.save path host = .ok () saved) :
    load path saved = .ok (ofJson stored.toJson) saved := by
  rw [load_apply, found_of_save h hSave]

/-- With the level of any settings, whatever the override is, one of the five levels is resolved and
used. -/
theorem exists_level (settings : Settings) (override : Option Text) :
    ∃ level : LogLevel, LogLevel.resolve override settings.stored.logLevel = .number level.number ∧
      Launch.levelToUse override settings.stored.logLevel = .ok level.number := by
  unfold Launch.levelToUse LogLevel.resolve
  cases LogLevel.ofText? (Text.trim (override.getD [])) with
  | some level => exact ⟨level, rfl, rfl⟩
  | none =>
      have hNumber : LogLevel.ofStored settings.stored.logLevel = .number settings.logLevel.number :=
        LogLevel.ofName_name settings.logLevel
      dsimp only
      rw [hNumber]
      exact ⟨settings.logLevel, rfl, rfl⟩

/-- Saving and loading settings whose ten fields are strings, truth values and integers that are not too
long. They are saved wherever a file can be written in place, if their strings hold no half of a surrogate
pair on its own. After any save that succeeds, loading gives settings in which each field is taken from
its stored field, by its own rule. So settings that were themselves loaded are given back exactly, and
with any of these and any override one of the five log levels is used. -/
theorem each_field_is_restored [Runtime] (path : Path) :
    (∀ (stored : StoredSettings) (host : Host), stored.IsStorable →
      (stored.IsWhole → host.disk.AcceptsInPlace path → ∃ saved, stored.save path host = .ok () saved) ∧
      ∀ saved, stored.save path host = .ok () saved →
        ∃ settings, load path saved = .ok settings saved ∧ RestoredFrom stored settings) ∧
    ∀ (source : Path) (before left : Host) (settings : Settings),
      load source before = .ok settings left →
      (∀ host : Host, settings.stored.IsWhole → host.disk.AcceptsInPlace path →
        ∃ saved, settings.stored.save path host = .ok () saved) ∧
      (∀ host saved, settings.stored.save path host = .ok () saved →
        load path saved = .ok settings saved) ∧
      ∀ override, ∃ level : LogLevel,
        LogLevel.resolve override settings.stored.logLevel = .number level.number ∧
          Launch.levelToUse override settings.stored.logLevel = .ok level.number := by
  refine ⟨fun stored host hStorable => ⟨StoredSettings.exists_save_eq_ok hStorable, fun saved hSave => ?_⟩,
    fun source before left settings hLoad => ?_⟩
  · exact ⟨_, load_of_save hStorable hSave, restoredFrom_ofJson stored⟩
  · have hFound : found source before.disk = .ok settings := by
      rw [load_apply] at hLoad
      split at hLoad
      · next hFound =>
          cases hLoad
          exact hFound
      · cases hLoad
    have hStorable := (isStorable_of_found hFound).stored
    have hSame : ofJson settings.stored.toJson = settings :=
      (restoredFrom_ofJson settings.stored).unique (passes_of_found hFound).restoredFrom
    refine ⟨fun host => StoredSettings.exists_save_eq_ok hStorable, fun host saved hSave => ?_,
      exists_level settings⟩
    rw [load_of_save hStorable hSave, hSame]

/-- Fields of the wrong kinds, a truth value for two of the amounts, a level whose spelling has a dotless
letter, and an integer of two hundred and one digits. -/
def oddFields : StoredSettings where
  lastDirectory := .bool true
  autosaveDelay := .bool true
  theme := .string "Light"
  previewVisible := .int 1
  maxSuggestions := .bool true
  logLevel := .string "ınfo"
  draftText := .string ['"', '\\', '\x00', '\r', '\n', '😀']
  editingId := .int (-7)
  windowWidth := .int (10 ^ 200 : Nat)
  windowHeight := .int 480

/-- They are saved on an empty disk and loaded. The truth value is kept where one lies within the bounds,
and the level is found. -/
theorem odd_fields_are_restored :
    ∃ saved settings, oddFields.save ⟨.relative, ["config", "settings.json"]⟩ {} = .ok () saved ∧
      load ⟨.relative, ["config", "settings.json"]⟩ saved = .ok settings saved ∧
      settings.lastDirectory = [] ∧ settings.maxSuggestions = .flag true ∧ settings.logLevel = .info ∧
      settings.windowHeight = .number 480 := by
  have hStorable : oddFields.IsStorable := by
    refine ⟨.bool _, .bool _, .string _, .int (isShort_of_lt (by decide)), .bool _, .string _, .string _,
      .int (isShort_of_lt (by decide)), .int ?_, .int (isShort_of_lt (by decide))⟩
    exact Nat.pow_lt_pow_right (by decide) (by decide)
  have hWhole : oddFields.IsWhole := by
    intro content hContent
    simp only [StoredSettings.values, oddFields, List.mem_cons, Json.string.injEq, reduceCtorEq, false_or,
      or_false, List.not_mem_nil] at hContent
    rcases hContent with rfl | rfl | rfl
    all_goals decide
  have hDisk : Disk.AcceptsInPlace {} ⟨.relative, ["config", "settings.json"]⟩ := ⟨_, rfl⟩
  obtain ⟨hFields, _⟩ := each_field_is_restored ⟨.relative, ["config", "settings.json"]⟩
  obtain ⟨hSaved, hRestored⟩ := hFields oddFields {} hStorable
  obtain ⟨saved, hSave⟩ := hSaved hWhole hDisk
  obtain ⟨settings, hLoad, hTaken⟩ := hRestored saved hSave
  refine ⟨saved, settings, hSave, hLoad, ?_, ?_, ?_, ?_⟩
  · refine hTaken.lastDirectory.unique decides_text (.inr ⟨?_, rfl⟩)
    rintro other ⟨⟩
  · exact hTaken.maxSuggestions.unique (decides_amount 1 (some 50)) (.inl ⟨rfl, by decide, by decide⟩)
  · exact hTaken.logLevel.unique decides_level (.inl ⟨_, rfl, by decide +kernel⟩)
  · exact hTaken.windowHeight.unique (decides_amount 480 (some 4320)) (.inl ⟨rfl, by decide, by decide⟩)

end Settings

end ScenarioDesk
