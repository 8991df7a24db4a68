import ScenarioDesk.Proofs.Json.Characters
import ScenarioDesk.Proofs.Json.RoundTrip
import ScenarioDesk.Proofs.Store.Loading
import ScenarioDesk.Proofs.Text.Encoding

/-! Saving and loading. A stored collection passes through the escapes of its strings, the encoding, and
on the way back the byte order mark and the line ends; none of these stages meets anything that an
earlier one wrote and that it would change. -/
namespace ScenarioDesk

namespace Json

theorem exists_char_of_isPlain {c : CodePoint} (h : IsPlain c) :
    ∃ char : Char, c = .char char ∧ char.toNat < 0x80 := by
  cases c with
  | char char => exact ⟨char, rfl, h.2⟩
  | half index =>
      have hNumber := h.2
      rw [CodePoint.number, CodePoint.firstHalf] at hNumber
      omega

/-- No half of a surrogate pair stands between strings. -/
theorem allowsLayout_not_half : AllowsLayout (fun c => (!c.isHalf) = true) := by
  intro c hPlain
  cases c with
  | char char => rfl
  | half index =>
      rcases hPlain with hNewline | hPlain
      · cases hNewline
      · obtain ⟨char, hChar, _⟩ := exists_char_of_isPlain hPlain
        cases hChar

theorem allowsText_not_half {text : Text} (h : text.isWhole = true) :
    AllowsText (fun c => (!c.isHalf) = true) text :=
  fun c hMem _ => List.all_eq_true.mp h c hMem

/-- A stored value is read back from its file, if it is written without carriage returns. -/
theorem readWithin_stored {depth : Nat} {value : Json} {content : Bytes} (hValue : ReadsBack depth value)
    (hReturn : WrittenWith (· ≠ .char '\r') value)
    (hEncode : Utf8.encode value.render = .ok content) :
    readWithin depth (FileText.read content) = .ok value := by
  obtain ⟨c, more, hText, hPlain, _⟩ := hValue.starts 0
  obtain ⟨char, rfl, hFirst⟩ := exists_char_of_isPlain hPlain
  have hRender : value.render = .char char :: more := hText
  have hReturns : CodePoint.char '\r' ∉ (.char char :: more : Text) := by
    intro hMem
    rw [← hText] at hMem
    exact hReturn 0 _ hMem rfl
  have hRead := readWithin_render hValue
  rw [hRender] at hEncode hRead
  rw [FileText.read_of_encode hFirst hReturns hEncode, hRead]

end Json

/-- The texts of the scenarios hold no half of a surrogate pair on its own. -/
def Collection.IsWhole (scenarios : Collection) : Prop := ∀ scenario ∈ scenarios,
  scenario.id.isWhole = true ∧ scenario.title.isWhole = true ∧ scenario.content.isWhole = true

namespace Store

/-- The stored form of a collection is read back, whatever its texts hold: it has two levels. -/
theorem readsBack_stored [Runtime] (scenarios : Collection) :
    Json.ReadsBack Runtime.storeDepth (.array (scenarios.map Scenario.toJson)) := by
  obtain ⟨depth, hDepth⟩ := Nat.exists_eq_add_of_le' Runtime.two_le_storeDepth
  rw [hDepth]
  refine Json.readsBack_array fun item hItem => ?_
  obtain ⟨scenario, _, rfl⟩ := List.mem_map.mp hItem
  have hNames : (["id", "title", "content"] : List Text).Nodup := by decide
  refine Json.readsBack_object hNames fun field hField => ?_
  rcases List.mem_cons.mp hField with rfl | hField
  · exact Json.readsBack_string _ _
  rcases List.mem_cons.mp hField with rfl | hField
  · exact Json.readsBack_string _ _
  rw [List.mem_singleton.mp hField]
  exact Json.readsBack_string _ _

/-- The stored form of a collection is written with the code points of its texts. -/
theorem writtenWith_stored {allowed : CodePoint → Prop} (hLayout : Json.AllowsLayout allowed)
    {scenarios : Collection} (hTexts : ∀ scenario ∈ scenarios, Json.AllowsText allowed scenario.id ∧
      Json.AllowsText allowed scenario.title ∧ Json.AllowsText allowed scenario.content) :
    Json.WrittenWith allowed (.array (scenarios.map Scenario.toJson)) := by
  refine Json.writtenWith_array hLayout fun item hItem => ?_
  obtain ⟨scenario, hMem, rfl⟩ := List.mem_map.mp hItem
  obtain ⟨hId, hTitle, hContent⟩ := hTexts scenario hMem
  have hName : ∀ name : Text, (∀ c ∈ name, Json.IsPlain c) → Json.AllowsText allowed name :=
    fun name hPlain c hMem _ => hLayout c (.inr (hPlain c hMem))
  refine Json.writtenWith_object hLayout fun field hField => ?_
  rcases List.mem_cons.mp hField with rfl | hField
  · exact ⟨hName "id" (by decide), Json.writtenWith_string hLayout hId⟩
  rcases List.mem_cons.mp hField with rfl | hField
  · exact ⟨hName "title" (by decide), Json.writtenWith_string hLayout hTitle⟩
  rw [List.mem_singleton.mp hField]
  exact ⟨hName "content" (by decide), Json.writtenWith_string hLayout hContent⟩

/-- The entries of a collection can be shown, those included that are not loaded again. -/
theorem not_isUnreportable_of_mem_stored [Runtime] (scenarios : Collection) :
    ¬ ∃ entry ∈ scenarios.map Scenario.toJson, IsUnreportable entry := by
  rintro ⟨entry, hEntry, hUnreportable⟩
  obtain ⟨scenario, _, rfl⟩ := List.mem_map.mp hEntry
  have hLevels : scenario.toJson.levels = 2 := rfl
  have hDeep := hUnreportable.deep
  have hShown := Runtime.two_le_shownDepth
  omega

theorem scenariosIn_render [Runtime] {scenarios : Collection} {content : Bytes}
    (h : Utf8.encode (render scenarios) = .ok content) :
    scenariosIn content = .ok scenarios.kept := by
  have hReturn : Json.WrittenWith (· ≠ .char '\r') (.array (scenarios.map Scenario.toJson)) :=
    writtenWith_stored Json.allowsLayout_ne_return fun scenario _ =>
      ⟨Json.allowsText_ne_return _, Json.allowsText_ne_return _, Json.allowsText_ne_return _⟩
  rw [scenariosIn, Json.readWithin_stored (readsBack_stored scenarios) hReturn h]
  dsimp only
  rw [if_neg (not_isUnreportable_of_mem_stored scenarios)]
  exact congrArg Except.ok (accepted_map_toJson scenarios)

theorem isWhole_render {scenarios : Collection} (h : scenarios.IsWhole) :
    (render scenarios).isWhole = true := by
  refine List.all_eq_true.mpr fun c hMem => ?_
  refine writtenWith_stored Json.allowsLayout_not_half (fun scenario hScenario => ?_) 0 c hMem
  obtain ⟨hId, hTitle, hContent⟩ := h scenario hScenario
  exact ⟨Json.allowsText_not_half hId, Json.allowsText_not_half hTitle, Json.allowsText_not_half hContent⟩

/-- Halves in the texts of a collection go into its stored form, which can then not be encoded. -/
theorem isWhole_of_render {scenarios : Collection} (h : (render scenarios).isWhole = true) :
    scenarios.IsWhole := by
  intro scenario hScenario
  have hText : ∀ name content : Text, (name, Json.string content) ∈ ([("id", .string scenario.id),
      ("title", .string scenario.title), ("content", .string scenario.content)] : List (Text × Json)) →
      content.isWhole = true := by
    intro name content hField
    refine List.all_eq_true.mpr fun c hMem => ?_
    cases hHalf : c.isHalf with
    | false => rfl
    | true =>
        have hShown : Json.Shows c scenario.toJson :=
          Json.shows_object hField (Json.shows_string hHalf hMem)
        have hRender := Json.shows_array (List.mem_map_of_mem hScenario) hShown 0
        have hWhole := List.all_eq_true.mp h c hRender
        rwa [hHalf] at hWhole
  exact ⟨hText "id" _ (by simp), hText "title" _ (by simp), hText "content" _ (by simp)⟩

section Saving

variable [Runtime]

/-- A collection is stored exactly if its texts hold no halves and a file can be written at the path. -/
theorem exists_write_eq_ok_iff {path : Path} {scenarios : Collection} {disk : Disk} :
    (∃ written, Disk.writeAtomically path (render scenarios) disk = .ok () written) ↔
      scenarios.IsWhole ∧ disk.Accepts path := by
  constructor
  · rintro ⟨written, hWrite⟩
    obtain ⟨content, hEncode, _⟩ := Disk.writeAtomically_ok hWrite
    refine ⟨isWhole_of_render ?_, Disk.writeAtomically_ok_of_ok (rfl : Utf8.encode [] = .ok []) hWrite⟩
    rw [← Utf8.isOk_encode, hEncode]
    rfl
  · rintro ⟨hWhole, hDisk⟩
    exact hDisk.exists_ok (isWhole_render hWhole)

theorem found_of_save {path : Path} {scenarios : Collection} {host saved : Host}
    (h : save path scenarios host = .ok () saved) : found path saved.disk = .ok scenarios.kept := by
  rw [save_apply] at h
  cases hWrite : Disk.writeAtomically path (render scenarios) host.disk with
  | error error disk =>
      rw [hWrite] at h
      cases h
  | ok answer disk =>
      rw [hWrite] at h
      cases h
      obtain ⟨content, hEncode, hWrote⟩ := Disk.writeAtomically_ok hWrite
      rw [(found_of_wrote hWrote).1, scenariosIn_render hEncode]

/-- A collection without halves is saved wherever a file can be written. -/
theorem exists_save_eq_ok {path : Path} {scenarios : Collection} {host : Host}
    (hWhole : scenarios.IsWhole) (hDisk : host.disk.Accepts path) :
    ∃ saved, save path scenarios host = .ok () saved := by
  obtain ⟨written, hWrite⟩ := exists_write_eq_ok_iff.mpr ⟨hWhole, hDisk⟩
  rw [save_apply, hWrite]
  exact ⟨_, rfl⟩

/-- Loading gives certain scenarios back after any save of a collection that succeeds. -/
def Restores (path : Path) (scenarios : Collection) (host : Host) (result : Collection) : Prop :=
  ∀ saved, save path scenarios host = .ok () saved →
    ∃ loaded, load path saved = .ok result loaded

/-- Saving and loading. A collection without halves of surrogate pairs is saved wherever a file can be
written at all. Loading what was saved gives, in order, the scenarios with an id and a content that is
not blank, of those with one id the first, each as it was but for a title taken from its content where
its own was blank. So everything is restored of a collection in which ids are distinct and not empty
and neither titles nor contents are blank, and everything of a collection that was itself loaded. -/
theorem save_load_round_trip (path : Path) (scenarios : Collection) (host : Host) :
    (scenarios.IsWhole → host.disk.Accepts path →
      ∃ saved, save path scenarios host = .ok () saved) ∧
    Restores path scenarios host scenarios.kept ∧
    (scenarios.Sound → Restores path scenarios host scenarios) ∧
    (∀ source earlier, load source earlier = .ok scenarios host →
      Restores path scenarios host scenarios) := by
  have hKept : Restores path scenarios host scenarios.kept :=
    fun saved hSave => exists_load_eq_ok (found_of_save hSave)
  have hSound : scenarios.Sound → Restores path scenarios host scenarios := by
    intro hSound
    rwa [Collection.kept_of_sound hSound] at hKept
  refine ⟨exists_save_eq_ok, hKept, hSound, ?_⟩
  intro source earlier hLoad
  exact hSound (found_sound (load_eq_ok hLoad).1)

end Saving

/-- A collection with a blank title, quotes, a backslash, line ends of every kind, a scenario without
an id and one whose id is taken. -/
def mixed : Collection :=
  [⟨"1", " ", "Scenario: \"A\"\r\n\\"⟩, ⟨"", "B", "Given b"⟩, ⟨"1", "C", "Given c"⟩,
    ⟨"2", "\r", "\x00\uFEFF😀"⟩]

/-- Two of its scenarios come back from an empty disk. -/
theorem mixed_is_restored :
    ∃ saved loaded, save ⟨.relative, ["scenarios.json"]⟩ mixed {} = .ok () saved ∧
      load ⟨.relative, ["scenarios.json"]⟩ saved =
        .ok [⟨"1", "\"A\"", "Scenario: \"A\"\r\n\\"⟩,
          ⟨"2", "Untitled Scenario", "\x00\uFEFF😀"⟩] loaded := by
  obtain ⟨hSave, hLoad, _, _⟩ := save_load_round_trip ⟨.relative, ["scenarios.json"]⟩ mixed {}
  have hWhole : Collection.IsWhole mixed := by
    unfold Collection.IsWhole
    decide +kernel
  obtain ⟨saved, hSaved⟩ := hSave hWhole ⟨_, rfl⟩
  obtain ⟨loaded, hLoaded⟩ := hLoad saved hSaved
  have hKept : Collection.kept mixed = [⟨"1", "\"A\"", "Scenario: \"A\"\r\n\\"⟩,
      ⟨"2", "Untitled Scenario", "\x00\uFEFF😀"⟩] := by decide +kernel
  rw [hKept] at hLoaded
  exact ⟨saved, loaded, hSaved, hLoaded⟩

end Store

end ScenarioDesk
