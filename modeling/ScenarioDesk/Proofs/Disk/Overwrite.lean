import ScenarioDesk.Proofs.Disk.AtomicWrite

/-! What overwriting a file in place does to the disk. Wherever it stops, no other file differs. The file
itself may be left empty or cut short, but where the write succeeds it holds the whole text. -/
namespace ScenarioDesk.Disk

/-- Things stay what they are, and no file differs but the one at the place of the path. There may be
more directories. -/
structure OverwritesAt (path : Path) (before after : Disk) : Prop where
  keepsKinds : before.KeepsKinds after
  others : ∀ place, place ≠ path.place → after.fileAt place = before.fileAt place

namespace OverwritesAt

variable {path : Path}

theorem of_growsTo {before after : Disk} (h : before.GrowsTo after) : OverwritesAt path before after :=
  ⟨h.keepsKinds, fun place _ => h.fileAt_eq place⟩

theorem trans {first second third : Disk} (hFirst : OverwritesAt path first second)
    (hSecond : OverwritesAt path second third) : OverwritesAt path first third :=
  ⟨hFirst.keepsKinds.trans hSecond.keepsKinds,
    fun place hPlace => (hSecond.others place hPlace).trans (hFirst.others place hPlace)⟩

/-- A file is put where no directory is. -/
theorem of_put {before after : Disk} {content : Bytes} (hNode : before.node? path.place ≠ some .directory)
    (hNodes : after.nodes = (before.put path.place (.file content)).nodes) :
    OverwritesAt path before after := by
  refine ⟨keepsKinds_of_put_file hNode hNodes, fun place hPlace => ?_⟩
  rw [fileAt, fileAt, node?_of_put_ne hNodes hPlace]

end OverwritesAt

theorem fileAt_of_put {before after : Disk} {place : Place} {content : Bytes} (hPlace : place ≠ [])
    (hNodes : after.nodes = (before.put place (.file content)).nodes) :
    after.fileAt place = some content := fileAt_eq_some.mpr (node?_of_put hNodes hPlace)

/-- Opening a file empties it if it succeeds, and does nothing otherwise. -/
theorem openEmpty_spec (path : Path) (before : Disk) :
    match openEmpty path before with
    | .error _ after => after.nodes = before.nodes
    | .ok place after => place = path.place ∧ before.locate path = .ok path.place ∧
        before.node? path.place ≠ some .directory ∧
        after.nodes = (before.put path.place (.file [])).nodes := by
  unfold openEmpty
  rw [bind_apply, query_apply]
  cases hLocate : before.locate path with
  | error error => rfl
  | ok place =>
      obtain rfl := eq_place_of_locate hLocate
      simp only [bind_apply, get_apply]
      by_cases hNode : before.node? path.place = some .directory
      · rw [if_pos hNode]
        rfl
      · rw [if_neg hNode]
        obtain ⟨answer, others, hVerdict⟩ := verdict_apply before
        simp only [askDevice, bind_apply, hVerdict]
        cases answer with
        | some fault => rfl
        | none => exact ⟨rfl, trivial, hNode, rfl⟩

/-- Exactly a place that is no directory is opened, which costs one step of the device. -/
theorem openEmpty_eq_ok {path : Path} {place : Place} {disk opened : Disk} :
    openEmpty path disk = .ok place opened ↔
      place = path.place ∧ disk.locate path = .ok path.place ∧ disk.node? path.place ≠ some .directory ∧
        disk.Grants 1 ∧
        opened = { disk.put path.place (.file []) with verdicts := disk.verdicts.tail } := by
  unfold openEmpty askDevice
  rw [bind_apply, query_apply, grants_succ]
  cases hLocate : disk.locate path with
  | error error => simp
  | ok other =>
      obtain rfl := eq_place_of_locate hLocate
      simp only [bind_apply, get_apply]
      by_cases hNode : disk.node? path.place = some .directory
      · simp only [hNode, if_true, fail, bind_apply, throw_apply]
        simp
      · simp only [if_neg hNode, bind_apply, verdict_eq]
        cases disk.verdicts.headD none with
        | none => simp [pure_apply, modify_apply, grants_zero, hNode, put, eq_comm]
        | some fault => simp [fail, throw_apply]

/-- What is written to a file that was opened goes where the emptied file lies. -/
theorem written_spec {path : Path} {before opened : Disk}
    (hLocate : before.locate path = .ok path.place) (hNode : before.node? path.place ≠ some .directory)
    (hOpened : opened.nodes = (before.put path.place (.file [])).nodes) (content : Bytes)
    (others : List (Option DeviceFault)) {after : Disk}
    (hAfter : after = { opened with verdicts := others }.put path.place (.file content)) :
    OverwritesAt path before after ∧ after.locate path = .ok path.place ∧
      after.fileAt path.place = some content := by
  have hPlace : path.place ≠ [] := by
    intro hRoot
    rw [hRoot] at hNode
    exact hNode rfl
  have hNodes : after.nodes = (opened.put path.place (.file content)).nodes := by
    rw [hAfter]
    rfl
  have hEmptied := fileAt_eq_some.mp (fileAt_of_put hPlace hOpened)
  have hOver : OverwritesAt path before after :=
    (OverwritesAt.of_put hNode hOpened).trans (.of_put (by rw [hEmptied]; exact nofun) hNodes)
  refine ⟨hOver, ?_, fileAt_of_put hPlace hNodes⟩
  rw [locate_of_keepsKinds hOver.keepsKinds, hLocate]
  rw [hLocate]
  exact nofun

/-- Overwriting a file touches no other one, and where it succeeds the path leads to the whole text. -/
theorem writeFile_spec (path : Path) (text : Text) (before : Disk) :
    match writeFile path text before with
    | .error _ after => OverwritesAt path before after
    | .ok _ after => OverwritesAt path before after ∧
        ∃ content, Utf8.encode text = .ok content ∧ after.locate path = .ok path.place ∧
          after.fileAt path.place = some content := by
  have hOpen := openEmpty_spec path before
  unfold writeFile
  rw [bind_apply]
  cases hRun : openEmpty path before with
  | error error after =>
      rw [hRun] at hOpen
      exact .of_growsTo (.of_nodes hOpen)
  | ok place opened =>
      rw [hRun] at hOpen
      obtain ⟨rfl, hLocate, hNode, hNodes⟩ := hOpen
      unfold encode
      cases hEncode : Utf8.encode text with
      | error fault => exact .of_put hNode hNodes
      | ok content =>
          obtain ⟨others, hTransfer | ⟨written, cause, hTransfer⟩⟩ := transfer_apply content opened
          · simp only [bind_apply, pure_apply, hTransfer, modify_apply, failFor]
            obtain ⟨hOver, hLeads, hHolds⟩ := written_spec hLocate hNode hNodes content others rfl
            exact ⟨hOver, content, rfl, hLeads, hHolds⟩
          · simp only [bind_apply, pure_apply, hTransfer, modify_apply, failFor]
            exact (written_spec hLocate hNode hNodes written others rfl).1

/-- The file at the path can be opened for writing. -/
def Opens (disk : Disk) (path : Path) : Prop := ∃ place opened, openEmpty path disk = .ok place opened

/-- A text that can be encoded is written to a file that can be opened, if the device goes on to take part. -/
theorem exists_writeFile_eq_ok {path : Path} {text : Text} {content : Bytes} {disk : Disk}
    (hEncode : Utf8.encode text = .ok content) :
    (∃ after, writeFile path text disk = .ok () after) ↔ disk.Opens path ∧ disk.Grants 2 := by
  constructor
  · rintro ⟨after, h⟩
    obtain ⟨place, opened, hOpen, h⟩ := bind_eq_ok.mp h
    refine ⟨⟨place, opened, hOpen⟩, ?_⟩
    obtain ⟨_, _, _, hFirst, rfl⟩ := openEmpty_eq_ok.mp hOpen
    simp only [grants_succ, grants_zero, and_true] at hFirst ⊢
    refine ⟨hFirst, ?_⟩
    unfold encode transfer at h
    rw [hEncode] at h
    simp only [bind_apply, pure_apply, verdict_eq] at h
    cases hAnswer : disk.verdicts.tail.headD none with
    | none => rfl
    | some fault =>
        rw [hAnswer] at h
        cases h
  · rintro ⟨⟨place, opened, hOpen⟩, hDevice⟩
    obtain ⟨_, _, _, _, rfl⟩ := openEmpty_eq_ok.mp hOpen
    simp only [grants_succ, grants_zero, and_true] at hDevice
    unfold writeFile encode transfer
    rw [bind_of_ok hOpen, hEncode]
    simp only [bind_apply, pure_apply, verdict_eq, hDevice.2, modify_apply, failFor]
    exact ⟨_, rfl⟩

/-- Overwriting succeeds with one text if it does with another one, provided that both can be encoded. -/
theorem writeFile_ok_of_ok {path : Path} {text other : Text} {content : Bytes} {before after : Disk}
    (hOther : Utf8.encode other = .ok content) (h : writeFile path text before = .ok () after) :
    ∃ written, writeFile path other before = .ok () written := by
  have hSpec := writeFile_spec path text before
  rw [h] at hSpec
  obtain ⟨_, bytes, hText, _⟩ := hSpec
  rw [exists_writeFile_eq_ok hOther]
  exact (exists_writeFile_eq_ok hText).mp ⟨after, h⟩

/-- A file can be written in place at the path, whose directory is made if it is missing: the empty text
gets there, and so does any other one that can be encoded. -/
def AcceptsInPlace (disk : Disk) (path : Path) : Prop :=
  ∃ written, (ensureDirectories path.parent >>= fun _ => writeFile path []) disk = .ok () written

theorem AcceptsInPlace.exists_ok {disk : Disk} {path : Path} (h : disk.AcceptsInPlace path) {text : Text}
    (hWhole : text.isWhole = true) :
    ∃ written, (ensureDirectories path.parent >>= fun _ => writeFile path text) disk = .ok () written := by
  obtain ⟨chars, rfl⟩ := Utf8.exists_ofChars hWhole
  obtain ⟨_, hEmpty⟩ := h
  obtain ⟨answer, grown, hDirectories, hWrite⟩ := bind_eq_ok.mp hEmpty
  obtain ⟨written, hWritten⟩ := writeFile_ok_of_ok (Utf8.encode_ofChars chars) hWrite
  exact ⟨written, bind_eq_ok.mpr ⟨answer, grown, hDirectories, hWritten⟩⟩

end ScenarioDesk.Disk
