import ScenarioDesk.Proofs.Disk.ScratchNames
import ScenarioDesk.Proofs.Session.Operations

/-! Where the scenarios can be exported to. An export takes every file name that leaves room for a scratch
file, and refuses the few longer ones that the system would still take. -/
namespace ScenarioDesk.Session

section Answers

variable [Runtime] {path : Path} {session : Session}

/-- An export reports success exactly if its text has been written. -/
theorem exists_exportTo_eq_exported (h : session.scenarios ≠ []) :
    (∃ after, exportTo path session = .ok (.exported path.name) after) ↔
      ∃ disk, Disk.writeAtomically path session.scenarios.exportText session.host.disk = .ok () disk := by
  rw [exportTo_apply h]
  cases Disk.writeAtomically path session.scenarios.exportText session.host.disk with
  | ok answer disk => exact ⟨fun _ => ⟨disk, rfl⟩, fun _ => ⟨_, rfl⟩⟩
  | error error disk =>
      cases error with
      | system refusal => simp
      | nulInPath => simp
      | unencodable fault => simp

/-- A refusal by the system is what an export answers. -/
theorem exists_exportTo_eq_notExported {refusal : SystemError} {disk : Disk} (h : session.scenarios ≠ [])
    (hRefused : Disk.writeAtomically path session.scenarios.exportText session.host.disk =
      .error (.system refusal) disk) :
    ∃ after, exportTo path session = .ok (.notExported refusal) after ∧ after.host.disk = disk := by
  rw [exportTo_apply h, hRefused]
  exact ⟨_, rfl, rfl⟩

end Answers

/-- Wherever a file can be opened for writing once the directories above it are made, and whatever the text,
overwriting it in place takes nothing but a device that takes part. An atomic write, and with it an export,
needs room for a name that is longer, by a number of bytes that depends on nothing but how many digits the
number of the process has. Where there is none the scratch file is refused for its long name, and nothing is
written. -/
theorem exported_iff_scratch_has_room [Runtime] {path : Path} {disk grown : Disk}
    (hDirectories : Disk.ensureDirectories path.parent disk = .ok () grown) (hOpens : grown.Opens path) :
    (∀ text : Text, text.isWhole = true →
      ((∃ after, Disk.writeFile path text grown = .ok () after) ↔ grown.Grants 2) ∧
        ((∃ after, Disk.writeAtomically path text disk = .ok () after) ↔
          Disk.HasScratchRoom path ∧ grown.Grants 4)) ∧
    (∀ session : Session, session.host.disk = disk → session.scenarios ≠ [] →
      session.scenarios.exportText.isWhole = true →
        ((∃ after, exportTo path session = .ok (.exported path.name) after) ↔
          Disk.HasScratchRoom path ∧ grown.Grants 4)) ∧
    (¬ Disk.HasScratchRoom path →
      (∀ text, Disk.writeAtomically path text disk =
        .error (.system ⟨.nameTooLong, some (Disk.scratchPath path).text, none⟩) grown) ∧
      ∀ session : Session, session.host.disk = disk → session.scenarios ≠ [] →
        ∃ after, exportTo path session =
            .ok (.notExported ⟨.nameTooLong, some (Disk.scratchPath path).text, none⟩) after ∧
          after.host.disk = grown) := by
  have hWrites : ∀ text : Text, text.isWhole = true →
      ((∃ after, Disk.writeAtomically path text disk = .ok () after) ↔
        Disk.HasScratchRoom path ∧ grown.Grants 4) :=
    fun text hWhole => hOpens.exists_writeAtomically_eq_ok hDirectories hWhole
  refine ⟨fun text hWhole => ⟨?_, hWrites text hWhole⟩, ?_, fun hRoom => ?_⟩
  · obtain ⟨chars, rfl⟩ := Utf8.exists_ofChars hWhole
    rw [Disk.exists_writeFile_eq_ok (Utf8.encode_ofChars chars)]
    exact and_iff_right hOpens
  · rintro session rfl hSome hWhole
    rw [exists_exportTo_eq_exported hSome]
    exact hWrites _ hWhole
  · have hRefused := hOpens.writeAtomically_eq_error hDirectories hRoom
    refine ⟨hRefused, ?_⟩
    rintro session rfl hSome
    exact exists_exportTo_eq_notExported hSome (hRefused _)

/-- A name in a directory that is missing at first. -/
def reportPath : Path := Path.ofText "out/cases.feature"

/-- The disk with that directory. -/
def reportDisk : Disk := { nodes := [([Text.ofString "out"], .directory)] }

/-- A session with something to export, and nothing on its disk. -/
def oneScenario : Session := { store := Path.ofText "s.json", scenarios := [⟨"1", "A", "Scenario: A"⟩] }

/-- An export to a short name makes the directory and succeeds. -/
theorem short_name_is_exported :
    (∃ after, Disk.writeAtomically reportPath "x" {} = .ok () after) ∧
      ∃ after, exportTo reportPath oneScenario = .ok (.exported "cases.feature") after := by
  have hRoom : Disk.HasScratchRoom reportPath := by decide
  have hDevice : reportDisk.Grants 4 := by decide
  obtain ⟨hWritten, hExported, _⟩ :=
    @exported_iff_scratch_has_room _ reportPath {} reportDisk rfl ⟨_, _, rfl⟩
  exact ⟨(hWritten "x" (by decide)).2.mpr ⟨hRoom, hDevice⟩,
    (hExported oneScenario rfl (by decide) (by decide)).mpr ⟨hRoom, hDevice⟩⟩

/-- The longest name that a file can have. -/
def longestPath : Path := ⟨.relative, [List.replicate Disk.nameLimit (.char 'b')]⟩

/-- A file with the longest name can be opened and overwritten in place on an empty disk. An atomic write to
it fails, and an export to it is refused. -/
theorem longest_name_is_refused :
    Disk.ensureDirectories longestPath.parent {} = .ok () {} ∧ ({} : Disk).Opens longestPath ∧
      (∃ after, Disk.writeFile longestPath "x" {} = .ok () after) ∧
      (∃ error after, Disk.writeAtomically longestPath "x" {} = .error error after) ∧
      ∃ refusal after, exportTo longestPath oneScenario = .ok (.notExported refusal) after := by
  have hDirectories : Disk.ensureDirectories longestPath.parent {} = .ok () {} := rfl
  have hLeads : ({} : Disk).locate longestPath = .ok longestPath.place := by decide +kernel
  have hOpens : ({} : Disk).Opens longestPath :=
    ⟨_, _, Disk.openEmpty_eq_ok.mpr ⟨rfl, hLeads, by decide +kernel, by decide, rfl⟩⟩
  have hRefused := hOpens.writeAtomically_eq_error hDirectories (by decide +kernel)
  obtain ⟨after, hAnswer, _⟩ :=
    @exists_exportTo_eq_notExported _ longestPath oneScenario _ _ (by decide) (hRefused _)
  exact ⟨hDirectories, hOpens, (Disk.exists_writeFile_eq_ok rfl).mpr ⟨hOpens, by decide⟩,
    ⟨_, _, hRefused "x"⟩, _, after, hAnswer⟩

end ScenarioDesk.Session
