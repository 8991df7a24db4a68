import Mathlib.Data.List.Induction
import ScenarioDesk.Proofs.Disk.Overwrite

/-! Where a file can be written atomically. The scratch file lies beside its target and has a longer name, so
there are targets that can be opened, and overwritten in place, but not written atomically: those whose name or
whose path leaves no room for what the scratch file adds to it, which depends on the number of the process. There
are no others. -/
namespace ScenarioDesk

theorem Utf8.size_append (first second : Text) : size (first ++ second) = size first + size second := by
  induction first with
  | nil => simp [size]
  | cons c rest ih =>
      cases c with
      | char c => simp [size, ih, Nat.add_assoc]
      | half index => simp [size, ih, Nat.add_assoc]

/-- What stands in front of the last piece does not depend on it. -/
theorem Text.exists_join_append (separator : Text) (pieces : List Text) :
    ∃ front, ∀ last, join separator (pieces ++ [last]) = front ++ last := by
  induction pieces with
  | nil => exact ⟨[], fun last => rfl⟩
  | cons piece others ih =>
      obtain ⟨front, hFront⟩ := ih
      refine ⟨piece ++ separator ++ front, fun last => ?_⟩
      have hOthers := hFront last
      cases others with
      | nil => simp_all [join]
      | cons next others => simp_all [join]

namespace Disk

section Room

variable [Runtime]

/-- How many bytes more the name of a scratch file takes on the disk than that of its target: the number of
the process, a token of 32 letters, three letters at the end, and four dots. -/
def scratchSurplus : Nat := Runtime.processDigits + 39

theorem size_scratchName (name : Text) :
    Utf8.size (scratchName name) + scratchExcess = Utf8.size name + scratchSurplus := by
  have hFront : Utf8.size "." = 1 := rfl
  have hBack : Utf8.size ".PID.UUID.tmp" = 13 := rfl
  rw [scratchName, scratchSurplus, scratchExcess, Utf8.size_append, Utf8.size_append, hFront, hBack]
  omega

/-- The name and the path leave room for what the scratch file adds to them. -/
structure HasScratchRoom (path : Path) : Prop where
  name : Utf8.size path.name + scratchSurplus ≤ nameLimit
  whole : Utf8.size path.text + scratchSurplus < pathLimit

/-- Both bounds can be computed. -/
instance (path : Path) : Decidable (HasScratchRoom path) :=
  decidable_of_iff (Utf8.size path.name + scratchSurplus ≤ nameLimit ∧
    Utf8.size path.text + scratchSurplus < pathLimit) ⟨fun h => ⟨h.1, h.2⟩, fun h => ⟨h.name, h.whole⟩⟩

end Room

section ScratchPath

variable {path : Path} {front : List Text} {last : Text}

theorem name_of_names_eq (h : path.names = front ++ [last]) : path.name = last := by
  rw [Path.name, h, List.getLastD_concat]

theorem names_scratchPath (h : path.names = front ++ [last]) :
    (scratchPath path).names = front ++ [scratchName last] := by
  rw [scratchPath, name_of_names_eq h, Path.withName, h, List.dropLast_concat]

theorem size_text_scratchPath [Runtime] (h : path.names = front ++ [last]) :
    Utf8.size (scratchPath path).text + scratchExcess = Utf8.size path.text + scratchSurplus := by
  obtain ⟨before, hBefore⟩ := Text.exists_join_append ['/'] front
  have hText : ∀ (other : Path) (name : Text), other.root = path.root → other.names = front ++ [name] →
      other.text = Path.rootText path.root ++ before ++ name := by
    intro other name hRoot hNames
    rw [Path.text, if_neg (by simp [hNames]), hRoot, hNames, hBefore, List.append_assoc]
  have hName := size_scratchName last
  rw [hText path last rfl h, hText (scratchPath path) _ rfl (names_scratchPath h)]
  simp only [Utf8.size_append]
  omega

theorem hasNul_scratchPath (h : path.names = front ++ [last]) : (scratchPath path).hasNul = path.hasNul := by
  have hName : (scratchName last).contains '\x00' = last.contains '\x00' := by
    have hFront : (CodePoint.char '\x00') ∉ (Text.ofString ".") := by decide
    have hBack : (CodePoint.char '\x00') ∉ (Text.ofString ".PID.UUID.tmp") := by decide
    rw [Bool.eq_iff_iff, List.contains_iff_mem, List.contains_iff_mem, scratchName, List.mem_append,
      List.mem_append]
    simp only [hFront, hBack, false_or, or_false]
  rw [Path.hasNul, Path.hasNul, names_scratchPath h, h, List.any_append, List.any_append, List.any_cons,
    List.any_cons, hName]

end ScratchPath

section Following

variable {disk : Disk} {excess : Nat} {start : Place} {front : List Text} {last : Text}

/-- Only the last name is taken to be longer than it is written here. -/
theorem follow_concat : disk.follow excess start (front ++ [last]) =
    (disk.follow 0 start front).bind fun place => disk.follow excess place [last] := by
  induction front generalizing start with
  | nil => rfl
  | cons name names ih =>
      cases hNode : disk.node? start with
      | none => rw [List.cons_append, follow, follow, hNode]; rfl
      | some node =>
          cases node with
          | file content => rw [List.cons_append, follow, follow, hNode]; rfl
          | directory =>
              rw [List.cons_append, follow_of_directory hNode, follow_of_directory hNode, ih, ite_self,
                if_neg (List.append_ne_nil_of_right_ne_nil _ (List.cons_ne_nil _ _))]
              split <;> rfl

/-- A path whose last name is a double dot leads to a directory, if it leads anywhere. -/
theorem directory_of_locate_above {path : Path} {place : Place} (h : disk.locate path = .ok place)
    (hNames : path.names = front ++ [Path.above]) : disk.node? place = some .directory := by
  have hFollow := follow_of_locate h
  rw [hNames, follow_concat] at hFollow
  cases hFront : disk.follow 0 [] front with
  | error cause =>
      rw [hFront] at hFollow
      cases hFollow
  | ok last =>
      rw [hFront] at hFollow
      obtain ⟨hLast, _, hPlace⟩ := follow_cons_eq_ok.mp hFollow
      rw [Path.step, if_pos rfl] at hPlace
      cases hPlace
      by_cases hSame : last.dropLast = last
      · rwa [hSame]
      · exact standsOnDirectories_of_follow hFront disk.standsOnDirectories_root _ (List.dropLast_prefix last) hSame

end Following

section Opening

variable {disk : Disk} {path : Path}

/-- Exactly a target can be opened, if the device takes part. -/
theorem opens_iff : disk.Opens path ↔ disk.IsTarget path ∧ disk.Grants 1 := by
  constructor
  · rintro ⟨place, opened, hOpen⟩
    obtain ⟨_, hLocate, hNode, hDevice, _⟩ := openEmpty_eq_ok.mp hOpen
    refine ⟨⟨?_, hLocate, hNode⟩, hDevice⟩
    rintro (hNone | hAbove)
    · rw [Path.place, hNone] at hNode
      exact hNode rfl
    · cases hNames : path.names using List.reverseRecOn with
      | nil =>
          rw [Path.place, hNames] at hNode
          exact hNode rfl
      | append_singleton front last =>
          rw [name_of_names_eq hNames] at hAbove
          rw [hAbove] at hNames
          exact hNode (directory_of_locate_above hLocate hNames)
  · rintro ⟨hTarget, hDevice⟩
    exact ⟨_, _, openEmpty_eq_ok.mpr ⟨rfl, hTarget.leads, hTarget.free, hDevice, rfl⟩⟩

theorem IsTarget.exists_names_eq (h : disk.IsTarget path) : ∃ front last, path.names = front ++ [last] := by
  cases hNames : path.names using List.reverseRecOn with
  | nil => exact absurd (.inl hNames) h.named
  | append_singleton front last => exact ⟨front, last, rfl⟩

/-- The name of the scratch file of a target is refused exactly if there is no room for it. -/
theorem locateWith_scratchPath [Runtime] (h : disk.IsTarget path) :
    (HasScratchRoom path → ∃ place, disk.locateWith scratchExcess (scratchPath path) = .ok place) ∧
      (¬ HasScratchRoom path →
        disk.locateWith scratchExcess (scratchPath path) = refuse .nameTooLong (scratchPath path)) := by
  obtain ⟨front, last, hNames⟩ := h.exists_names_eq
  obtain ⟨hNul, _, hFollow⟩ := locateWith_eq_ok.mp h.leads
  rw [← hasNul_scratchPath hNames] at hNul
  have hName := size_scratchName last
  have hText := size_text_scratchPath hNames
  have hScratch : disk.follow scratchExcess [] (scratchPath path).names =
      if nameLimit < Utf8.size (scratchName last) + scratchExcess then .error .nameTooLong
      else .ok (Path.step (front.foldl Path.step []) (scratchName last)) := by
    rw [hNames, follow_concat] at hFollow
    rw [names_scratchPath hNames, follow_concat]
    cases hFront : disk.follow 0 [] front with
    | error cause =>
        rw [hFront] at hFollow
        cases hFollow
    | ok above =>
        rw [hFront] at hFollow
        rw [← follow_eq_foldl hFront]
        exact follow_of_directory (follow_cons_eq_ok.mp hFollow).1
  constructor
  · rintro ⟨hShort, hWhole⟩
    rw [name_of_names_eq hNames] at hShort
    exact ⟨_, locateWith_eq_ok.mpr ⟨hNul, by omega, by rw [hScratch, if_neg (by omega)]⟩⟩
  · intro hRoom
    rw [locateWith, if_neg (by rw [hNul]; exact Bool.false_ne_true), hScratch]
    by_cases hWhole : pathLimit ≤ Utf8.size (scratchPath path).text + scratchExcess
    · rw [if_pos hWhole]
    · have hLong : nameLimit < Utf8.size (scratchName last) + scratchExcess := by
        refine Nat.lt_of_not_le fun hShort => hRoom ⟨?_, by omega⟩
        rw [name_of_names_eq hNames]
        omega
      rw [if_neg hWhole, if_pos hLong]

/-- A text that can be encoded is written wherever the file can be opened, if there is room for the scratch
file and the device takes part. -/
theorem Opens.exists_writeAtomically_eq_ok [Runtime] {grown : Disk} {text : Text}
    (hDirectories : ensureDirectories path.parent disk = .ok () grown) (hOpens : grown.Opens path)
    (hWhole : text.isWhole = true) :
    (∃ after, writeAtomically path text disk = .ok () after) ↔ HasScratchRoom path ∧ grown.Grants 4 := by
  obtain ⟨chars, rfl⟩ := Utf8.exists_ofChars hWhole
  rw [Disk.exists_writeAtomically_eq_ok (Utf8.encode_ofChars chars) hDirectories]
  obtain ⟨hTarget, _⟩ := opens_iff.mp hOpens
  obtain ⟨hRoom, hNoRoom⟩ := locateWith_scratchPath hTarget
  constructor
  · rintro ⟨⟨place, hPlace⟩, _, hDevice⟩
    refine ⟨by_contra fun hNone => ?_, hDevice⟩
    rw [hNoRoom hNone] at hPlace
    cases hPlace
  · rintro ⟨hSome, hDevice⟩
    exact ⟨hRoom hSome, hTarget, hDevice⟩

/-- Where there is no room for the scratch file, nothing is written but the directories, whatever the text. -/
theorem Opens.writeAtomically_eq_error [Runtime] {grown : Disk}
    (hDirectories : ensureDirectories path.parent disk = .ok () grown) (hOpens : grown.Opens path)
    (hRoom : ¬ HasScratchRoom path) (text : Text) : writeAtomically path text disk =
      .error (.system ⟨.nameTooLong, some (scratchPath path).text, none⟩) grown := by
  have hRefused := (locateWith_scratchPath (opens_iff.mp hOpens).1).2 hRoom
  unfold writeAtomically openScratch
  rw [bind_apply, hDirectories]
  dsimp only
  rw [bind_apply, bind_apply, query_apply, hRefused]
  rfl

end Opening

end Disk

end ScenarioDesk
