import Mathlib.Data.List.Induction
import ScenarioDesk.Proofs.Disk.AtomicWrite

/-! Writing a file atomically is all or nothing. Besides the file itself a write can leave nothing but the
directories that it made on the way there, and a tree stays a tree. A path that led somewhere before such a
write is refused leads to the same thing after it; one that ended at a missing directory may lead through the
new directories to one of them, or to something that has been there all the time, if it steps back over a
double dot. -/
namespace ScenarioDesk.Disk

/-- What a path leads to, if it leads to anything. -/
def reached? (disk : Disk) (path : Path) : Option Node :=
  match disk.locate path with
  | .ok place => disk.node? place
  | .error _ => none

/-- Whatever lies somewhere lies in a directory. -/
def IsTree (disk : Disk) : Prop :=
  ∀ place name node, disk.node? (place ++ [name]) = some node → disk.node? place = some .directory

/-- Everything above a place where something lies is a directory. -/
theorem IsTree.directory_above {disk : Disk} (h : disk.IsTree) {place below : Place} (hBelow : below ≠ [])
    {node : Node} (hNode : disk.node? (place ++ below) = some node) :
    disk.node? place = some .directory := by
  induction below using List.reverseRecOn generalizing node with
  | nil => exact absurd rfl hBelow
  | append_singleton above name ih =>
      rw [← List.append_assoc] at hNode
      have hAbove := h _ _ _ hNode
      by_cases hEmpty : above = []
      · rwa [hEmpty, List.append_nil] at hAbove
      · exact ih hEmpty hAbove

section Following

variable {disk : Disk} {excess : Nat} {start : Place} {names : List Text}

/-- Where names are followed to their end, every place before the last one is a directory. -/
theorem directory_of_follow {finish : Place} (h : disk.follow excess start names = .ok finish)
    (hNames : names ≠ []) {front : List Text} (hFront : front <+: names.dropLast) :
    disk.node? (front.foldl Path.step start) = some .directory := by
  induction names generalizing start front with
  | nil => exact absurd rfl hNames
  | cons name names ih =>
      obtain ⟨hStart, _, hRest⟩ := follow_cons_eq_ok.mp h
      cases front with
      | nil => exact hStart
      | cons first front =>
          cases names with
          | nil => exact absurd (List.prefix_nil.mp hFront) (List.cons_ne_nil first front)
          | cons next names =>
              rw [List.dropLast_cons_cons] at hFront
              obtain ⟨rfl, hLater⟩ := List.cons_prefix_cons.mp hFront
              exact ih hRest (List.cons_ne_nil next names) hLater

/-- Names that end at a missing directory lead to a place before the last one where nothing is. -/
theorem exists_missing_of_follow (h : disk.follow excess start names = .error .missing) :
    ∃ front, front <+: names.dropLast ∧ disk.node? (front.foldl Path.step start) = none := by
  induction names generalizing start with
  | nil => cases h
  | cons name names ih =>
      cases hNode : disk.node? start with
      | none => exact ⟨[], List.nil_prefix, hNode⟩
      | some node =>
          cases node with
          | file content =>
              rw [follow, hNode] at h
              cases h
          | directory =>
              rw [follow_of_directory hNode] at h
              by_cases hSize : nameLimit < Utf8.size name + (if names = [] then excess else 0)
              · rw [if_pos hSize] at h
                cases h
              · rw [if_neg hSize] at h
                obtain ⟨front, hFront, hNone⟩ := ih h
                cases names with
                | nil => cases h
                | cons next names => exact ⟨name :: front, by simpa using hFront, hNone⟩

theorem foldl_step_of_not_mem (h : Path.above ∉ names) (start : Place) :
    names.foldl Path.step start = start ++ names := by
  induction names generalizing start with
  | nil => exact (List.append_nil start).symm
  | cons name names ih =>
      obtain ⟨hName, hNames⟩ := List.ne_and_not_mem_of_not_mem_cons h
      rw [List.foldl_cons, Path.step, if_neg (Ne.symm hName), ih hNames, List.append_assoc]
      rfl

end Following

section Reaching

variable {disk before after : Disk} {path : Path}

theorem directory_of_locate {place other : Place} (h : disk.locate path = .ok place)
    (hPasses : path.parent.Passes other) : disk.node? other = some .directory := by
  obtain ⟨front, hFront, rfl⟩ := hPasses
  by_cases hNames : path.names = []
  · rw [Path.parent, hNames] at hFront
    rw [List.prefix_nil.mp hFront]
    rfl
  · exact directory_of_follow (follow_of_locate h) hNames hFront

theorem exists_missing_of_locate (h : disk.locate path = refuse .missing path) :
    ∃ place, path.parent.Passes place ∧ disk.node? place = none := by
  obtain ⟨front, hFront, hNone⟩ := exists_missing_of_follow (follow_of_locate_missing h).2.2
  exact ⟨_, ⟨front, hFront, rfl⟩, hNone⟩

/-- A path that never steps back passes nothing but the places above its own. -/
theorem prefix_of_passes (hAbove : Path.above ∉ path.names) {place : Place}
    (h : path.parent.Passes place) : place <+: path.names.dropLast := by
  obtain ⟨front, hFront, rfl⟩ := h
  rw [foldl_step_of_not_mem fun hMem => hAbove (List.dropLast_subset _ (hFront.subset hMem))]
  exact hFront

/-- A path leads to a directory or to a name in one. -/
theorem exists_above_of_locate {place : Place} (hLocate : disk.locate path = .ok place) :
    disk.node? place = some .directory ∨
      ∃ above name, place = above ++ [name] ∧ disk.node? above = some .directory := by
  cases place using List.reverseRecOn with
  | nil => exact .inl rfl
  | append_singleton above name =>
      have hAbove := standsOnDirectories_of_locate hLocate above (List.prefix_append above [name])
      exact .inr ⟨above, name, rfl, hAbove (by simp)⟩

/-- Something may be put where a path leads on a tree, unless a directory lies there. -/
theorem IsTree.put (h : disk.IsTree) {place : Place} (hLocate : disk.locate path = .ok place)
    (hFree : disk.node? place ≠ some .directory) (node : Node) : (disk.put place node).IsTree := by
  obtain ⟨above, last, rfl, hAbove⟩ := (exists_above_of_locate hLocate).resolve_left hFree
  have hKept : ∀ {other : Place}, disk.node? other = some .directory →
      (disk.put (above ++ [last]) node).node? other = some .directory := by
    intro other hOther
    rw [node?_put_of_ne disk _ node, hOther]
    rintro rfl
    exact hFree hOther
  intro other name found hFound
  by_cases hSame : other ++ [name] = above ++ [last]
  · obtain ⟨rfl, _⟩ := List.append_singleton_inj.mp hSame
    exact hKept hAbove
  · rw [node?_put_of_ne disk hSame] at hFound
    exact hKept (h other name found hFound)

theorem IsTree.of_nodes (h : before.IsTree) (hNodes : after.nodes = before.nodes) : after.IsTree := by
  intro place name node hNode
  rw [node?_of_nodes_eq hNodes] at hNode ⊢
  exact h place name node hNode

/-- The second disk is a tree if the first one is. -/
def StaysTree (before after : Disk) : Prop := before.IsTree → after.IsTree

instance : Std.Refl StaysTree := ⟨fun _ => id⟩

instance : Trans StaysTree StaysTree StaysTree := ⟨fun hFirst hSecond => hSecond ∘ hFirst⟩

theorem keepsTree_makeDirectory (path : Path) : Keeps StaysTree (makeDirectory path) := by
  intro disk hTree
  rcases makeDirectory_spec path disk with hSame | ⟨hLocate, hNone, hMade⟩
  · exact hTree.of_nodes hSame.1
  · exact (hTree.put hLocate (by simp [hNone]) .directory).of_nodes hMade.1

/-- A write, whether it succeeds or is refused, leaves a tree. -/
theorem IsTree.after_write [Runtime] (h : before.IsTree) (path : Path) (text : Text) :
    (stateAfter (writeAtomically path text before)).IsTree := by
  have hDirectories : (stateAfter (ensureDirectories path.parent before)).IsTree :=
    keeps_ensureDirectories_of_makeDirectory (fun front _ => keepsTree_makeDirectory ⟨_, front⟩) before h
  cases hWrite : writeAtomically path text before with
  | ok answer after =>
      obtain ⟨content, grown, _, hGrown, hLocate, hNode, hNodes, _⟩ := writeAtomically_ok_parts hWrite
      rw [hGrown] at hDirectories
      exact (hDirectories.put hLocate hNode _).of_nodes hNodes
  | error error after => exact hDirectories.of_nodes (writeAtomically_error_parts hWrite).1

/-- A path that leads to a place, or is refused for something else than a missing directory, leads to the
same thing after directories have been made above it. -/
theorem GrowsAt.reached?_eq (h : before.GrowsAt path.parent.Passes after)
    (hLocate : before.locate path ≠ refuse .missing path) :
    after.reached? path = before.reached? path := by
  unfold reached?
  rw [locate_of_keepsKinds h.growsTo.keepsKinds hLocate]
  cases hPlace : before.locate path with
  | error error => rfl
  | ok place =>
      rcases h place with hSame | ⟨hPasses, hNone, _⟩
      · exact hSame
      · -- the new directory would be one that the path has already passed
        rw [directory_of_locate hPlace hPasses] at hNone
        cases hNone

/-- On a tree nothing lies where a path leads that never steps back and misses a directory. -/
theorem node?_names_of_missing (hTree : disk.IsTree) (hAbove : Path.above ∉ path.names)
    (hLocate : disk.locate path = refuse .missing path) : disk.node? path.names = none := by
  obtain ⟨place, hPasses, hNone⟩ := exists_missing_of_locate hLocate
  obtain ⟨later, hLater⟩ := prefix_of_passes hAbove hPasses
  cases hNode : disk.node? path.names with
  | none => rfl
  | some node =>
      by_cases hNames : path.names = []
      · rw [hNames, List.dropLast_nil] at hLater
        rw [(List.append_eq_nil_iff.mp hLater).1] at hNone
        cases hNone
      · rw [← List.dropLast_concat_getLast hNames, ← hLater, List.append_assoc] at hNode
        rw [hTree.directory_above (List.append_ne_nil_of_right_ne_nil _ (List.cons_ne_nil _ _)) hNode]
          at hNone
        cases hNone

/-- On a tree a path that never steps back leads to the same thing after directories have been made
above it, even if one of them was missing before. -/
theorem GrowsAt.reached?_eq_of_isTree (h : before.GrowsAt path.parent.Passes after)
    (hTree : before.IsTree) (hAbove : Path.above ∉ path.names) :
    after.reached? path = before.reached? path := by
  by_cases hLocate : before.locate path = refuse .missing path
  · have hAfter : after.node? path.names = none := by
      have hBefore := node?_names_of_missing hTree hAbove hLocate
      rcases h path.names with hSame | ⟨hPasses, _⟩
      · rw [hSame, hBefore]
      · have hLength := (prefix_of_passes hAbove hPasses).length_le
        rw [List.length_dropLast] at hLength
        rw [List.length_eq_zero_iff.mp (by omega : path.names.length = 0)] at hBefore
        cases hBefore
    have hReached : before.reached? path = none := by
      rw [reached?, hLocate]
      rfl
    rw [hReached, reached?]
    cases hLater : after.locate path with
    | error error => rfl
    | ok place =>
        have hPlace : place = path.names :=
          (eq_place_of_locate hLater).trans (foldl_step_of_not_mem hAbove [])
        exact (congrArg after.node? hPlace).trans hAfter
  · exact h.reached?_eq hLocate

end Reaching

section Outcomes

/-- What a write that has succeeded leaves: the encoded text at the path, and new directories above it. -/
structure IsWritten (path : Path) (text : Text) (before after : Disk) : Prop where
  content : ∃ content, Utf8.encode text = .ok content ∧ after.read path = .ok content
  others : ∀ place, place ≠ path.place → after.node? place = before.node? place ∨
    path.parent.Passes place ∧ before.node? place = none ∧ after.node? place = some .directory
  noScratch : after.scratch = none

/-- What a write that has been refused leaves: new directories above the path. What the path leads to is
as it was, unless a directory was missing that the path steps back from. -/
structure IsRefused (path : Path) (before after : Disk) : Prop where
  grows : before.GrowsAt path.parent.Passes after
  noScratch : after.scratch = before.scratch ∨ after.scratch = none
  reached : before.locate path ≠ refuse .missing path ∨ before.IsTree ∧ Path.above ∉ path.names →
    after.reached? path = before.reached? path

variable {path : Path} {text : Text} {before after : Disk}

theorem isWritten_of_ok [Runtime] (h : writeAtomically path text before = .ok () after) :
    IsWritten path text before after := by
  obtain ⟨content, grown, hEncode, hDirectories, _, _, hNodes, hScratch⟩ := writeAtomically_ok_parts h
  obtain ⟨other, hOther, hWrote⟩ := writeAtomically_ok h
  have hGrown := ((keeps_ensureDirectories_passes path.parent).of_ok hDirectories).1
  refine ⟨⟨other, hOther, hWrote.read_eq⟩, ?_, hScratch⟩
  intro place hPlace
  rw [node?_of_put_ne hNodes hPlace]
  exact hGrown place

theorem isRefused_of_error [Runtime] {error : DiskError} (h : writeAtomically path text before = .error error after) :
    IsRefused path before after := by
  obtain ⟨hNodes, hScratch⟩ := writeAtomically_error_parts h
  have hGrows : before.GrowsAt path.parent.Passes after :=
    (keeps_ensureDirectories_passes path.parent before).1.trans (.of_nodes hNodes)
  refine ⟨hGrows, hScratch, ?_⟩
  rintro (hLocate | ⟨hTree, hAbove⟩)
  · exact hGrows.reached?_eq hLocate
  · exact hGrows.reached?_eq_of_isTree hTree hAbove

/-- A write either succeeds, and then the whole encoded text is at the path, or is refused, and then what
the path leads to is as it was. Nothing else differs but for new directories above the path. If one of
them was missing, a path that steps back from it may lead through it now. -/
theorem write_is_all_or_nothing [Runtime] (path : Path) (text : Text) (before : Disk) :
    match writeAtomically path text before with
    | .ok _ after => IsWritten path text before after
    | .error _ after => IsRefused path before after := by
  cases h : writeAtomically path text before with
  | ok answer after => exact isWritten_of_ok h
  | error error after => exact isRefused_of_error h

/-- A path that steps back from a missing directory and into it again leads to that directory after a
write to it has been refused. -/
theorem refused_write_makes_its_target :
    ∃ error after, writeAtomically (Path.ofText "a/../a") "x" {} = .error error after ∧
      ({} : Disk).reached? (Path.ofText "a/../a") = none ∧
      after.reached? (Path.ofText "a/../a") = some .directory :=
  ⟨_, _, rfl, by decide, by decide⟩

end Outcomes

end ScenarioDesk.Disk
