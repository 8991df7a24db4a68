import ScenarioDesk.Disk.Write

/-! Disks that differ by new directories only. This is all that a write may leave behind when it is
refused. Where a path led to before, it still leads; a path that led nowhere may lead somewhere now. -/
namespace ScenarioDesk

/-- The place that one name leads to from another place. -/
def Path.step (place : Place) (name : Text) : Place :=
  if name = above then place.dropLast else place ++ [name]

/-- The place that a path leads to if every directory on the way exists. -/
def Path.place (path : Path) : Place := path.names.foldl Path.step []

/-- Some of the first names of the path lead to the place if every directory on the way exists. -/
def Path.Passes (path : Path) (place : Place) : Prop :=
  ∃ front, front <+: path.names ∧ place = front.foldl Path.step []

namespace Disk

/-- The content of the file at a place, if there is one. -/
def fileAt (disk : Disk) (place : Place) : Option Bytes :=
  match disk.node? place with
  | some (.file content) => some content
  | _ => none

theorem fileAt_eq_some {disk : Disk} {place : Place} {content : Bytes} :
    disk.fileAt place = some content ↔ disk.node? place = some (.file content) := by
  unfold fileAt
  cases disk.node? place with
  | none => simp
  | some node => cases node <;> simp

theorem node?_of_nodes_eq {first second : Disk} (h : second.nodes = first.nodes) (place : Place) :
    second.node? place = first.node? place := by
  simp only [node?, h]

section Putting

variable {before after : Disk} {place : Place} {node : Node}

theorem node?_of_put (h : after.nodes = (before.put place node).nodes) (hPlace : place ≠ []) :
    after.node? place = some node :=
  (node?_of_nodes_eq h place).trans (node?_put_self before hPlace node)

theorem node?_of_put_ne (h : after.nodes = (before.put place node).nodes) {other : Place}
    (hOther : other ≠ place) : after.node? other = before.node? other :=
  (node?_of_nodes_eq h other).trans (node?_put_of_ne before hOther node)

end Putting

/-- The second disk is the first one with directories at some of the places, where nothing was before. -/
def GrowsAt (places : Place → Prop) (before after : Disk) : Prop :=
  ∀ place, after.node? place = before.node? place ∨
    places place ∧ before.node? place = none ∧ after.node? place = some .directory

namespace GrowsAt

variable {places : Place → Prop}

theorem of_nodes {before after : Disk} (h : after.nodes = before.nodes) : before.GrowsAt places after :=
  fun place => .inl (node?_of_nodes_eq h place)

theorem trans {first second third : Disk} (hFirst : first.GrowsAt places second)
    (hSecond : second.GrowsAt places third) : first.GrowsAt places third := by
  intro place
  rcases hFirst place with hSame | ⟨hPlace, hNone, hNew⟩
  · rw [← hSame]
    exact hSecond place
  · refine .inr ⟨hPlace, hNone, ?_⟩
    rcases hSecond place with hSame | ⟨_, hAbsent, _⟩
    · rw [hSame, hNew]
    · rw [hNew] at hAbsent
      cases hAbsent

theorem put_directory {disk : Disk} {place : Place} (hPlace : places place)
    (hNone : disk.node? place = none) : disk.GrowsAt places (disk.put place .directory) := by
  have hBelow : place ≠ [] := by
    rintro rfl
    cases hNone
  intro other
  by_cases hOther : other = place
  · subst other
    exact .inr ⟨hPlace, hNone, node?_put_self disk hBelow _⟩
  · exact .inl (node?_put_of_ne disk hOther _)

end GrowsAt

/-- The second disk is the first one with some more directories, where nothing was before. -/
def GrowsTo (before after : Disk) : Prop :=
  ∀ place, after.node? place = before.node? place ∨
    before.node? place = none ∧ after.node? place = some .directory

theorem growsTo_iff {before after : Disk} : before.GrowsTo after ↔ before.GrowsAt (fun _ => True) after := by
  simp only [GrowsTo, GrowsAt, true_and]

theorem GrowsAt.growsTo {places : Place → Prop} {before after : Disk} (h : before.GrowsAt places after) :
    before.GrowsTo after := fun place => (h place).imp_right And.right

theorem GrowsTo.refl (disk : Disk) : disk.GrowsTo disk := fun _ => .inl rfl

theorem GrowsTo.of_nodes {before after : Disk} (h : after.nodes = before.nodes) :
    before.GrowsTo after := growsTo_iff.mpr (.of_nodes h)

theorem GrowsTo.trans {first second third : Disk} (hFirst : first.GrowsTo second)
    (hSecond : second.GrowsTo third) : first.GrowsTo third :=
  growsTo_iff.mpr ((growsTo_iff.mp hFirst).trans (growsTo_iff.mp hSecond))

/-- Growing neither makes nor changes nor removes a file. -/
theorem GrowsTo.fileAt_eq {before after : Disk} (h : before.GrowsTo after) (place : Place) :
    after.fileAt place = before.fileAt place := by
  unfold fileAt
  rcases h place with hSame | ⟨hNone, hNew⟩
  · rw [hSame]
  · rw [hNone, hNew]

/-- Directories stay directories and files stay files. What a file holds may differ, and there may be
more of both. -/
structure KeepsKinds (before after : Disk) : Prop where
  directory : ∀ place, before.node? place = some .directory → after.node? place = some .directory
  file : ∀ place content, before.node? place = some (.file content) →
    ∃ newer, after.node? place = some (.file newer)

theorem GrowsTo.keepsKinds {before after : Disk} (h : before.GrowsTo after) :
    before.KeepsKinds after := by
  have hSame : ∀ place node, before.node? place = some node → after.node? place = some node := by
    intro place node hNode
    rcases h place with hSame | ⟨hNone, _⟩
    · rw [hSame, hNode]
    · rw [hNone] at hNode
      cases hNode
  exact ⟨fun place => hSame place _, fun place content hFile => ⟨content, hSame place _ hFile⟩⟩

theorem KeepsKinds.trans {first second third : Disk} (hFirst : first.KeepsKinds second)
    (hSecond : second.KeepsKinds third) : first.KeepsKinds third := by
  refine ⟨fun place hNode => hSecond.directory place (hFirst.directory place hNode), ?_⟩
  intro place content hNode
  obtain ⟨newer, hNewer⟩ := hFirst.file place content hNode
  exact hSecond.file place newer hNewer

theorem keepsKinds_of_put_file {before after : Disk} {place : Place} {content : Bytes}
    (hNode : before.node? place ≠ some .directory)
    (hNodes : after.nodes = (before.put place (.file content)).nodes) : before.KeepsKinds after := by
  have hPlace : place ≠ [] := by
    rintro rfl
    exact hNode rfl
  constructor
  · intro other hDirectory
    have hOther : other ≠ place := by
      rintro rfl
      exact hNode hDirectory
    rw [node?_of_put_ne hNodes hOther, hDirectory]
  · intro other older hFile
    by_cases hOther : other = place
    · subst other
      exact ⟨content, node?_of_put hNodes hPlace⟩
    · exact ⟨older, by rw [node?_of_put_ne hNodes hOther, hFile]⟩

theorem follow_of_directory {disk : Disk} {excess : Nat} {start : Place} {name : Text}
    {names : List Text} (h : disk.node? start = some .directory) :
    disk.follow excess start (name :: names) =
      if nameLimit < Utf8.size name + (if names = [] then excess else 0) then .error .nameTooLong
      else disk.follow excess (Path.step start name) names := by
  rw [follow, h]
  dsimp only
  rw [Path.step, apply_ite (disk.follow excess · names)]

theorem follow_cons_eq_ok {disk : Disk} {excess : Nat} {start finish : Place} {name : Text}
    {names : List Text} :
    disk.follow excess start (name :: names) = .ok finish ↔
      disk.node? start = some .directory ∧
        Utf8.size name + (if names = [] then excess else 0) ≤ nameLimit ∧
        disk.follow excess (Path.step start name) names = .ok finish := by
  cases hNode : disk.node? start with
  | none => simp [follow, hNode]
  | some node =>
      cases node with
      | file content => simp [follow, hNode]
      | directory =>
          rw [follow_of_directory hNode]
          by_cases hSize : nameLimit < Utf8.size name + (if names = [] then excess else 0)
          · rw [if_pos hSize]
            simp only [reduceCtorEq, true_and, false_iff, not_and]
            omega
          · rw [if_neg hSize]
            simp only [Nat.not_lt.mp hSize, true_and]

theorem follow_eq_foldl {disk : Disk} {excess : Nat} {start finish : Place} {names : List Text}
    (h : disk.follow excess start names = .ok finish) : finish = names.foldl Path.step start := by
  induction names generalizing start with
  | nil =>
      rw [follow] at h
      cases h
      rfl
  | cons name names ih => exact ih (follow_cons_eq_ok.mp h).2.2

theorem locateWith_eq_ok {disk : Disk} {path : Path} {excess : Nat} {place : Place} :
    disk.locateWith excess path = .ok place ↔ path.hasNul = false ∧ Utf8.size path.text + excess < pathLimit ∧
      disk.follow excess [] path.names = .ok place := by
  unfold locateWith
  cases path.hasNul with
  | true => simp
  | false =>
      by_cases hSize : pathLimit ≤ Utf8.size path.text + excess
      · simp [hSize, refuse, Nat.not_lt.mpr hSize]
      · cases hFollow : disk.follow excess [] path.names with
        | ok other => simp [hSize, Nat.lt_of_not_le hSize]
        | error cause => simp [hSize, refuse]

/-- A path that leads to a place was followed to its end. -/
theorem follow_of_locate {disk : Disk} {path : Path} {place : Place}
    (h : disk.locate path = .ok place) : disk.follow 0 [] path.names = .ok place :=
  (locateWith_eq_ok.mp h).2.2

theorem eq_place_of_locate {disk : Disk} {path : Path} {place : Place}
    (h : disk.locate path = .ok place) : place = path.place :=
  follow_eq_foldl (follow_of_locate h)

/-- All places above this one are directories. -/
def StandsOnDirectories (disk : Disk) (place : Place) : Prop :=
  ∀ above, above <+: place → above ≠ place → disk.node? above = some .directory

theorem standsOnDirectories_root (disk : Disk) : disk.StandsOnDirectories [] :=
  fun _ hAbove hOther => absurd (List.prefix_nil.mp hAbove) hOther

theorem standsOnDirectories_of_follow {disk : Disk} {excess : Nat} {start finish : Place}
    {names : List Text} (h : disk.follow excess start names = .ok finish) (hStart : disk.StandsOnDirectories start) :
    disk.StandsOnDirectories finish := by
  induction names generalizing start with
  | nil =>
      cases h
      exact hStart
  | cons name names ih =>
      obtain ⟨hDirectory, _, hRest⟩ := follow_cons_eq_ok.mp h
      have hAll : ∀ above, above <+: start → disk.node? above = some .directory := by
        intro above hAbove
        by_cases hSame : above = start
        · rwa [hSame]
        · exact hStart above hAbove hSame
      refine ih hRest ?_
      intro above hAbove hOther
      refine hAll above ?_
      rw [Path.step] at hAbove hOther
      split at hAbove
      · exact hAbove.trans (List.dropLast_prefix start)
      · next hName =>
          rw [if_neg hName] at hOther
          exact (List.prefix_concat_iff.mp hAbove).resolve_left hOther

theorem standsOnDirectories_of_locate {disk : Disk} {path : Path} {place : Place}
    (h : disk.locate path = .ok place) : disk.StandsOnDirectories place :=
  standsOnDirectories_of_follow (follow_of_locate h) disk.standsOnDirectories_root

/-- Following names asks only what kind of thing lies at each place, so it ends the same way where
the kinds are kept. Only a way that ended because nothing was there may go on. -/
theorem follow_of_keepsKinds {before after : Disk} (h : before.KeepsKinds after) {excess : Nat}
    {start : Place} {names : List Text}
    (hFollow : before.follow excess start names ≠ .error .missing) :
    after.follow excess start names = before.follow excess start names := by
  induction names generalizing start with
  | nil => rfl
  | cons name names ih =>
      cases hNode : before.node? start with
      | none =>
          rw [follow, hNode] at hFollow
          exact absurd rfl hFollow
      | some node =>
          cases node with
          | file content =>
              obtain ⟨newer, hNewer⟩ := h.file start content hNode
              rw [follow, follow, hNode, hNewer]
          | directory =>
              rw [follow_of_directory hNode] at hFollow
              rw [follow_of_directory hNode, follow_of_directory (h.directory start hNode)]
              by_cases hSize : nameLimit < Utf8.size name + (if names = [] then excess else 0)
              · rw [if_pos hSize, if_pos hSize]
              · rw [if_neg hSize] at hFollow
                rw [if_neg hSize, if_neg hSize, ih hFollow]

/-- No name is too long for the system. -/
def NamesFit (names : List Text) : Prop := ∀ name ∈ names, Utf8.size name ≤ nameLimit

/-- Names that fit can only be refused for what lies on the way. -/
theorem follow_of_namesFit {disk : Disk} {start : Place} {names : List Text} (h : NamesFit names) :
    disk.follow 0 start names = .ok (names.foldl Path.step start) ∨
      disk.follow 0 start names = .error .missing ∨
      disk.follow 0 start names = .error .notDirectory := by
  induction names generalizing start with
  | nil => exact .inl rfl
  | cons name names ih =>
      cases hNode : disk.node? start with
      | none => exact .inr (.inl (by rw [follow, hNode]))
      | some node =>
          cases node with
          | file content => exact .inr (.inr (by rw [follow, hNode]))
          | directory =>
              have hName := h name List.mem_cons_self
              rw [follow_of_directory hNode, ite_self, if_neg (by omega), List.foldl_cons]
              exact ih fun other hOther => h other (List.mem_cons_of_mem _ hOther)

theorem locate_eq {disk : Disk} {path : Path} (hNul : path.hasNul = false)
    (hSize : Utf8.size path.text < pathLimit) :
    disk.locate path = match disk.follow 0 [] path.names with
      | .ok place => .ok place
      | .error cause => refuse cause path := by
  have hShort : ¬ pathLimit ≤ Utf8.size path.text := Nat.not_le.mpr hSize
  cases hFollow : disk.follow 0 [] path.names with
  | ok place =>
      simp only [locate, locateWith, hNul, Bool.false_eq_true, if_false, Nat.add_zero, hShort, hFollow]
  | error cause =>
      simp only [locate, locateWith, hNul, Bool.false_eq_true, if_false, Nat.add_zero, hShort, hFollow]

/-- A path leads where it led, or is refused as it was, unless it ended where nothing was. -/
theorem locate_of_keepsKinds {before after : Disk} (h : before.KeepsKinds after) {path : Path}
    (hLocate : before.locate path ≠ refuse .missing path) :
    after.locate path = before.locate path := by
  by_cases hNul : path.hasNul = true
  · simp only [locate, locateWith, if_pos hNul]
  · by_cases hSize : Utf8.size path.text < pathLimit
    · rw [Bool.not_eq_true] at hNul
      rw [locate_eq hNul hSize] at hLocate
      rw [locate_eq hNul hSize, locate_eq hNul hSize, follow_of_keepsKinds h]
      intro hFollow
      rw [hFollow] at hLocate
      exact hLocate rfl
    · simp only [locate, locateWith, if_neg hNul, if_pos (Nat.not_lt.mp hSize), Nat.add_zero]

/-- A path that is refused because something is missing could be looked up, and was followed to a place
where nothing is. -/
theorem follow_of_locate_missing {disk : Disk} {path : Path}
    (h : disk.locate path = refuse .missing path) :
    path.hasNul = false ∧ Utf8.size path.text < pathLimit ∧
      disk.follow 0 [] path.names = .error .missing := by
  have hNul : path.hasNul = false := by
    cases hNul : path.hasNul with
    | false => rfl
    | true =>
        rw [locate, locateWith, if_pos hNul] at h
        cases h
  have hSize : Utf8.size path.text < pathLimit := by
    refine Nat.lt_of_not_le fun hSize => ?_
    rw [locate, locateWith, if_neg (by simp [hNul]), if_pos (by omega)] at h
    cases h
  refine ⟨hNul, hSize, ?_⟩
  rw [locate_eq hNul hSize] at h
  cases hFollow : disk.follow 0 [] path.names with
  | ok place =>
      rw [hFollow] at h
      cases h
  | error cause =>
      rw [hFollow] at h
      cases h
      rfl

/-- A path whose way ends where nothing is may lead to its place once there are more directories, or
end at something else than a directory. Its names never become too long. -/
theorem locate_of_missing {before after : Disk} {path : Path} (hNames : NamesFit path.names)
    (hLocate : before.locate path = refuse .missing path) :
    after.locate path = .ok path.place ∨ after.locate path = refuse .missing path ∨
      after.locate path = refuse .notDirectory path := by
  obtain ⟨hNul, hSize, _⟩ := follow_of_locate_missing hLocate
  rw [locate_eq hNul hSize]
  rcases @follow_of_namesFit after [] _ hNames with h | h | h
  · exact .inl (by rw [h]; rfl)
  · exact .inr (.inl (by rw [h]))
  · exact .inr (.inr (by rw [h]))

/-- What is read at a path that leads to a place. -/
theorem read_of_locate {disk : Disk} {path : Path} {place : Place} (h : disk.locate path = .ok place) :
    disk.read path = match disk.node? place with
      | some (.file content) => .ok content
      | some .directory => refuse .isDirectory path
      | none => refuse .missing path := by
  simp only [read, h, bind, Except.bind]
  cases disk.node? place with
  | none => rfl
  | some node =>
      cases node with
      | directory => rfl
      | file content => rfl

theorem read_eq_ok {disk : Disk} {path : Path} {content : Bytes} :
    disk.read path = .ok content ↔
      disk.locate path = .ok path.place ∧ disk.fileAt path.place = some content := by
  cases hLocate : disk.locate path with
  | error error =>
      simp only [read, hLocate]
      constructor
      · intro h
        cases h
      · intro h
        cases h.1
  | ok place =>
      obtain rfl := eq_place_of_locate hLocate
      rw [fileAt_eq_some, read_of_locate hLocate]
      simp only [true_and]
      cases disk.node? path.place with
      | none => constructor <;> intro h <;> cases h
      | some node =>
          cases node with
          | directory => constructor <;> intro h <;> cases h
          | file other =>
              constructor
              · intro h
                cases h
                rfl
              · intro h
                cases h
                rfl

/-- A path that led to a file leads to it still, when there are more directories. -/
theorem GrowsTo.read_eq {before after : Disk} (h : before.GrowsTo after) {path : Path}
    {content : Bytes} (hRead : before.read path = .ok content) : after.read path = .ok content := by
  obtain ⟨hLocate, hFile⟩ := read_eq_ok.mp hRead
  refine read_eq_ok.mpr ⟨?_, (h.fileAt_eq _).trans hFile⟩
  rw [locate_of_keepsKinds h.keepsKinds, hLocate]
  rw [hLocate]
  exact nofun

/-- Where no file could be read there is none to be read, when there are more directories, provided that
none lies where the path would lead once the directories on it are there. -/
theorem GrowsTo.read_eq_of_not_hidden {before after : Disk} (h : before.GrowsTo after) {path : Path}
    {content : Bytes} (hHidden : before.locate path = refuse .missing path → before.fileAt path.place = none)
    (hRead : after.read path = .ok content) : before.read path = .ok content := by
  obtain ⟨hLocate, hFile⟩ := read_eq_ok.mp hRead
  rw [h.fileAt_eq] at hFile
  refine read_eq_ok.mpr ⟨?_, hFile⟩
  rw [← locate_of_keepsKinds h.keepsKinds, hLocate]
  intro hMissing
  rw [hHidden hMissing] at hFile
  cases hFile

end Disk

end ScenarioDesk
