import ScenarioDesk.Proofs.Disk.Growth
import ScenarioDesk.Proofs.Outcome
import ScenarioDesk.Proofs.Text.Encoding

/-! What writing a file atomically does to the disk. A write that is refused leaves new directories at
most; one that succeeds puts the complete content at the place of its path and changes nothing
else. No scratch file outlives the write. -/
namespace ScenarioDesk.Disk

/-- Only what the device will answer to later steps may differ. -/
def SameContents (before after : Disk) : Prop :=
  after.nodes = before.nodes ∧ after.scratch = before.scratch

/-- New directories are the only difference, and the scratch file is the same. -/
def Widens (before after : Disk) : Prop :=
  before.GrowsTo after ∧ after.scratch = before.scratch

/-- New directories at some of the places are the only difference, and the scratch file is the same. -/
def WidensAt (places : Place → Prop) (before after : Disk) : Prop :=
  before.GrowsAt places after ∧ after.scratch = before.scratch

section Widening

variable {places : Place → Prop}

theorem WidensAt.refl (disk : Disk) : WidensAt places disk disk := ⟨.of_nodes rfl, rfl⟩

theorem WidensAt.trans {first second third : Disk} (hFirst : WidensAt places first second)
    (hSecond : WidensAt places second third) : WidensAt places first third :=
  ⟨hFirst.1.trans hSecond.1, hSecond.2.trans hFirst.2⟩

instance : Std.Refl (WidensAt places) := ⟨.refl⟩

instance : Trans (WidensAt places) (WidensAt places) (WidensAt places) := ⟨.trans⟩

theorem SameContents.widensAt {before after : Disk} (h : before.SameContents after) :
    WidensAt places before after := ⟨.of_nodes h.1, h.2⟩

end Widening

theorem query_apply {α : Type} (question : Disk → Except DiskError α) (disk : Disk) :
    query question disk = match question disk with
      | .ok answer => .ok answer disk
      | .error error => .error error disk := by
  unfold query
  simp only [bind_apply, get_apply]
  cases question disk with
  | ok answer => rfl
  | error error => rfl

theorem verdict_eq (disk : Disk) :
    verdict disk = .ok (disk.verdicts.headD none) { disk with verdicts := disk.verdicts.tail } := by
  obtain ⟨nodes, scratch, verdicts⟩ := disk
  cases verdicts with
  | nil => rfl
  | cons answer others => rfl

theorem verdict_apply (disk : Disk) :
    ∃ answer others, verdict disk = .ok answer { disk with verdicts := others } :=
  ⟨_, _, verdict_eq disk⟩

/-- The device takes part in so many of the coming write steps. -/
def Grants (disk : Disk) (steps : Nat) : Prop := ∀ answer ∈ disk.verdicts.take steps, answer = none

instance (disk : Disk) (steps : Nat) : Decidable (disk.Grants steps) :=
  inferInstanceAs (Decidable (∀ answer ∈ disk.verdicts.take steps, answer = none))

theorem grants_zero (disk : Disk) : disk.Grants 0 := by
  intro answer hMem
  rw [List.take_zero] at hMem
  cases hMem

theorem grants_succ {disk : Disk} {steps : Nat} : disk.Grants (steps + 1) ↔
    disk.verdicts.headD none = none ∧ Grants { disk with verdicts := disk.verdicts.tail } steps := by
  unfold Grants
  cases disk.verdicts with
  | nil => simp
  | cons answer others => simp

theorem keeps_askDevice (path : Path) : Keeps SameContents (askDevice path) := by
  intro disk
  obtain ⟨answer, others, h⟩ := verdict_apply disk
  unfold askDevice
  rw [bind_apply, h]
  cases answer with
  | none => exact ⟨rfl, rfl⟩
  | some fault => exact ⟨rfl, rfl⟩

/-- Making a directory either changes nothing but what the device will answer, or puts a directory where
the path leads and nothing was. -/
theorem makeDirectory_spec (path : Path) (disk : Disk) :
    SameContents disk (stateAfter (makeDirectory path disk)) ∨
      disk.locate path = .ok path.place ∧ disk.node? path.place = none ∧
        SameContents (disk.put path.place .directory) (stateAfter (makeDirectory path disk)) := by
  unfold makeDirectory
  rw [bind_apply, query_apply]
  cases hLocate : disk.locate path with
  | error error => exact .inl ⟨rfl, rfl⟩
  | ok place =>
      obtain rfl := eq_place_of_locate hLocate
      simp only [bind_apply, get_apply]
      split
      · exact .inl ⟨rfl, rfl⟩
      · next hFree =>
          have hAsk := keeps_askDevice path disk
          simp only [bind_apply]
          cases hRun : askDevice path disk with
          | error error middle =>
              rw [hRun] at hAsk
              exact .inl hAsk
          | ok answer middle =>
              rw [hRun] at hAsk
              have hNodes : middle.nodes = disk.nodes := hAsk.1
              refine .inr ⟨trivial, by simpa using hFree, ?_, hAsk.2⟩
              exact congrArg (setNode path.place .directory) hNodes

section Directories

variable {relation : Disk → Disk → Prop} [Std.Refl relation]

theorem keeps_isDirectory (path : Path) : Keeps relation (isDirectory path) := by
  intro disk
  unfold isDirectory
  rw [bind_apply, query_apply]
  cases disk.status path with
  | ok node => exact Std.Refl.refl disk
  | error error => exact Std.Refl.refl disk

variable [Trans relation relation relation]

theorem keeps_ensureDirectory {path : Path} (hMake : Keeps relation (makeDirectory path)) :
    Keeps relation (ensureDirectory path) := by
  unfold ensureDirectory
  refine keeps_tryCatch hMake fun error => ?_
  cases error with
  | nulInPath => exact keeps_throw _
  | unencodable fault => exact keeps_throw _
  | system refusal =>
      dsimp only
      split
      · exact keeps_throw _
      · refine keeps_bind (keeps_isDirectory path) fun answer => ?_
        cases answer with
        | false => exact keeps_throw _
        | true => exact keeps_pure _

theorem keeps_ensureNames {start : PathRoot} {names : List Text}
    (hMake : ∀ front, front <+: names.reverse → Keeps relation (makeDirectory ⟨start, front⟩)) :
    Keeps relation (ensureNames start names) := by
  induction names with
  | nil => exact keeps_ensureDirectory (hMake [] List.nil_prefix)
  | cons name above ih =>
      have hAbove : ∀ front, front <+: above.reverse → Keeps relation (makeDirectory ⟨start, front⟩) := by
        intro front hFront
        have hLonger : above.reverse <+: (name :: above).reverse := by simp
        exact hMake front (hFront.trans hLonger)
      have hLast := hMake (name :: above).reverse List.prefix_rfl
      unfold ensureNames
      refine keeps_tryCatch hLast fun error => ?_
      cases error with
      | nulInPath => exact keeps_throw _
      | unencodable fault => exact keeps_throw _
      | system refusal =>
          dsimp only
          split
          · exact keeps_bind (ih hAbove) fun _ => keeps_ensureDirectory hLast
          · refine keeps_bind (keeps_isDirectory _) fun answer => ?_
            cases answer with
            | false => exact keeps_throw _
            | true => exact keeps_pure _

/-- However far a chain of directories gets made, nothing comes of it but what comes of making the single
directories of that chain. -/
theorem keeps_ensureDirectories_of_makeDirectory {path : Path}
    (hMake : ∀ front, front <+: path.names → Keeps relation (makeDirectory ⟨path.root, front⟩)) :
    Keeps relation (ensureDirectories path) := by
  refine keeps_ensureNames fun front hFront => hMake front ?_
  rwa [List.reverse_reverse] at hFront

end Directories

theorem keeps_makeDirectory {places : Place → Prop} {path : Path} (hPlace : places path.place) :
    Keeps (WidensAt places) (makeDirectory path) := by
  intro disk
  rcases makeDirectory_spec path disk with hSame | ⟨_, hNone, hMade⟩
  · exact hSame.widensAt
  · exact .trans ⟨.put_directory hPlace hNone, rfl⟩ hMade.widensAt

/-- The only directories that are made are those that the path leads through. -/
theorem keeps_ensureDirectories_passes (path : Path) :
    Keeps (WidensAt path.Passes) (ensureDirectories path) :=
  keeps_ensureDirectories_of_makeDirectory fun front hFront =>
    keeps_makeDirectory ⟨front, hFront, rfl⟩

theorem keeps_ensureDirectories (path : Path) : Keeps Widens (ensureDirectories path) := by
  intro disk
  obtain ⟨hGrows, hScratch⟩ := keeps_ensureDirectories_passes path disk
  exact ⟨hGrows.growsTo, hScratch⟩

/-- Opening the scratch file touches no file of the disk, and where it fails there is no new scratch
file either. -/
theorem openScratch_spec [Runtime] (path : Path) (before : Disk) :
    (stateAfter (openScratch path before)).nodes = before.nodes ∧
      ∀ error after, openScratch path before = .error error after →
        after.scratch = before.scratch := by
  unfold openScratch
  rw [bind_apply, query_apply]
  cases before.locateWith scratchExcess (scratchPath path) with
  | error refusal =>
      refine ⟨rfl, fun error after h => ?_⟩
      cases h
      rfl
  | ok place =>
      have hAsk := keeps_askDevice (scratchPath path) before
      simp only [bind_apply]
      cases hRun : askDevice (scratchPath path) before with
      | ok answer middle =>
          rw [hRun] at hAsk
          exact ⟨hAsk.1, fun error after h => by cases h⟩
      | error error middle =>
          rw [hRun] at hAsk
          refine ⟨hAsk.1, fun error after h => ?_⟩
          cases h
          exact hAsk.2

theorem transfer_apply (content : Bytes) (disk : Disk) :
    ∃ others, transfer content disk = .ok (content, none) { disk with verdicts := others } ∨
      ∃ written cause,
        transfer content disk = .ok (written, some cause) { disk with verdicts := others } := by
  obtain ⟨answer, others, h⟩ := verdict_apply disk
  refine ⟨others, ?_⟩
  unfold transfer
  rw [bind_apply, h]
  cases answer with
  | none => exact .inl rfl
  | some fault => exact .inr ⟨_, _, rfl⟩

/-- The scratch file is filled without touching any file of the disk, and if that succeeds it holds
the whole text. -/
theorem fillScratch_spec (text : Text) (before : Disk) :
    (stateAfter (fillScratch text before)).nodes = before.nodes ∧
      ∀ after, fillScratch text before = .ok () after →
        ∃ content, Utf8.encode text = .ok content ∧ after.scratch = some content := by
  unfold fillScratch encode
  cases hEncode : Utf8.encode text with
  | error fault => exact ⟨rfl, fun after h => by cases h⟩
  | ok content =>
      obtain ⟨others, hTransfer | ⟨written, cause, hTransfer⟩⟩ := transfer_apply content before
      · obtain ⟨answer, rest, hVerdict⟩ :=
          verdict_apply { before with verdicts := others, scratch := some content }
        simp only [bind_apply, pure_apply, hTransfer, modify_apply, failFor, hVerdict]
        cases answer with
        | none =>
            refine ⟨rfl, fun after h => ⟨content, rfl, ?_⟩⟩
            cases h
            rfl
        | some fault => exact ⟨rfl, fun after h => by cases h⟩
      · simp only [bind_apply, pure_apply, hTransfer, modify_apply, failFor]
        exact ⟨rfl, fun after h => by cases h⟩

/-- Moving the scratch file either fails and leaves every file as it is, or puts the content at the
place of the path, which is no directory. -/
theorem moveScratch_spec (path : Path) (before : Disk) :
    match moveScratch path before with
    | .error _ after => after.nodes = before.nodes
    | .ok _ after =>
        before.locate path = .ok path.place ∧ before.node? path.place ≠ some .directory ∧
          ∀ content, before.scratch = some content →
            after.nodes = (before.put path.place (.file content)).nodes ∧ after.scratch = none := by
  unfold moveScratch
  by_cases hName : path.names = [] ∨ path.name = Path.above
  · rw [if_pos hName]
    rfl
  · rw [if_neg hName]
    simp only [bind_apply, get_apply]
    cases hLocate : before.locate path with
    | error error =>
        cases error with
        | system refusal => rfl
        | nulInPath => rfl
        | unencodable fault => rfl
    | ok place =>
        obtain rfl := eq_place_of_locate hLocate
        simp only [bind_apply, get_apply]
        by_cases hNode : before.node? path.place = some .directory
        · rw [if_pos hNode]
          rfl
        · rw [if_neg hNode]
          obtain ⟨answer, others, hVerdict⟩ := verdict_apply before
          simp only [bind_apply, hVerdict]
          cases answer with
          | some fault => rfl
          | none =>
              refine ⟨trivial, hNode, fun content hScratch => ?_⟩
              simp only [hScratch, put, and_self]

theorem follow_of_nodes_eq {first second : Disk} (h : second.nodes = first.nodes) (excess : Nat)
    (start : Place) (names : List Text) :
    second.follow excess start names = first.follow excess start names := by
  induction names generalizing start with
  | nil => rfl
  | cons name names ih => simp only [follow, node?_of_nodes_eq h, ih]

theorem locate_of_nodes_eq {first second : Disk} (h : second.nodes = first.nodes) (path : Path) :
    second.locate path = first.locate path := by
  simp only [locate, locateWith, follow_of_nodes_eq h]

/-- The scratch file is opened where its name is taken, which costs one step of the device. -/
theorem openScratch_eq_ok [Runtime] {path : Path} {disk opened : Disk} :
    openScratch path disk = .ok () opened ↔
      (∃ place, disk.locateWith scratchExcess (scratchPath path) = .ok place) ∧ disk.Grants 1 ∧
        opened = { disk with verdicts := disk.verdicts.tail, scratch := some [] } := by
  unfold openScratch askDevice
  rw [bind_apply, query_apply, grants_succ]
  cases hLocate : disk.locateWith scratchExcess (scratchPath path) with
  | error error => simp
  | ok place =>
      simp only [bind_apply, verdict_eq]
      cases disk.verdicts.headD none with
      | none => simp [pure_apply, modify_apply, grants_zero, eq_comm]
      | some fault => simp [fail, throw_apply]

/-- The scratch file is filled with any text that can be encoded, which costs two steps of the device. -/
theorem fillScratch_eq_ok {text : Text} {content : Bytes} {disk filled : Disk}
    (hEncode : Utf8.encode text = .ok content) :
    fillScratch text disk = .ok () filled ↔ disk.Grants 2 ∧
      filled = { disk with verdicts := disk.verdicts.tail.tail, scratch := some content } := by
  unfold fillScratch encode transfer
  rw [hEncode, grants_succ, grants_succ]
  simp only [bind_apply, pure_apply, verdict_eq]
  cases disk.verdicts.headD none with
  | some fault => simp [pure_apply, modify_apply, failFor, failUnnamed, throw_apply]
  | none =>
      simp only [pure_apply, modify_apply, failFor]
      cases disk.verdicts.tail.headD none with
      | none => simp [pure_apply, grants_zero, eq_comm]
      | some fault => simp [failUnnamed, throw_apply]

/-- The path leads to a place for a file: its last name is one of its own, and no directory lies there. -/
structure IsTarget (disk : Disk) (path : Path) : Prop where
  named : ¬ (path.names = [] ∨ path.name = Path.above)
  leads : disk.locate path = .ok path.place
  free : disk.node? path.place ≠ some .directory

theorem isTarget_of_nodes_eq {first second : Disk} (h : second.nodes = first.nodes) {path : Path} :
    second.IsTarget path ↔ first.IsTarget path := by
  have hLocate := locate_of_nodes_eq h path
  have hNode := node?_of_nodes_eq h path.place
  constructor
  · rintro ⟨hNamed, hLeads, hFree⟩
    exact ⟨hNamed, hLocate ▸ hLeads, hNode ▸ hFree⟩
  · rintro ⟨hNamed, hLeads, hFree⟩
    exact ⟨hNamed, hLocate.trans hLeads, fun hDirectory => hFree (hNode.symm.trans hDirectory)⟩

/-- The scratch file is moved to any target, which costs one step of the device. What it holds does not
matter. -/
theorem exists_moveScratch_eq_ok {path : Path} {disk : Disk} :
    (∃ moved, moveScratch path disk = .ok () moved) ↔ disk.IsTarget path ∧ disk.Grants 1 := by
  rw [grants_succ]
  unfold moveScratch
  by_cases hName : path.names = [] ∨ path.name = Path.above
  · rw [if_pos hName]
    constructor
    · rintro ⟨moved, h⟩
      cases h
    · rintro ⟨hTarget, _⟩
      exact absurd hName hTarget.named
  · rw [if_neg hName]
    simp only [bind_apply, get_apply]
    cases hLocate : disk.locate path with
    | error error =>
        constructor
        · rintro ⟨moved, h⟩
          cases error with
          | system refusal => cases h
          | nulInPath => cases h
          | unencodable fault => cases h
        · rintro ⟨⟨_, hLeads, _⟩, _⟩
          rw [hLocate] at hLeads
          cases hLeads
    | ok place =>
        obtain rfl := eq_place_of_locate hLocate
        simp only [bind_apply, get_apply]
        by_cases hNode : disk.node? path.place = some .directory
        · rw [if_pos hNode]
          constructor
          · rintro ⟨moved, h⟩
            cases h
          · rintro ⟨hTarget, _⟩
            exact absurd hNode hTarget.free
        · rw [if_neg hNode]
          simp only [bind_apply, verdict_eq]
          cases disk.verdicts.headD none with
          | none =>
              exact ⟨fun _ => ⟨⟨hName, hLocate, hNode⟩, rfl, grants_zero _⟩, fun _ => ⟨_, rfl⟩⟩
          | some fault =>
              constructor
              · rintro ⟨moved, h⟩
                cases h
              · rintro ⟨_, h, _⟩
                cases h

/-- The content lies at the place of a path. Nothing else differs but for new directories, which also
lead there, and no scratch file is left. -/
def Wrote (path : Path) (content : Bytes) (before after : Disk) : Prop :=
  ∃ wider, before.GrowsTo wider ∧ wider.locate path = .ok path.place ∧
    wider.node? path.place ≠ some .directory ∧
    after.nodes = (wider.put path.place (.file content)).nodes ∧ after.scratch = none

section Atomically

variable [Runtime]

/-- The four steps of a write that succeeds. -/
theorem writeAtomically_eq_ok {path : Path} {text : Text} {before after : Disk} :
    writeAtomically path text before = .ok () after ↔ ∃ grown opened filled,
      ensureDirectories path.parent before = .ok () grown ∧ openScratch path grown = .ok () opened ∧
        fillScratch text opened = .ok () filled ∧ moveScratch path filled = .ok () after := by
  unfold writeAtomically
  simp only [bind_eq_ok, tryCatch_rethrow_eq_ok]
  constructor
  · rintro ⟨_, grown, hDirectories, _, opened, hOpen, _, filled, hFill, hMove⟩
    exact ⟨grown, opened, filled, hDirectories, hOpen, hFill, hMove⟩
  · rintro ⟨grown, opened, filled, hDirectories, hOpen, hFill, hMove⟩
    exact ⟨(), grown, hDirectories, (), opened, hOpen, (), filled, hFill, hMove⟩

/-- A write that succeeds has made the directories of its path, which then leads to its place, and put the
whole encoded text there. -/
theorem writeAtomically_ok_parts {path : Path} {text : Text} {before after : Disk}
    (h : writeAtomically path text before = .ok () after) :
    ∃ content grown, Utf8.encode text = .ok content ∧
      ensureDirectories path.parent before = .ok () grown ∧ grown.locate path = .ok path.place ∧
      grown.node? path.place ≠ some .directory ∧
      after.nodes = (grown.put path.place (.file content)).nodes ∧ after.scratch = none := by
  obtain ⟨grown, opened, filled, hDirectories, hOpen, hFill, hMove⟩ := writeAtomically_eq_ok.mp h
  have hOpened := (openScratch_spec path grown).1
  rw [hOpen] at hOpened
  obtain ⟨hFilled, hContent⟩ := fillScratch_spec text opened
  rw [hFill] at hFilled
  obtain ⟨content, hEncode, hScratch⟩ := hContent filled hFill
  have hMoved := moveScratch_spec path filled
  rw [hMove] at hMoved
  obtain ⟨hLocate, hNode, hPlaced⟩ := hMoved
  obtain ⟨hNodes, hNoScratch⟩ := hPlaced content hScratch
  have hSame : filled.nodes = grown.nodes := hFilled.trans hOpened
  rw [locate_of_nodes_eq hSame] at hLocate
  simp only [node?, put, hSame] at hNode hNodes
  exact ⟨content, grown, hEncode, hDirectories, hLocate, hNode, hNodes, hNoScratch⟩

/-- A write that succeeds has put the whole encoded text in place. -/
theorem writeAtomically_ok {path : Path} {text : Text} {before after : Disk}
    (h : writeAtomically path text before = .ok () after) :
    ∃ content, Utf8.encode text = .ok content ∧ Wrote path content before after := by
  obtain ⟨content, grown, hEncode, hDirectories, hPlaced⟩ := writeAtomically_ok_parts h
  have hGrown := (keeps_ensureDirectories path.parent).of_ok hDirectories
  exact ⟨content, hEncode, grown, hGrown.1, hPlaced⟩

/-- A text that can be encoded is written to every target, once the directories above it are made, if the
scratch file can be opened. The four steps of the device that follow have to succeed. -/
theorem exists_writeAtomically_eq_ok {path : Path} {text : Text} {content : Bytes} {disk grown : Disk}
    (hEncode : Utf8.encode text = .ok content)
    (hDirectories : ensureDirectories path.parent disk = .ok () grown) :
    (∃ after, writeAtomically path text disk = .ok () after) ↔
      (∃ place, grown.locateWith scratchExcess (scratchPath path) = .ok place) ∧ grown.IsTarget path ∧
        grown.Grants 4 := by
  -- the disk on which the scratch file is moved
  let filled : Disk := { grown with verdicts := grown.verdicts.tail.tail.tail, scratch := some content }
  have hSame : filled.IsTarget path ↔ grown.IsTarget path := @isTarget_of_nodes_eq grown filled rfl path
  constructor
  · rintro ⟨after, h⟩
    obtain ⟨other, opened, _, hOther, hOpen, hFill, hMove⟩ := writeAtomically_eq_ok.mp h
    rw [hDirectories] at hOther
    cases hOther
    obtain ⟨hScratch, hOpening, rfl⟩ := openScratch_eq_ok.mp hOpen
    obtain ⟨hFilling, rfl⟩ := (fillScratch_eq_ok hEncode).mp hFill
    obtain ⟨hTarget, hMoving⟩ := exists_moveScratch_eq_ok.mp ⟨after, hMove⟩
    refine ⟨hScratch, hSame.mp hTarget, ?_⟩
    simp only [grants_succ, grants_zero, and_true] at hOpening hFilling hMoving ⊢
    exact ⟨hOpening, hFilling.1, hFilling.2, hMoving⟩
  · rintro ⟨hScratch, hTarget, hDevice⟩
    simp only [grants_succ, grants_zero, and_true] at hDevice
    obtain ⟨hOpening, hFilling, hStoring, hMoving⟩ := hDevice
    have hOpen : openScratch path grown =
        .ok () { grown with verdicts := grown.verdicts.tail, scratch := some [] } := by
      rw [openScratch_eq_ok, grants_succ]
      exact ⟨hScratch, ⟨hOpening, grants_zero _⟩, rfl⟩
    have hFill : fillScratch text { grown with verdicts := grown.verdicts.tail, scratch := some [] } =
        .ok () filled := by
      rw [fillScratch_eq_ok hEncode, grants_succ, grants_succ]
      exact ⟨⟨hFilling, hStoring, grants_zero _⟩, rfl⟩
    have hMovable : filled.Grants 1 := grants_succ.mpr ⟨hMoving, grants_zero _⟩
    obtain ⟨after, hMove⟩ := exists_moveScratch_eq_ok.mpr ⟨hSame.mpr hTarget, hMovable⟩
    exact ⟨after, writeAtomically_eq_ok.mpr ⟨grown, _, filled, hDirectories, hOpen, hFill, hMove⟩⟩

/-- A write succeeds with one text if it does with another one, provided that both can be encoded. -/
theorem writeAtomically_ok_of_ok {path : Path} {text other : Text} {content : Bytes}
    {before after : Disk} (hOther : Utf8.encode other = .ok content)
    (h : writeAtomically path text before = .ok () after) :
    ∃ written, writeAtomically path other before = .ok () written := by
  obtain ⟨first, grown, hEncode, hDirectories, _⟩ := writeAtomically_ok_parts h
  rw [exists_writeAtomically_eq_ok hOther hDirectories]
  exact (exists_writeAtomically_eq_ok hEncode hDirectories).mp ⟨after, h⟩

/-- A file can be written at the path: the empty text gets there, and so does any other one that can
be encoded. -/
def Accepts (disk : Disk) (path : Path) : Prop :=
  ∃ written, writeAtomically path [] disk = .ok () written

theorem Accepts.exists_ok {disk : Disk} {path : Path} (h : disk.Accepts path) {text : Text}
    (hWhole : text.isWhole = true) : ∃ written, writeAtomically path text disk = .ok () written := by
  obtain ⟨chars, rfl⟩ := Utf8.exists_ofChars hWhole
  obtain ⟨_, hEmpty⟩ := h
  exact writeAtomically_ok_of_ok (Utf8.encode_ofChars chars) hEmpty

/-- A write that is refused, at whatever step and for whatever reason, leaves the directories that were
made for it, and no scratch file. -/
theorem writeAtomically_error_parts {path : Path} {text : Text} {error : DiskError} {before after : Disk}
    (h : writeAtomically path text before = .error error after) :
    after.nodes = (stateAfter (ensureDirectories path.parent before)).nodes ∧
      (after.scratch = before.scratch ∨ after.scratch = none) := by
  unfold writeAtomically at h
  rcases bind_eq_error.mp h with hDirectories | ⟨_, grown, hDirectories, h⟩
  · have hGrown := keeps_ensureDirectories path.parent before
    rw [hDirectories] at hGrown ⊢
    exact ⟨rfl, .inl hGrown.2⟩
  · have hGrown := (keeps_ensureDirectories path.parent).of_ok hDirectories
    obtain ⟨hOpened, hUnopened⟩ := openScratch_spec path grown
    rw [hDirectories]
    rcases bind_eq_error.mp h with hOpen | ⟨_, opened, hOpen, h⟩
    · rw [hOpen] at hOpened
      exact ⟨hOpened, .inl ((hUnopened _ _ hOpen).trans hGrown.2)⟩
    · rw [hOpen] at hOpened
      rw [tryCatch_apply] at h
      cases hBody : (fillScratch text >>= fun _ => moveScratch path) opened with
      | ok answer finished =>
          rw [hBody] at h
          cases h
      | error cause failed =>
          rw [hBody] at h
          cases h
          have hNodes : failed.nodes = opened.nodes := by
            obtain ⟨hFilled, _⟩ := fillScratch_spec text opened
            rcases bind_eq_error.mp hBody with hFill | ⟨_, filled, hFill, hMove⟩
            · rw [hFill] at hFilled
              exact hFilled
            · rw [hFill] at hFilled
              have hMoved := moveScratch_spec path filled
              rw [hMove] at hMoved
              exact hMoved.trans hFilled
          exact ⟨hNodes.trans hOpened, .inr rfl⟩

/-- A write that is refused leaves new directories at most. -/
theorem writeAtomically_error {path : Path} {text : Text} {error : DiskError} {before after : Disk}
    (h : writeAtomically path text before = .error error after) :
    before.GrowsTo after ∧ (after.scratch = before.scratch ∨ after.scratch = none) := by
  obtain ⟨hNodes, hScratch⟩ := writeAtomically_error_parts h
  exact ⟨(keeps_ensureDirectories path.parent before).1.trans (.of_nodes hNodes), hScratch⟩

end Atomically

namespace Wrote

variable {path : Path} {content : Bytes} {before after : Disk}

theorem place_ne_nil (h : Wrote path content before after) : path.place ≠ [] := by
  obtain ⟨wider, _, _, hNode, _⟩ := h
  intro hPlace
  rw [hPlace] at hNode
  exact hNode rfl

theorem fileAt_place (h : Wrote path content before after) :
    after.fileAt path.place = some content := by
  have hPlace := h.place_ne_nil
  obtain ⟨wider, _, _, _, hNodes, _⟩ := h
  exact fileAt_eq_some.mpr (node?_of_put hNodes hPlace)

/-- Every other file is as it was, and no other file is new. -/
theorem fileAt_of_ne (h : Wrote path content before after) {place : Place}
    (hPlace : place ≠ path.place) : after.fileAt place = before.fileAt place := by
  obtain ⟨wider, hGrows, _, _, hNodes, _⟩ := h
  rw [← hGrows.fileAt_eq place, fileAt, fileAt, node?_of_put_ne hNodes hPlace]

theorem keepsKinds (h : Wrote path content before after) : before.KeepsKinds after := by
  obtain ⟨wider, hGrows, _, hNode, hNodes, _⟩ := h
  exact hGrows.keepsKinds.trans (keepsKinds_of_put_file hNode hNodes)

theorem locate_eq (h : Wrote path content before after) : after.locate path = .ok path.place := by
  obtain ⟨wider, _, hLocate, hNode, hNodes, _⟩ := h
  rw [locate_of_keepsKinds (keepsKinds_of_put_file hNode hNodes), hLocate]
  rw [hLocate]
  exact nofun

theorem read_eq (h : Wrote path content before after) : after.read path = .ok content :=
  read_eq_ok.mpr ⟨h.locate_eq, h.fileAt_place⟩

end Wrote

end ScenarioDesk.Disk
