import ScenarioDesk.Disk.Error

/-!
The disk: a tree of directories and files, kept as a table from places to what lies there. A place
is the list of names from the working directory down; the working directory itself is always there.
Looking a path up follows the system: every directory on the way has to exist, a double dot leads
back to where it came from, and a name has at most 255 bytes.

Devices fail. The disk holds what the device will answer to the coming write steps, so a statement
about all disks is a statement about all ways of failing.
-/

namespace ScenarioDesk

/-- Names from the working directory down. -/
abbrev Place := List Text

/-- What lies at a place. -/
inductive Node where
  | directory
  | file (content : Bytes)
  deriving DecidableEq, Repr

/-- A failure of the device in one write step: the reason, and how many bytes of the content still
reached the file. -/
structure DeviceFault where
  cause : DiskCause
  written : Nat := 0
  deriving DecidableEq, Repr

/-- The state of the disk. -/
structure Disk where
  /-- What lies at each place below the working directory. Places are distinct. -/
  nodes : List (Place × Node) := []
  /-- The content of a file that is being written under a random name, which no path leads to. -/
  scratch : Option Bytes := none
  /-- What the device answers to the coming write steps, `none` for success. All later ones
  succeed. -/
  verdicts : List (Option DeviceFault) := []
  deriving DecidableEq, Repr

/-- An operation on the disk. What it did before it failed stays done. -/
abbrev DiskM := EStateM DiskError Disk

namespace Disk

/-- The most bytes of one name. -/
def nameLimit : Nat := 255

/-- The least size of a path, in bytes, that is too long for the system. -/
def pathLimit : Nat := 4096

/-- What lies at a place. -/
def node? (disk : Disk) (place : Place) : Option Node :=
  if place = [] then some .directory else disk.nodes.lookup place

/-- A table with something else at a place: in the row of that place, or in a new last row. -/
def setNode (place : Place) (node : Node) : List (Place × Node) → List (Place × Node)
  | [] => [(place, node)]
  | row :: rows => if row.1 = place then (place, node) :: rows else row :: setNode place node rows

/-- The disk with something else at a place. -/
def put (disk : Disk) (place : Place) (node : Node) : Disk :=
  { disk with nodes := setNode place node disk.nodes }

/-- The disk with nothing at a place and below it. -/
def eraseTree (disk : Disk) (place : Place) : Disk :=
  { disk with nodes := disk.nodes.filter fun entry => !place.isPrefixOf entry.1 }

/-- Follows names from a place. The last name may be one that does not exist yet. `excess` is how
many bytes the last name takes on the disk beyond those it is written with here. -/
def follow (disk : Disk) (excess : Nat) : Place → List Text → Except DiskCause Place
  | place, [] => .ok place
  | place, name :: names =>
    match disk.node? place with
    | none => .error .missing
    | some (.file _) => .error .notDirectory
    | some .directory =>
      let size := Utf8.size name + (if names = [] then excess else 0)
      if nameLimit < size then .error .nameTooLong
      else if name = Path.above then disk.follow excess place.dropLast names
      else disk.follow excess (place ++ [name]) names

/-- The refusal of a path. -/
def refuse {α : Type} (cause : DiskCause) (path : Path) : Except DiskError α :=
  .error (.system ⟨cause, some path.text, none⟩)

/-- The place that a path leads to, where the last name takes some bytes in excess. -/
def locateWith (disk : Disk) (excess : Nat) (path : Path) : Except DiskError Place :=
  if path.hasNul then .error .nulInPath
  else if pathLimit ≤ Utf8.size path.text + excess then refuse .nameTooLong path
  else match disk.follow excess [] path.names with
    | .ok place => .ok place
    | .error cause => refuse cause path

/-- The place that a path leads to. -/
def locate (disk : Disk) (path : Path) : Except DiskError Place := disk.locateWith 0 path

/-- What lies at a path, if anything does. -/
def status (disk : Disk) (path : Path) : Except DiskError (Option Node) :=
  match disk.locate path with
  | .ok place => .ok (disk.node? place)
  | .error (.system error) =>
    if error.cause = .missing ∨ error.cause = .notDirectory then .ok none
    else .error (.system error)
  | .error _ => .ok none

/-- Something lies at a path. -/
def contains (disk : Disk) (path : Path) : Except DiskError Bool :=
  (disk.status path).map Option.isSome

/-- The content of the file at a path. -/
def read (disk : Disk) (path : Path) : Except DiskError Bytes := do
  let place ← disk.locate path
  match disk.node? place with
  | some (.file content) => return content
  | some .directory => refuse .isDirectory path
  | none => refuse .missing path

/-- The paths of everything on the disk in order, those of directories with a slash at the end. -/
def listing (disk : Disk) : List Text :=
  let entry : Place × Node → Text
    | (place, .directory) => Text.join ['/'] place ++ "/"
    | (place, .file _) => Text.join ['/'] place
  (disk.nodes.map entry).mergeSort Text.notAfter

theorem lookup_setNode_self (place : Place) (node : Node) (rows : List (Place × Node)) :
    (setNode place node rows).lookup place = some node := by
  induction rows with
  | nil => simp [setNode]
  | cons row rows ih =>
    unfold setNode
    split
    · simp
    · next h =>
      have : (place == row.1) = false := by simpa using fun he => h he.symm
      rw [List.lookup_cons, this, ih]

theorem lookup_setNode_of_ne {place other : Place} (h : other ≠ place) (node : Node)
    (rows : List (Place × Node)) :
    (setNode place node rows).lookup other = rows.lookup other := by
  have ho : (other == place) = false := by simpa using h
  induction rows with
  | nil => rw [setNode, List.lookup_cons, ho]
  | cons row rows ih =>
    unfold setNode
    split
    · next he => rw [List.lookup_cons, List.lookup_cons, he, ho]
    · rw [List.lookup_cons, List.lookup_cons, ih]

/-- What was put at a place lies there. -/
theorem node?_put_self (disk : Disk) {place : Place} (h : place ≠ []) (node : Node) :
    (disk.put place node).node? place = some node := by
  simp [put, node?, h, lookup_setNode_self]

/-- Every other place keeps what lies there. -/
theorem node?_put_of_ne (disk : Disk) {place other : Place} (h : other ≠ place) (node : Node) :
    (disk.put place node).node? other = disk.node? other := by
  simp [put, node?, lookup_setNode_of_ne h]

end Disk

end ScenarioDesk
