import ScenarioDesk.Disk.Basic
import ScenarioDesk.Runtime

/-!
Writing. Every step asks the device, so each of them can fail. `writeFile` overwrites a file in
place; `writeAtomically` writes a scratch file beside the target and moves it there, so that the
target has either its old or its new content.
-/

namespace ScenarioDesk.Disk

/-- The device's answer to the next write step. -/
def verdict : DiskM (Option DeviceFault) := modifyGet fun disk =>
  match disk.verdicts with
  | [] => (none, disk)
  | answer :: others => (answer, { disk with verdicts := others })

/-- Fails with a reason and the path it is about. -/
def fail {α : Type} (cause : DiskCause) (path : Path) : DiskM α :=
  throw (.system ⟨cause, some path.text, none⟩)

/-- Fails if the device does. -/
def askDevice (path : Path) : DiskM Unit := do
  match ← verdict with
  | none => return ()
  | some fault => fail fault.cause path

/-- The result of a question to the disk that changes nothing. -/
def query {α : Type} (question : Disk → Except DiskError α) : DiskM α := do
  match question (← get) with
  | .ok answer => return answer
  | .error error => throw error

/-- A directory lies at a path. -/
def isDirectory (path : Path) : DiskM Bool := do
  return (← query fun disk => disk.status path) = some .directory

/-- Makes one directory, whose parent has to exist. -/
def makeDirectory (path : Path) : DiskM Unit := do
  let place ← query fun disk => disk.locate path
  if ((← get).node? place).isSome then fail .alreadyThere path
  askDevice path
  modify fun disk => disk.put place .directory

/-- Makes one directory unless there already is one. -/
def ensureDirectory (path : Path) : DiskM Unit := do
  try makeDirectory path
  catch error =>
    match error with
    | .system refusal =>
      if refusal.cause = .missing then throw error
      if !(← isDirectory path) then throw error
    | _ => throw error

/-- Makes a directory and those above it, as far as they are missing. The names are given from the
innermost outwards. -/
def ensureNames (start : PathRoot) : List Text → DiskM Unit
  | [] => ensureDirectory ⟨start, []⟩
  | name :: above => do
    let path : Path := ⟨start, (name :: above).reverse⟩
    try makeDirectory path
    catch error =>
      match error with
      | .system refusal =>
        if refusal.cause = .missing then
          ensureNames start above
          ensureDirectory path
        else if !(← isDirectory path) then throw error
      | _ => throw error

/-- Makes a directory and those above it, as far as they are missing. -/
def ensureDirectories (path : Path) : DiskM Unit := ensureNames path.root path.names.reverse

/-- Fails in a step that is not about a path. -/
def failUnnamed {α : Type} (cause : DiskCause) : DiskM α := throw (.system ⟨cause, none, none⟩)

/-- The bytes that a text is stored as. -/
def encode (text : Text) : DiskM Bytes :=
  match Utf8.encode text with
  | .ok content => return content
  | .error fault => throw (.unencodable fault)

/-- Hands some content to the device: what reaches the file, and the reason why not all of it did. -/
def transfer (content : Bytes) : DiskM (Bytes × Option DiskCause) := do
  match ← verdict with
  | none => return (content, none)
  | some fault => return (content.take fault.written, some fault.cause)

/-- Fails for a reason, if there is one. -/
def failFor : Option DiskCause → DiskM Unit
  | none => return ()
  | some cause => failUnnamed cause

/-- Opens the file at a path for writing, which empties or makes it. -/
def openEmpty (path : Path) : DiskM Place := do
  let place ← query fun disk => disk.locate path
  if (← get).node? place = some .directory then fail .isDirectory path
  askDevice path
  modify fun disk => disk.put place (.file [])
  return place

/-- Overwrites the file at a path. A failure may leave it empty or cut short. The file is open before
the text is encoded, so a text that cannot be encoded leaves it empty. -/
def writeFile (path : Path) (text : Text) : DiskM Unit := do
  let place ← openEmpty path
  let (written, cause) ← transfer (← encode text)
  modify fun disk => disk.put place (.file written)
  failFor cause

/-- The name of the scratch file for a name. Two marks stand for the number of the process and for a
random token. -/
def scratchName (name : Text) : Text := "." ++ name ++ ".PID.UUID.tmp"

/-- How many bytes longer than their marks the number of the process and the random token are. The token
has 32 letters, and the marks have seven together. -/
def scratchExcess [Runtime] : Nat := Runtime.processDigits + 25

/-- Where the scratch file for a path lies: in the same directory. -/
def scratchPath (path : Path) : Path := path.withName (scratchName path.name)

/-- Opens the scratch file for a path. Its token is new, so it never is a file that exists. -/
def openScratch [Runtime] (path : Path) : DiskM Unit := do
  let _ ← query fun disk => disk.locateWith scratchExcess (scratchPath path)
  askDevice (scratchPath path)
  modify fun disk => { disk with scratch := some [] }

/-- Fills the scratch file and waits until the device has stored it. -/
def fillScratch (text : Text) : DiskM Unit := do
  let (written, cause) ← transfer (← encode text)
  modify fun disk => { disk with scratch := some written }
  failFor cause
  match ← verdict with
  | none => return ()
  | some fault => failUnnamed fault.cause

/-- Fails in moving the scratch file to its target. -/
def failMove {α : Type} (cause : DiskCause) (path : Path) : DiskM α :=
  throw (.system ⟨cause, some (scratchPath path).text, some path.text⟩)

/-- Moves the scratch file to its target. A directory is never replaced, and the working directory
and the parent of a directory are always in use. -/
def moveScratch (path : Path) : DiskM Unit := do
  if path.names = [] ∨ path.name = Path.above then failMove .busy path
  match (← get).locate path with
  | .error (.system error) => failMove error.cause path
  | .error error => throw error
  | .ok place =>
    if (← get).node? place = some .directory then failMove .isDirectory path
    match ← verdict with
    | some fault => failMove fault.cause path
    | none => modify fun disk =>
        match disk.scratch with
        | some content => { disk.put place (.file content) with scratch := none }
        | none => disk

/-- Writes a file so that nothing but the complete content ever lies at its path: first a scratch
file in the same directory, which is made if it is missing, then a move. The scratch file is removed
if a step fails. -/
def writeAtomically [Runtime] (path : Path) (text : Text) : DiskM Unit := do
  ensureDirectories path.parent
  openScratch path
  try
    fillScratch text
    moveScratch path
  catch error =>
    modify fun disk => { disk with scratch := none }
    throw error

end ScenarioDesk.Disk
