import ScenarioDesk.Disk.Write
import ScenarioDesk.Host.Journal
import ScenarioDesk.Runtime
import ScenarioDesk.Scenario.Record

/-!
What a run of the program works on beside its own state: the disk, the source of new ids, and the
journal. `Failure` gathers the errors that the program does not handle itself.
-/

namespace ScenarioDesk

/-- The surroundings of a run. -/
structure Host where
  disk : Disk := {}
  ids : IdSource := {}
  /-- The entries written so far, oldest first. -/
  journal : List LogEntry := []

/-- An error that ends the operation in which it arises. -/
inductive Failure where
  | disk (error : DiskError)
  | json (error : Json.ReadError)
  | undecodable (fault : Utf8.Fault)
  /-- The environment names no home directory. -/
  | homeUnknown
  /-- The name of a log level that does not exist. -/
  | unknownLevel (name : Text)
  /-- A configured log level of a kind that cannot be looked up. -/
  | levelNotLookedUp (kind : Text)
  deriving DecidableEq, Repr

/-- The message for a failure. -/
def Failure.message : Failure → Text
  | .disk error => error.message
  | .json error => error.message
  | .undecodable fault => fault.message
  | .homeUnknown => "Could not determine home directory."
  | .unknownLevel name => "Unknown level: " ++ Text.quote name
  | .levelNotLookedUp kind => "unhashable type: " ++ Text.quote kind

/-- An operation on the host. What it did before it failed stays done. -/
abbrev HostM := EStateM Failure Host

namespace Host

/-- An entry cannot be put into words: a value that it shows has too many levels. -/
def isUnshowable [Runtime] (entry : LogEntry) : Bool :=
  entry.value?.any fun value => Runtime.shownDepth < value.levels

/-- Writes an entry into the journal, unless it cannot be put into words. -/
def log [Runtime] (entry : LogEntry) : HostM Unit :=
  if isUnshowable entry then throw (.json (.tooDeep .shown))
  else modify fun host => { host with journal := host.journal ++ [entry] }

/-- The result of a disk operation, whose effects on the disk stay in either case. -/
def attempt {α : Type} (operation : DiskM α) : HostM (Except DiskError α) := modifyGet fun host =>
  match operation host.disk with
  | .ok result disk => (.ok result, { host with disk := disk })
  | .error error disk => (.error error, { host with disk := disk })

/-- A disk operation whose errors are not handled. -/
def onDisk {α : Type} (operation : DiskM α) : HostM α := do
  match ← attempt operation with
  | .ok result => return result
  | .error error => throw (.disk error)

end Host

end ScenarioDesk
