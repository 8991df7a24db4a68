import ScenarioDesk.Host.Basic
import ScenarioDesk.Scenario.Collection
import ScenarioDesk.Json.Printer
import ScenarioDesk.Runtime
import ScenarioDesk.Text.FileText

/-!
The scenario store: one JSON array in one file. Loading takes every usable entry with a new id and
reports each of the others; a file that cannot be read counts as empty, which is reported too. What lies
too deep to be read or reported is a failure.
-/

namespace ScenarioDesk.Store

/-- What becomes of one entry of a stored array. -/
inductive EntryFate where
  | loaded (scenario : Scenario)
  | malformed (entry : Json)
  | duplicate (id : Text)

/-- What becomes of the entries, given the ids taken before them. Only loaded entries take an
id. -/
def fates (taken : List Text) : List Json → List EntryFate
  | [] => []
  | entry :: entries =>
    match Scenario.ofJson? entry with
    | none => .malformed entry :: fates taken entries
    | some scenario =>
      if taken.contains scenario.id then .duplicate scenario.id :: fates taken entries
      else .loaded scenario :: fates (scenario.id :: taken) entries

/-- The scenario of an entry that is loaded. -/
def EntryFate.scenario? : EntryFate → Option Scenario
  | .loaded scenario => some scenario
  | _ => none

/-- What is reported about an entry that is not loaded. -/
def EntryFate.warning? (path : Text) : EntryFate → Option LogEntry
  | .loaded _ => none
  | .malformed entry => some (.malformedEntry path entry)
  | .duplicate id => some (.duplicateId id path)

/-- The scenarios of the entries. -/
def accepted (entries : List Json) : Collection := (fates [] entries).filterMap EntryFate.scenario?

/-- What loading the entries reports. -/
def report (path : Text) (entries : List Json) : List LogEntry :=
  (fates [] entries).filterMap (EntryFate.warning? path) ++
    [.loaded (accepted entries).length path]

variable [Runtime]

/-- The scenarios of the file at a path, none if there is no file. -/
def load (path : Path) : HostM Collection := do
  if !(← Host.onDisk (Disk.query fun disk => disk.contains path)) then return []
  match ← Host.attempt (Disk.query fun disk => disk.read path) with
  | .error (.system error) =>
    Host.log (.unreadable path.text (.disk error))
    return []
  | .error error => throw (.disk error)
  | .ok content =>
    match Json.readWithin Runtime.storeDepth (FileText.read content) with
    | .error (.malformed reason line column offset) =>
      Host.log (.unreadable path.text (.malformed (.malformed reason line column offset)))
      return []
    | .error error => throw (.json error)
    | .ok (.array entries) =>
      for entry in report path.text entries do Host.log entry
      return accepted entries
    | .ok _ =>
      Host.log (.notAnArray path.text)
      return []

/-- The stored text of a collection. -/
def render (scenarios : Collection) : Text := (Json.array (scenarios.map Scenario.toJson)).render

/-- Writes a collection to the file at a path, all of it or nothing. -/
def save (path : Path) (scenarios : Collection) : HostM Unit := do
  Host.onDisk (Disk.writeAtomically path (render scenarios))
  Host.log (.wrote scenarios.length path.text)

end ScenarioDesk.Store
