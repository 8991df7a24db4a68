import ScenarioDesk.Host.Basic
import ScenarioDesk.Json.Printer
import ScenarioDesk.Runtime
import ScenarioDesk.Settings.Basic
import ScenarioDesk.Text.FileText

/-!
The settings file. It is overwritten in place. A file that is missing, refused by the disk or not
JSON counts as one without settings; bytes that are not UTF-8 and a text that the reader refuses for its
limits are failures.
-/

namespace ScenarioDesk.Settings

/-- The settings of the file at a path. -/
def load [Runtime] (path : Path) : HostM Settings := do
  if !(← Host.onDisk (Disk.query fun disk => disk.contains path)) then return {}
  match ← Host.attempt (Disk.query fun disk => disk.read path) with
  | .error (.system _) => return {}
  | .error error => throw (.disk error)
  | .ok content =>
    match FileText.readStrict content with
    | .error fault => throw (.undecodable fault)
    | .ok text =>
      match Json.readWithin Runtime.settingsDepth text with
      | .error (.malformed ..) => return {}
      | .error error => throw (.json error)
      | .ok data => return ofJson data

end ScenarioDesk.Settings

namespace ScenarioDesk.StoredSettings

/-- Writes the fields to the file at a path, whose directory is made if it is missing. -/
def save (path : Path) (stored : StoredSettings) : HostM Unit :=
  Host.onDisk do
    Disk.ensureDirectories path.parent
    Disk.writeFile path stored.toJson.render

end ScenarioDesk.StoredSettings
