import ScenarioDesk.Disk.Error
import ScenarioDesk.Json.Reader
import ScenarioDesk.Json.Shown

/-!
The journal: what the program reports about its files, beside what it tells the user.
-/

namespace ScenarioDesk

/-- How important an entry of the journal is. -/
inductive Severity where
  | debug
  | info
  | warning
  | error
  deriving DecidableEq, Repr

/-- The name of a severity. -/
def Severity.name : Severity → Text
  | .debug => "DEBUG"
  | .info => "INFO"
  | .warning => "WARNING"
  | .error => "ERROR"

/-- Why stored scenarios cannot be read: the disk refuses, or the text is no JSON. -/
inductive UnreadableCause where
  | disk (error : SystemError)
  | malformed (error : Json.ReadError)

/-- The words for an unreadable store. -/
def UnreadableCause.message : UnreadableCause → Text
  | .disk error => error.message
  | .malformed error => error.message

/-- An entry of the journal. Paths are kept as they are shown. -/
inductive LogEntry where
  | loaded (count : Nat) (path : Text)
  | wrote (count : Nat) (path : Text)
  | unreadable (path : Text) (cause : UnreadableCause)
  | notAnArray (path : Text)
  | malformedEntry (path : Text) (entry : Json)
  | duplicateId (id path : Text)
  | savingFailed (path : Text) (error : SystemError)
  | deleted (id : Text)
  | imported (added total : Nat)
  | readingFailed (path : Text) (error : SystemError)
  | exportFailed (path : Text) (error : SystemError)

namespace LogEntry

/-- How important an entry is. -/
def severity : LogEntry → Severity
  | .wrote .. => .debug
  | .loaded .. | .deleted .. | .imported .. => .info
  | .unreadable .. | .notAnArray .. | .malformedEntry .. | .duplicateId .. |
    .readingFailed .. => .warning
  | .savingFailed .. | .exportFailed .. => .error

/-- The text of an entry. -/
def message : LogEntry → Text
  | .loaded count path => "Loaded " ++ Text.ofNat count ++ " scenario(s) from " ++ path
  | .wrote count path => "Wrote " ++ Text.ofNat count ++ " scenario(s) to " ++ path
  | .unreadable path cause => "Could not read scenarios from " ++ path ++ ": " ++ cause.message
  | .notAnArray path => "Ignoring " ++ path ++ ": expected a JSON array"
  | .malformedEntry path entry =>
    "Skipping malformed scenario entry in " ++ path ++ ": " ++ entry.shown
  | .duplicateId id path =>
    "Skipping scenario with duplicate id " ++ Text.quote id ++ " in " ++ path
  | .savingFailed path error => "Saving scenarios to " ++ path ++ " failed: " ++ error.message
  | .deleted id => "Deleted scenario " ++ id
  | .imported added total =>
    "Imported " ++ Text.ofNat added ++ " of " ++ Text.ofNat total ++ " block(s)"
  | .readingFailed path error => "Reading " ++ path ++ " failed: " ++ error.message
  | .exportFailed path error => "Export to " ++ path ++ " failed: " ++ error.message

/-- The stored value that an entry shows as a whole. Everything else that entries show is flat. -/
def value? : LogEntry → Option Json
  | .malformedEntry _ entry => some entry
  | _ => none

end LogEntry

end ScenarioDesk
