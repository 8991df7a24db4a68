import ScenarioDesk.Disk.FileKind
import ScenarioDesk.Scenario.Suggestion
import ScenarioDesk.Scenario.Vocabulary
import ScenarioDesk.Session.Notice
import ScenarioDesk.Session.Store

/-!
A session: the scenarios of one store and which of them is being edited. Every change is written to
the store before it takes effect, so a write that fails leaves the session as it was.
-/

namespace ScenarioDesk

/-- The state of a session and its surroundings. -/
structure Session where
  store : Path
  scenarios : Collection := []
  /-- The id of the scenario that is being edited. -/
  editing : Option Text := none
  host : Host := {}

/-- An operation on a session. -/
abbrev SessionM := EStateM Failure Session

namespace Session

variable [Runtime]

/-- An operation on the session's host. -/
def onHost {α : Type} (operation : HostM α) : SessionM α := fun session =>
  match operation session.host with
  | .ok result host => .ok result { session with host := host }
  | .error error host => .error error { session with host := host }

/-- A disk operation, in which a refusal by the system is a result and any other error a failure. -/
def attempt {α : Type} (operation : DiskM α) : SessionM (Except SystemError α) := do
  match ← onHost (Host.attempt operation) with
  | .ok result => return .ok result
  | .error (.system error) => return .error error
  | .error error => throw (.disk error)

/-- The session on a store with the scenarios that lie there. -/
def openStore (store : Path) (host : Host) : Except Failure Session × Host :=
  match Store.load store host with
  | .ok scenarios host => (.ok { store := store, scenarios := scenarios, host := host }, host)
  | .error failure host => (.error failure, host)

/-- The scenario with an id. -/
def find? (session : Session) (id : Text) : Option Scenario := session.scenarios.byId? id

/-- The steps of all scenarios. -/
def vocabulary (session : Session) : List Text := session.scenarios.vocabulary

/-- The suggestions for a text and a cursor. -/
def suggest (session : Session) (snapshot : Snapshot) : Option Suggestions :=
  Suggestions.offer? session.vocabulary snapshot

/-- Writes a new collection and, if that succeeds, works on with it. A refusal is the result. -/
def commit (scenarios : Collection) : SessionM (Option SystemError) := do
  let store := (← get).store
  match ← onHost (fun host =>
      match Store.save store scenarios host with
      | .ok () host => .ok none host
      | .error (.disk (.system error)) host => .ok (some error) host
      | .error failure host => .error failure host) with
  | none =>
    modify fun session => { session with scenarios := scenarios }
    return none
  | some error =>
    onHost (Host.log (.savingFailed store.text error))
    return some error

/-- Takes ids from the source until it is the given one. -/
def setIds (ids : IdSource) : SessionM Unit :=
  modify fun session => { session with host := { session.host with ids := ids } }

/-- Saves a text: in place of the scenario that is being edited, or as a new one. Saving ends the
editing. -/
def save (text : Text) : SessionM Notice := do
  let session ← get
  match session.scenarios.save session.host.ids session.editing text with
  | none => return .emptyScenario
  | some (scenarios, ids) =>
    setIds ids
    match ← commit scenarios with
    | some error => return .notWritten error
    | none =>
      modify fun session => { session with editing := none }
      return if session.editing.isSome then .updated else .saved

/-- Starts editing the scenario with an id and returns its content. -/
def beginEdit (id : Text) : SessionM (Option Text) := do
  match (← get).find? id with
  | none => return none
  | some scenario =>
    modify fun session => { session with editing := some scenario.id }
    return some scenario.content

/-- Ends the editing without saving. -/
def cancelEdit : SessionM Unit := modify fun session => { session with editing := none }

/-- Deletes the scenario with an id. -/
def delete (id : Text) : SessionM Notice := do
  let session ← get
  if (session.find? id).isNone then return .scenarioNotFound
  match ← commit (session.scenarios.remove id) with
  | some error => return .notWritten error
  | none =>
    if (← get).editing = some id then cancelEdit
    onHost (Host.log (.deleted id))
    return .deleted

/-- Adds the scenarios of a text that are not there yet. -/
def importText (text : Text) : SessionM Notice := do
  if Text.isAllBlank text then return .nothingToImport
  let session ← get
  let blocks := Block.ofText (Text.trim text)
  let (scenarios, ids) := session.scenarios.merge session.host.ids blocks
  let added := scenarios.length - session.scenarios.length
  setIds ids
  if added = 0 then return .nothingNew
  match ← commit scenarios with
  | some error => return .notWritten error
  | none =>
    onHost (Host.log (.imported added blocks.length))
    return .imported added

/-- The text of a file that may be imported, or why there is none. -/
def readImportFile (path : Path) : SessionM (Except Notice Text) := do
  if !FileKind.isPlainText path then return .error (.notPlainText path.name)
  match ← attempt (Disk.query fun disk => disk.read path) with
  | .ok content => return .ok (FileText.read content)
  | .error error =>
    onHost (Host.log (.readingFailed path.text error))
    return .error (.unreadable path.text error)

/-- Adds the scenarios of a file that are not there yet. -/
def importFile (path : Path) : SessionM Notice := do
  match ← readImportFile path with
  | .ok text => importText text
  | .error notice => return notice

/-- Writes all scenarios as one text to a file. -/
def exportTo (path : Path) : SessionM Notice := do
  let session ← get
  if session.scenarios = [] then return .nothingToExport
  match ← attempt (Disk.writeAtomically path session.scenarios.exportText) with
  | .ok () => return .exported path.name
  | .error error =>
    onHost (Host.log (.exportFailed path.text error))
    return .notExported error

end Session

end ScenarioDesk
