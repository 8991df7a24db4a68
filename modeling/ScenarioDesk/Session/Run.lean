import ScenarioDesk.Session.Basic

/-!
Runs of a session: requests in any order, each answered before the next one. A request that fails
leaves the state in which it failed, and the run goes on from there. What the clock shows during a
run is part of the state it starts from.
-/

namespace ScenarioDesk.Session

/-- What can be asked of a session. -/
inductive Request where
  | save (text : Text)
  | beginEdit (id : Text)
  | cancelEdit
  | delete (id : Text)
  | importText (text : Text)
  | importFile (path : Path)
  | exportTo (path : Path)
  | find (id : Text)
  | readImportFile (path : Path)
  | vocabulary
  | suggest (snapshot : Snapshot)

/-- What a session answers. -/
inductive Answer where
  | done
  | notice (notice : Notice)
  | content (content : Option Text)
  | scenario (scenario : Option Scenario)
  | fileText (result : Except Notice Text)
  | vocabulary (steps : List Text)
  | suggestions (suggestions : Option Suggestions)

variable [Runtime]

/-- Carries out one request. -/
def perform : Request → SessionM Answer
  | .save text => .notice <$> save text
  | .beginEdit id => .content <$> beginEdit id
  | .cancelEdit => do cancelEdit; return .done
  | .delete id => .notice <$> delete id
  | .importText text => .notice <$> importText text
  | .importFile path => .notice <$> importFile path
  | .exportTo path => .notice <$> exportTo path
  | .find id => do return .scenario ((← get).find? id)
  | .readImportFile path => .fileText <$> readImportFile path
  | .vocabulary => do return .vocabulary (← get).vocabulary
  | .suggest snapshot => do return .suggestions ((← get).suggest snapshot)

/-- The session after a request, whether it succeeded or failed. -/
def after (session : Session) (request : Request) : Session :=
  match perform request session with
  | .ok _ next => next
  | .error _ next => next

/-- The session after some requests. -/
def run (session : Session) (requests : List Request) : Session := requests.foldl after session

end ScenarioDesk.Session
