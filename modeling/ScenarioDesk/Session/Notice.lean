import ScenarioDesk.Disk.Error

/-!
What the program tells its user after an operation on scenarios.
-/

namespace ScenarioDesk

/-- The outcome of an operation, as far as the user is told. -/
inductive Notice where
  | saved
  | updated
  | deleted
  | imported (count : Nat)
  | nothingNew
  | exported (name : Text)
  | emptyScenario
  | scenarioNotFound
  | nothingToImport
  | nothingToExport
  | notPlainText (name : Text)
  | unreadable (path : Text) (error : SystemError)
  | notWritten (error : SystemError)
  | notExported (error : SystemError)
  deriving DecidableEq, Repr

namespace Notice

/-- The operation was not carried out. -/
def isError : Notice → Bool
  | .saved | .updated | .deleted | .imported _ | .nothingNew | .exported _ => false
  | _ => true

/-- The heading of a notice. -/
def title (notice : Notice) : Text :=
  match notice with
  | .nothingToImport => "Warning"
  | _ => if notice.isError then "Error" else "Success"

/-- The text of a notice. -/
def message : Notice → Text
  | .saved => "Scenario saved."
  | .updated => "Scenario updated."
  | .deleted => "Scenario deleted."
  | .imported count => Text.ofNat count ++ " scenario(s) imported."
  | .nothingNew => "Nothing new to import."
  | .exported name => "Scenarios exported to " ++ name ++ "."
  | .emptyScenario => "Empty scenario cannot be saved."
  | .scenarioNotFound => "Scenario not found."
  | .nothingToImport => "Nothing to import: the text is empty."
  | .nothingToExport => "There are no scenarios to export."
  | .notPlainText name => "Only plain text files can be imported:\n" ++ name
  | .unreadable path error => "Could not read file:\n" ++ path ++ "\n\n" ++ error.message
  | .notWritten error => "Could not write scenarios:\n" ++ error.message
  | .notExported error => "Could not export scenarios:\n" ++ error.message

end Notice

end ScenarioDesk
