import ScenarioDesk.Window.Basic

/-!
Starting the program: settings, log level, style sheet, window.
-/

namespace ScenarioDesk

/-- The program after its start. -/
structure Launch where
  applicationName : Text
  organizationName : Text
  style : Text
  logLevel : Nat
  styleSheet : Text
  window : Window

namespace Launch

/-- The number to log at. A name is looked up once more and a failure if it has no number. -/
def numberToUse : LogLevel.Resolved → Except Failure Nat
  | .number value => .ok value
  | .name text =>
    match LogLevel.numberOf? text with
    | some value => .ok value
    | none => .error (.unknownLevel text)
  | .notLookedUp kind => .error (.levelNotLookedUp kind)

/-- The number to log at for a configured value and an overriding name, if there is one. -/
def levelToUse (override : Option Text) (configured : Json) : Except Failure Nat :=
  numberToUse (LogLevel.resolve override configured)

/-- Starts the program in an environment, with a log level that overrides the settings if there is
one. -/
def start [Runtime] (environment : Environment) (override : Option Text) (host : Host) :
    Except Failure Launch × Host :=
  match Settings.load environment.settingsPath host with
  | .error failure host => (.error failure, host)
  | .ok settings host =>
    match levelToUse override settings.stored.logLevel with
    | .error failure => (.error failure, host)
    | .ok level =>
      match Window.openWith environment settings host with
      | (.error failure, host) => (.error failure, host)
      | (.ok window, host) =>
        (.ok { applicationName := ScenarioDesk.applicationName
               organizationName := ScenarioDesk.applicationName
               style := "Fusion"
               logLevel := level
               styleSheet := window.theme.windowStyleSheet
               window := window }, host)

end Launch

end ScenarioDesk
