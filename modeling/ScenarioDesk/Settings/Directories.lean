import ScenarioDesk.Host.Basic
import ScenarioDesk.Text.Case

/-!
Where the program keeps its files. One platform has a single directory for both kinds; everywhere
else the environment names a base directory for each kind, with a default below the home directory.
-/

namespace ScenarioDesk

/-- The name of the program. -/
def applicationName : Text := "GherkinPad"

/-- What the environment says about directories. -/
structure Environment where
  /-- The home directory. -/
  home : Path
  configBase : Option Text := none
  dataBase : Option Text := none
  platform : Text := "linux"

namespace Environment

/-- The home directory that a text names. Slashes at its end do not count; without any name it is
the root. A tilde in front stands for a home directory that is still to be found, so a text with one
names none. -/
def homeOf? (text : Text) : Option Path :=
  let name := (text.reverse.dropWhile (· = .char '/')).reverse
  if name = [] then some (Path.ofText ['/'])
  else if name.head? = some (.char '~') then none
  else some (Path.ofText name)

/-- The environment with these variables and on this platform. Nothing can be placed without a home
directory, even if each kind of file has a base of its own. -/
def ofVariables (home : Text) (configBase dataBase : Option Text) (platform : Text) :
    Except Failure Environment :=
  match homeOf? home with
  | some home =>
    .ok { home := home, configBase := configBase, dataBase := dataBase, platform := platform }
  | none => .error .homeUnknown

/-- The platform keeps application files in one place of the home directory's library. -/
def hasLibrary (environment : Environment) : Bool := environment.platform = ("darwin" : Text)

/-- The directory for a program below a base, or below the home directory if no base is named. -/
def directory (environment : Environment) (base : Option Text) (default : Text) (name : Text) :
    Path :=
  if environment.hasLibrary then
    (environment.home.below "Library/Application Support").below name
  else
    let base := match base with
      | some base => Path.ofText base
      | none => environment.home.below default
    base.below (Text.lower name)

/-- Where the settings of a program lie. -/
def configDirectory (environment : Environment) (name : Text) : Path :=
  environment.directory environment.configBase ".config" name

/-- Where the data of a program lie. -/
def dataDirectory (environment : Environment) (name : Text) : Path :=
  environment.directory environment.dataBase ".local/share" name

/-- The file of the settings. -/
def settingsPath (environment : Environment) : Path :=
  (environment.configDirectory applicationName).below "settings.json"

/-- The file of the scenarios. -/
def scenariosPath (environment : Environment) : Path :=
  (environment.dataDirectory applicationName).below "scenarios.json"

end Environment

end ScenarioDesk
