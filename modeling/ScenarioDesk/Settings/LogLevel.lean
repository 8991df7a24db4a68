import ScenarioDesk.Json.Shown
import ScenarioDesk.Text.Blank
import ScenarioDesk.Text.Case

/-!
How much the program logs. An environment variable takes precedence over the settings if it names
one of the five levels, in any case and with blanks around it. The settings may not have been
checked, so the configured level may be any stored value.
-/

namespace ScenarioDesk

/-- The levels that can be chosen. -/
inductive LogLevel where
  | debug
  | info
  | warning
  | error
  | critical
  deriving DecidableEq, Repr

namespace LogLevel

/-- The name of a level. -/
def name : LogLevel → Text
  | .debug => "DEBUG"
  | .info => "INFO"
  | .warning => "WARNING"
  | .error => "ERROR"
  | .critical => "CRITICAL"

/-- The number of a level. Higher is more important. -/
def number : LogLevel → Nat
  | .debug => 10
  | .info => 20
  | .warning => 30
  | .error => 40
  | .critical => 50

/-- The levels from the least important on. -/
def all : List LogLevel := [.debug, .info, .warning, .error, .critical]

/-- The level with a name in upper case. -/
def named? (name : Text) : Option LogLevel := all.find? fun level => level.name = name

/-- The level with a name in any case. -/
def ofText? (text : Text) : Option LogLevel := named? (Text.upper text)

/-- The numbers of all names that the logging system knows: those of the levels, three more names,
and none else. -/
def numberOf? (name : Text) : Option Nat :=
  match named? name with
  | some level => some level.number
  | none =>
    if name = ("WARN" : Text) then some LogLevel.warning.number
    else if name = ("FATAL" : Text) then some LogLevel.critical.number
    else if name = ("NOTSET" : Text) then some 0
    else none

/-- The name of a number that is a level or stands for none. -/
def nameOf? (number : Int) : Option Text :=
  if number = 0 then some "NOTSET"
  else (all.find? fun level => (level.number : Int) = number).map name

/-- What a configured value leads to: a number for a name, or a name for anything else. A list or an
object cannot be looked up. -/
inductive Resolved where
  | number (value : Nat)
  | name (text : Text)
  | notLookedUp (kind : Text)
  deriving DecidableEq, Repr

/-- The integer that a stored value equals, if there is one. A truth value equals zero or one, and a
number with a point or an exponent may be whole. -/
def storedNumber? : Json → Option Int
  | .int value => some value
  | .bool value => some (if value then 1 else 0)
  | .float value => value.toInt?
  | _ => none

/-- The name of a stored value: that of the level whose number it equals, or one made of the value as
it is shown. -/
def nameOfValue (value : Json) : Text :=
  ((storedNumber? value).bind nameOf?).getD ("Level " ++ value.shown)

/-- What a name leads to. One without a number gets a longer name. -/
def ofName (text : Text) : Resolved :=
  match numberOf? text with
  | some value => .number value
  | none => .name ("Level " ++ text)

/-- What a stored value leads to. -/
def ofStored : Json → Resolved
  | .string content => ofName content
  | .array _ => .notLookedUp "list"
  | .object _ => .notLookedUp "dict"
  | value => .name (nameOfValue value)

/-- The level that a configured value and an overriding name, if there is one, lead to. -/
def resolve (override : Option Text) (configured : Json) : Resolved :=
  match ofText? (Text.trim (override.getD [])) with
  | some level => .number level.number
  | none => ofStored configured

theorem ofName_name (level : LogLevel) : ofName level.name = .number level.number := by
  cases level <;> rfl

/-- How a line of the log is laid out. -/
def lineFormat : Text := "%(asctime)s %(levelname)s %(name)s: %(message)s"

end LogLevel

end ScenarioDesk
