/-!
What the program is run by. An interpreter leaves only so many levels of recursion, and how many differs
from caller to caller; its library cuts a scheme off a file name by one rule or another; and the number
of the process is part of the name of a scratch file. None of this is up to the program, so all of it is
taken as given. What is assumed is that there is room for what the program has written itself.
-/

namespace ScenarioDesk

/-- How a scheme is cut off a file name, as it is off an address. -/
inductive SchemeRule where
  /-- Whatever stands in front of the first colon is a scheme. -/
  | lenient
  /-- A scheme is spelled as one, and what an address has behind its path is cut off as well. -/
  | strict
  deriving DecidableEq, Repr

/-- What the program is run by. -/
class Runtime where
  /-- How many arrays and objects may lie within each other in the text of a store. -/
  storeDepth : Nat
  /-- How many of them may in the text of the settings. -/
  settingsDepth : Nat
  /-- How many levels a value may have that is shown in the journal. Where the journal is not written out
  there is no bound, which a number beyond all values stands for. -/
  shownDepth : Nat
  /-- How a scheme is cut off a file name. -/
  schemeRule : SchemeRule
  /-- How many digits the number of the process has. -/
  processDigits : Nat
  /-- A store holds an array of objects. -/
  two_le_storeDepth : 2 ≤ storeDepth
  /-- The settings are one object. -/
  one_le_settingsDepth : 1 ≤ settingsDepth
  /-- An entry of a store that the program has written is an object of strings. -/
  two_le_shownDepth : 2 ≤ shownDepth

/-- The numbers that were measured for one release, for runs on fixed inputs. -/
instance (priority := low) Runtime.measured : Runtime where
  storeDepth := 989
  settingsDepth := 993
  shownDepth := 984
  schemeRule := .lenient
  processDigits := 3
  two_le_storeDepth := by decide
  one_le_settingsDepth := by decide
  two_le_shownDepth := by decide

end ScenarioDesk
