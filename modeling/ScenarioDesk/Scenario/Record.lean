import ScenarioDesk.Gherkin.Block
import ScenarioDesk.Json.Value

/-!
Saved scenarios and their ids. A scenario read from stored data needs an id and a content that is
not blank; a missing title is taken from the content.
-/

namespace ScenarioDesk

/-- A saved scenario. -/
structure Scenario where
  id : Text
  title : Text
  content : Text
  deriving DecidableEq, Repr

namespace Scenario

/-- The stored form. -/
def toJson (scenario : Scenario) : Json :=
  .object [("id", .string scenario.id), ("title", .string scenario.title),
    ("content", .string scenario.content)]

/-- The title to keep: the stored one unless it is missing or blank. -/
def storedTitle (entry : Json) (content : Text) : Text :=
  match (entry.field? "title").bind Json.text? with
  | some title => if Text.isAllBlank title then Block.titleOf content else title
  | none => Block.titleOf content

/-- A scenario from its stored form. -/
def ofJson? (entry : Json) : Option Scenario :=
  match (entry.field? "id").bind Json.text?, (entry.field? "content").bind Json.text? with
  | some id, some content =>
    if id = [] ∨ Text.isAllBlank content then none
    else some ⟨id, storedTitle entry content, content⟩
  | _, _ => none

end Scenario

/-- Where new ids come from: the clock, in nanoseconds since the epoch, and a running number. The
running number keeps the ids of one run apart whatever the clock shows. The source holds what the
clock will show, so a statement about all sources is a statement about all clocks, also about one
that stands still or goes back. -/
structure IdSource where
  clock : Int := 1700000000000000000
  next : Nat := 1
  /-- What the clock shows when the ids after the next one are made. After those it stands still. -/
  readings : List Int := []
  deriving DecidableEq, Repr

namespace IdSource

/-- The id made at a clock reading with a running number: whole milliseconds, a hyphen, and the
number. -/
def idAt (clock : Int) (number : Nat) : Text :=
  Text.ofInt (clock.fdiv 1000000) ++ "-" ++ Text.ofNat number

/-- The next id. -/
def id (source : IdSource) : Text := idAt source.clock source.next

/-- The source after its next id has been taken. -/
def advance (source : IdSource) : IdSource :=
  { clock := source.readings.headD source.clock, next := source.next + 1,
    readings := source.readings.tail }

end IdSource

end ScenarioDesk
