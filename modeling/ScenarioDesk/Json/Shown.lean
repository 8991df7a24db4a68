import ScenarioDesk.Json.Value
import ScenarioDesk.Number.Shown

/-!
JSON values on one line, as messages show them: words with a capital for the constants, strings in
single quotes, a comma and a blank between items.
-/

namespace ScenarioDesk.Json

mutual

/-- A value as a message shows it. -/
def shown : Json → Text
  | .null => "None"
  | .bool true => "True"
  | .bool false => "False"
  | .int n => Text.ofInt n
  | .float x => x.render .message
  | .string content => Text.quote content
  | .array items => "[" ++ shownItems items ++ "]"
  | .object fields => "\x7b" ++ shownFields fields ++ "\x7d"

/-- Items with a comma between neighbours. -/
def shownItems : List Json → Text
  | [] => []
  | [item] => shown item
  | item :: next :: items => shown item ++ ", " ++ shownItems (next :: items)

/-- Fields with a comma between neighbours. -/
def shownFields : List (Text × Json) → Text
  | [] => []
  | [(name, value)] => Text.quote name ++ ": " ++ shown value
  | (name, value) :: next :: fields =>
    Text.quote name ++ ": " ++ shown value ++ ", " ++ shownFields (next :: fields)

/-- How many levels of recursion showing a value takes: one for itself, and those of the deepest part. -/
def levels : Json → Nat
  | .array items => levelsOfItems items + 1
  | .object fields => levelsOfFields fields + 1
  | _ => 1

/-- The levels of the deepest item. -/
def levelsOfItems : List Json → Nat
  | [] => 0
  | item :: items => max (levels item) (levelsOfItems items)

/-- The levels of the deepest value of a field. -/
def levelsOfFields : List (Text × Json) → Nat
  | [] => 0
  | (_, value) :: fields => max (levels value) (levelsOfFields fields)

end

end ScenarioDesk.Json
