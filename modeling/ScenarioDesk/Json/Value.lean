import ScenarioDesk.Number.Binary64
import ScenarioDesk.Text.Quoted

/-!
JSON values. Integers are exact and apart from floating-point numbers; the fields of an object keep
the order in which they were first written, since that order shows in messages and in stored files.
-/

namespace ScenarioDesk

/-- A JSON value. The names of an object's fields are distinct in every value that was read. -/
inductive Json where
  | null
  | bool (value : Bool)
  | int (value : Int)
  | float (value : Binary64)
  | string (content : Text)
  | array (items : List Json)
  | object (fields : List (Text × Json))

namespace Json

/-- The fields of an object under construction. -/
abbrev Fields := List (Text × Json)

/-- Fields with a new value for a name: in its old place if the name is there, at the end if not. -/
def Fields.put (fields : Fields) (name : Text) (value : Json) : Fields :=
  if fields.any fun field => field.1 == name then
    fields.map fun field => if field.1 == name then (field.1, value) else field
  else fields ++ [(name, value)]

/-- The value of a field, if the value is an object that has it. -/
def field? (name : Text) : Json → Option Json
  | .object fields => fields.lookup name
  | _ => none

/-- The text of a string. -/
def text? : Json → Option Text
  | .string content => some content
  | _ => none

/-- The value of an integer. -/
def int? : Json → Option Int
  | .int value => some value
  | _ => none

/-- The value of a truth value. -/
def bool? : Json → Option Bool
  | .bool value => some value
  | _ => none

/-- The items of an array. -/
def items? : Json → Option (List Json)
  | .array items => some items
  | _ => none

theorem text?_eq_some_iff {stored : Json} {content : Text} :
    stored.text? = some content ↔ stored = .string content := by
  cases stored <;> simp [text?]

theorem bool?_eq_some_iff {stored : Json} {value : Bool} :
    stored.bool? = some value ↔ stored = .bool value := by
  cases stored <;> simp [bool?]

theorem items?_eq_some_iff {stored : Json} {items : List Json} :
    stored.items? = some items ↔ stored = .array items := by
  cases stored <;> simp [items?]

end Json

end ScenarioDesk
