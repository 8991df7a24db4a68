import ScenarioDesk.Json.Value
import ScenarioDesk.Number.Shown

/-!
JSON as it is stored: two blanks for each level, one item or field on a line, and every code point as
itself except quotes, backslashes and controls.
-/

namespace ScenarioDesk.Json

/-- One code point of a string. -/
def renderChar : CodePoint → Text
  | .char '"' => "\\\""
  | .char '\\' => "\\\\"
  | .char '\n' => "\\n"
  | .char '\r' => "\\r"
  | .char '\t' => "\\t"
  | .char '\x0c' => "\\f"
  | .char '\x08' => "\\b"
  | c => if c.number < 0x20 then "\\u" ++ Text.hexPadded 4 c.number else [c]

/-- A string in quotes. -/
def renderString (content : Text) : Text :=
  "\"" ++ content.flatMap renderChar ++ "\""

/-- A new line at a level. -/
def newline (level : Nat) : Text := '\n' :: List.replicate (2 * level) (.char ' ')

mutual

/-- A value whose first line is already indented to its level. -/
def renderAt (level : Nat) : Json → Text
  | .null => "null"
  | .bool true => "true"
  | .bool false => "false"
  | .int n => Text.ofInt n
  | .float x => x.render .stored
  | .string content => renderString content
  | .array [] => "[]"
  | .array (item :: items) =>
    "[" ++ newline (level + 1) ++ renderAt (level + 1) item ++ renderItems (level + 1) items ++
      newline level ++ "]"
  | .object [] => "\x7b\x7d"
  | .object ((name, value) :: fields) =>
    "\x7b" ++ newline (level + 1) ++ renderString name ++ ": " ++ renderAt (level + 1) value ++
      renderFields (level + 1) fields ++ newline level ++ "\x7d"

/-- The items after the first. -/
def renderItems (level : Nat) : List Json → Text
  | [] => []
  | item :: items => "," ++ newline level ++ renderAt level item ++ renderItems level items

/-- The fields after the first. -/
def renderFields (level : Nat) : List (Text × Json) → Text
  | [] => []
  | (name, value) :: fields =>
    "," ++ newline level ++ renderString name ++ ": " ++ renderAt level value ++
      renderFields level fields

end

/-- A value as text. -/
def render (value : Json) : Text := renderAt 0 value

end ScenarioDesk.Json
