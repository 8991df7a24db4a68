import ScenarioDesk.Text.Units

/-!
The text of an editing widget and its cursor. The widget counts positions in UTF-16 units and keeps
any position it is given: one behind the text stands for its end, a negative one counts from the end,
and one between the two units of a character stands before that character.
-/

namespace ScenarioDesk

/-- A text and the position of the cursor. -/
structure Buffer where
  text : Text := []
  position : Int := 0
  deriving DecidableEq, Repr

namespace Buffer

/-- The characters before the cursor. -/
def cursor (buffer : Buffer) : Nat := Text.charOffset buffer.text buffer.position

/-- Inserts a text at the cursor, which moves behind it. -/
def insert (buffer : Buffer) (text : Text) : Buffer :=
  { text := buffer.text.take buffer.cursor ++ text ++ buffer.text.drop buffer.cursor
    position := buffer.position + Text.units text }

/-- Another text with the cursor in front of it. -/
def setText (text : Text) : Buffer := { text := text }

/-- The cursor at the end. -/
def moveToEnd (buffer : Buffer) : Buffer := { buffer with position := Text.units buffer.text }

/-- The characters before a line. -/
def lineStart (buffer : Buffer) (index : Nat) : Nat :=
  Text.endedLength ((Text.lines buffer.text).take index)

/-- Selects a line without its line feed, replaces it, and puts the cursor behind the new text. -/
def replaceLine (buffer : Buffer) (index : Nat) (text : Text) : Buffer :=
  let start := buffer.lineStart index
  let stop := start + ((Text.lines buffer.text)[index]?.getD []).length
  let before := buffer.text.take start ++ text
  { text := before ++ buffer.text.drop stop, position := Text.units before }

end Buffer

end ScenarioDesk
