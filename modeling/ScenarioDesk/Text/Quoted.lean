import ScenarioDesk.Text.Decimal
import ScenarioDesk.Text.Printable

/-!
Quoted text, as messages show it: in single quotes, or in double quotes if the text holds a single
quote and no double one. Code points that are not printable are written as escapes, so a quoted text
is one printable line.
-/

namespace ScenarioDesk.Text

/-- The mark at both ends of a quoted text. -/
def quoteMark (text : Text) : Char :=
  if text.contains (.char '\'') && !text.contains (.char '"') then '"' else '\''

/-- One code point between quote marks. -/
def quoteChar (mark : Char) : CodePoint → Text
  | .half index => "\\u" ++ hexPadded 4 (CodePoint.half index).number
  | .char c =>
    if c = mark || c = '\\' then ['\\', c]
    else if c = '\t' then "\\t"
    else if c = '\n' then "\\n"
    else if c = '\r' then "\\r"
    else if isPrintable c then [c]
    else if c.toNat < 0x100 then "\\x" ++ hexPadded 2 c.toNat
    else if c.toNat < 0x10000 then "\\u" ++ hexPadded 4 c.toNat
    else "\\U" ++ hexPadded 8 c.toNat

/-- A text in quotes. -/
def quote (text : Text) : Text :=
  let mark := quoteMark text
  mark :: (text.flatMap (quoteChar mark) ++ [.char mark])

end ScenarioDesk.Text
