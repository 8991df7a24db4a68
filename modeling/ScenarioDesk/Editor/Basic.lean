import ScenarioDesk.Editor.Buffer
import ScenarioDesk.Scenario.Suggestion

/-!
The scenario editor: a buffer, the suggestions for the step being typed, and the popup that offers
them. Every change of the text asks for suggestions anew; keys go to the popup while it is shown.
-/

namespace ScenarioDesk

/-- Where the popup lies within the editor. -/
structure Frame where
  x : Int
  y : Int
  width : Int
  height : Int
  deriving DecidableEq, Repr

/-- The list of suggestions below the cursor. While it is hidden, what it held last does not
matter. -/
structure Popup where
  shown : Bool := false
  rows : List Text := []
  /-- The row that is marked. -/
  row : Nat := 0
  frame : Frame := ⟨0, 0, 0, 0⟩
  deriving DecidableEq, Repr

namespace Popup

/-- How wide the editor is drawn. -/
def editorWidth : Int := 1000

/-- How high a row is, with a lower bound for rows that claim less. -/
def rowHeight : Int := max 18 20

/-- How wide the border of the popup is. -/
def borderWidth : Int := 1

/-- The frame for a number of rows. The popup starts two units below the cursor, is between 220 and
640 wide, and leaves a margin of eight to the right. -/
def frameFor (rows : Int) : Frame :=
  let x := 0
  { x := x
    y := 2
    width := max 220 (min 640 (editorWidth - x - 8))
    height := rowHeight * rows + borderWidth * 2 + 4 }

/-- The popup with rows, the first of which is marked. At most so many are seen at once. -/
def offering (texts : List Text) (maxVisible : Int) : Popup :=
  { shown := true, rows := texts, row := 0, frame := frameFor (min texts.length maxVisible) }

/-- The row after or before the marked one, around the ends of the list. -/
def moveRow (popup : Popup) (down : Bool) : Popup :=
  let count := popup.rows.length
  { popup with row := (popup.row + if down then 1 else count - 1) % count }

/-- The text of the marked row. -/
def current? (popup : Popup) : Option Text := popup.rows[popup.row]?

end Popup

/-- The state of the editor. -/
structure Editor where
  buffer : Buffer := {}
  /-- The steps to suggest from. Without them nothing is suggested. -/
  vocabulary : Option (List Text) := none
  /-- How many suggestions are seen at once. -/
  maxVisible : Int := 8
  active : Option Suggestions := none
  popup : Popup := {}
  deriving DecidableEq, Repr

/-- The keys that the editor tells apart. -/
inductive Key where
  | enter
  | tab
  | escape
  | up
  | down
  | other
  deriving DecidableEq, Repr

namespace Editor

/-- An empty editor that shows so many suggestions at once, but at least one. -/
def empty (maxVisible : Int) : Editor := { maxVisible := max 1 maxVisible }

/-- The text and the characters before the cursor. -/
def snapshot (editor : Editor) : Snapshot := ⟨editor.buffer.text, editor.buffer.cursor⟩

/-- Withdraws the suggestions. -/
def hide (editor : Editor) : Editor :=
  { editor with active := none, popup := { editor.popup with shown := false } }

/-- Offers suggestions. -/
def offer (editor : Editor) (suggestions : Suggestions) : Editor :=
  { editor with active := some suggestions,
                popup := Popup.offering suggestions.texts editor.maxVisible }

/-- Withdraws suggestions that were made for another number of lines. -/
def dropStale (editor : Editor) : Editor :=
  if editor.active.any fun active => active.isStale editor.buffer.text then editor.hide
  else editor

/-- Suggestions for the text as it is now. -/
def refresh (editor : Editor) : Editor :=
  let editor := editor.dropStale
  match editor.vocabulary with
  | none => editor
  | some vocabulary =>
    match Suggestions.offer? vocabulary editor.snapshot with
    | none => editor.hide
    | some suggestions => editor.offer suggestions

/-- Types a text at the cursor. -/
def type (editor : Editor) (text : Text) : Editor :=
  { editor with buffer := editor.buffer.insert text }.refresh

/-- Puts another text into the editor, with the cursor behind it and without suggestions. -/
def setText (editor : Editor) (text : Text) : Editor :=
  { editor with buffer := (Buffer.setText text).moveToEnd }.hide

/-- Puts a suggestion in place of the line it was made for. Tells whether there was one to put; if
the lines have changed since, the suggestions are withdrawn. -/
def accept (editor : Editor) (full : Text) : Editor × Bool :=
  match editor.active with
  | none => (editor, false)
  | some active =>
    match active.putInto? editor.buffer.text full with
    | none => (editor.hide, false)
    | some applied =>
      let edited := editor.buffer.replaceLine active.context.lineIndex full
      let position := Text.unitOffset applied.text applied.cursor
      ({ editor with buffer := { edited with position := position } }.hide, true)

/-- What a key inserts if nothing else happens to it. -/
def keyText (key : Key) (text : Text) : Text :=
  match key with
  | .enter => ['\n']
  | .tab => ['\t']
  | _ => text

/-- A key that the popup does not take. Tells whether the text changed. -/
def typeKey (editor : Editor) (key : Key) (text : Text) : Editor × Bool :=
  match keyText key text with
  | [] => (editor, false)
  | inserted => (editor.type inserted, true)

/-- Presses a key with the text it carries. While the popup is shown, Escape closes it, the arrows
move its mark, and Enter and Tab accept the marked row. Tells whether the text changed. -/
def press (editor : Editor) (key : Key) (text : Text) : Editor × Bool :=
  if !editor.popup.shown then editor.typeKey key text
  else match key with
    | .escape => (editor.hide, false)
    | .up => ({ editor with popup := editor.popup.moveRow false }, false)
    | .down => ({ editor with popup := editor.popup.moveRow true }, false)
    | .enter | .tab =>
      match editor.popup.current? with
      | some full => editor.accept full
      | none => editor.typeKey key text
    | .other => editor.typeKey key text

/-- What can happen to an editor. -/
inductive Event where
  | type (text : Text)
  | setText (text : Text)
  /-- The cursor is put at a position and nothing else happens. -/
  | moveTo (position : Int)
  | press (key : Key) (text : Text)
  /-- A row of the popup is clicked. -/
  | click (row : Nat)
  | accept (full : Text)
  | hide
  /-- The editor loses the keyboard. -/
  | leave
  /-- The steps to suggest from are others now. -/
  | provide (vocabulary : Option (List Text))
  deriving DecidableEq, Repr

/-- The editor after an event, and whether the event changed its text. -/
def handle (editor : Editor) : Event → Editor × Bool
  | .type text => (editor.type text, true)
  | .setText text => (editor.setText text, true)
  | .moveTo position => ({ editor with buffer := { editor.buffer with position := position } }, false)
  | .press key text => editor.press key text
  | .click row =>
    match editor.popup.rows[row]? with
    | some full => editor.accept full
    | none => (editor, false)
  | .accept full => editor.accept full
  | .hide | .leave => (editor.hide, false)
  | .provide vocabulary => ({ editor with vocabulary := vocabulary }, false)

/-- The editor after some events. -/
def run (editor : Editor) (events : List Event) : Editor :=
  events.foldl (fun editor event => (editor.handle event).1) editor

@[simp] theorem buffer_hide (editor : Editor) : editor.hide.buffer = editor.buffer := rfl

end Editor

end ScenarioDesk
