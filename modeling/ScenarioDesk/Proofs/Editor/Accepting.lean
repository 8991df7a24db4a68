import ScenarioDesk.Editor.Basic
import ScenarioDesk.Proofs.Scenario.Completion
import ScenarioDesk.Proofs.Text.Positions

/-! Accepting a suggestion. The widget selects a line and types over it, with its cursor in UTF-16 units;
what comes out is the text and the cursor of `Suggestions.putInto?`. -/
namespace ScenarioDesk

/-- Typing over a line puts another one in its place. -/
theorem Buffer.text_replaceLine {buffer : Buffer} {index : Nat}
    (h : index < (Text.lines buffer.text).length) (full : Text) :
    (buffer.replaceLine index full).text =
      Text.above ((Text.lines buffer.text).take index) ++ full ++
        Text.below ((Text.lines buffer.text).drop (index + 1)) := by
  have hText := Text.eq_above_append h
  have hStart : buffer.lineStart index =
      (Text.above ((Text.lines buffer.text).take index)).length := (Text.length_above _).symm
  have hLine : (Text.lines buffer.text)[index]?.getD [] = (Text.lines buffer.text)[index] := by
    rw [List.getElem?_eq_getElem h, Option.getD_some]
  have hBefore : buffer.text.take (buffer.lineStart index) =
      Text.above ((Text.lines buffer.text).take index) := by
    rw [hStart]
    exact (congrArg (List.take _) (hText.trans (List.append_assoc ..))).trans List.take_left
  have hBehind : buffer.text.drop
      (buffer.lineStart index + ((Text.lines buffer.text)[index]?.getD []).length) =
      Text.below ((Text.lines buffer.text).drop (index + 1)) := by
    rw [hStart, hLine, ← List.length_append]
    exact (congrArg (List.drop _) hText).trans List.drop_left
  rw [replaceLine]
  simp only [hBefore, hBehind]

namespace Editor

/-- The editor has done the edit: its text is that of the edit, its cursor stands at the edit's cursor in
either count, and nothing is suggested any more. -/
structure Holds (editor : Editor) (applied : Snapshot) : Prop where
  text : editor.buffer.text = applied.text
  position : editor.buffer.position = Text.unitOffset applied.text applied.cursor
  snapshot : editor.snapshot = applied
  active : editor.active = none
  hidden : editor.popup.shown = false

/-- Suggestions for as many lines as there are can be accepted, wherever the cursor is. -/
theorem accept_spec {editor : Editor} {suggestions : Suggestions}
    (hActive : editor.active = some suggestions)
    (hCount : suggestions.lineCount = Text.lineCount editor.buffer.text)
    (hIndex : suggestions.context.lineIndex < suggestions.lineCount) (full : Text) :
    ∃ applied, suggestions.putInto? editor.buffer.text full = some applied ∧
      (editor.accept full).2 = true ∧ (editor.accept full).1.Holds applied := by
  have hInside : suggestions.context.lineIndex < (Text.lines editor.buffer.text).length := by
    rwa [Text.length_lines, ← hCount]
  have hPut := Suggestions.putInto?_eq_some hCount hIndex full
  have hText := Buffer.text_replaceLine hInside full
  rw [accept, hActive]
  simp only [hPut]
  refine ⟨_, rfl, trivial, hText, rfl, ?_, rfl, rfl⟩
  rw [snapshot, buffer_hide, Buffer.cursor]
  dsimp only
  rw [hText, Text.charOffset_unitOffset (List.prefix_append _ _).length_le]

end Editor

end ScenarioDesk
