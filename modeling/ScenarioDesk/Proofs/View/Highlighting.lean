import ScenarioDesk.Proofs.Gherkin.Spans
import ScenarioDesk.Proofs.Text.Utf16
import ScenarioDesk.View.Highlight

/-! Colouring while the text is edited, against the tokens of the preview. The widget counts UTF-16
units, so a range has to cover the units of a span's own characters and of no others. -/
namespace ScenarioDesk

namespace Span

variable (span : Span) (line : Text)

theorem take_stop : line.take span.stop = line.take span.start ++ span.slice line :=
  List.take_add

/-- A span cuts its line into three. -/
theorem line_eq : line = line.take span.start ++ (span.slice line ++ line.drop span.stop) := by
  rw [← List.append_assoc, ← take_stop, List.take_append_drop]

theorem start_inUnits : (span.inUnits line).start = Text.units (line.take span.start) :=
  Text.unitOffset_natCast line span.start

theorem length_inUnits : (span.inUnits line).length = Text.units (span.slice line) := by
  have hStop := Text.unitOffset_natCast line span.stop
  rw [take_stop, Text.units_append] at hStop
  calc (span.inUnits line).length
      = Text.unitOffset line span.stop - (span.inUnits line).start := rfl
    _ = Text.units (span.slice line) := by rw [hStop, start_inUnits, Nat.add_sub_cancel_left]

end Span

namespace Highlight

/-- The range draws the span: it begins where the span begins and holds the units of the characters
that the span covers. In a line of characters these units are read back as those characters, and
neither end lies within a surrogate pair. -/
structure Draws (theme : Theme) (number : Nat) (text : Text) (span : Span) (range : FormatRange) :
    Prop where
  line : range.line = number
  format : range.format = formatOf theme span.kind
  start : range.start = (Text.utf16 (text.take span.start)).length
  length : range.length = (Text.utf16 (span.slice text)).length
  units : ((Text.utf16 text).drop range.start).take range.length = Text.utf16 (span.slice text)
  characters : text.isWhole = true →
    Text.ofUtf16 (((Text.utf16 text).drop range.start).take range.length) = span.slice text ∧
      Text.splitsPair (Text.utf16 text) range.start = false ∧
      Text.splitsPair (Text.utf16 text) (range.start + range.length) = false

theorem draws_inUnits (theme : Theme) (number : Nat) (text : Text) (span : Span) :
    Draws theme number text span
      ⟨number, (span.inUnits text).start, (span.inUnits text).length, formatOf theme span.kind⟩ := by
  have hLine := congrArg Text.utf16 (span.line_eq text)
  have hUnits : ((Text.utf16 text).drop (span.inUnits text).start).take (span.inUnits text).length =
      Text.utf16 (span.slice text) := by
    rw [Span.start_inUnits, Span.length_inUnits, hLine, Text.drop_utf16_append,
      Text.take_utf16_append]
  refine ⟨rfl, rfl, ?_, ?_, hUnits, fun hWhole => ?_⟩
  · rw [Text.length_utf16, Span.start_inUnits]
  · rw [Text.length_utf16, Span.length_inUnits]
  · rw [span.line_eq text, Text.isWhole_append, Text.isWhole_append] at hWhole
    obtain ⟨_, hSlice, hBehind⟩ := hWhole
    refine ⟨?_, ?_, ?_⟩
    · rw [hUnits, Text.ofUtf16_utf16 hSlice]
    · rw [Span.start_inUnits, hLine]
      exact Text.splitsPair_units (Text.isWhole_append.mpr ⟨hSlice, hBehind⟩)
    · rw [Span.start_inUnits, Span.length_inUnits, ← Text.units_append, hLine, ← List.append_assoc]
      exact Text.splitsPair_units hBehind

/-- What is coloured while a line is edited is what the preview shows as keyword and parameters. The
tokens of the line that are not plain and its spans correspond one by one and in order: each token has
the kind of its span and shows what the span covers, a parameter as it stands in the line and the keyword
in its display form. The spans are not empty, stand one behind the other, and lie within the line. The
ranges that are set draw these spans, whatever characters the line consists of. -/
theorem highlighting_agrees_with_tokens (text : Text) :
    List.Forall₂ (Span.Shows text) ((TokenLine.ofLine text).tokens.filter Token.isMarked)
      (Span.ofLine text) ∧
    (Span.ofLine text).Pairwise (fun span later => span.stop ≤ later.start) ∧
    (∀ span ∈ Span.ofLine text, span.start < span.stop ∧ span.stop ≤ text.length) ∧
    ∀ theme number,
      List.Forall₂ (Draws theme number text) (Span.ofLine text) (line theme number text) := by
  obtain ⟨hApart, hInside⟩ := Span.ofLine_bounds text
  refine ⟨Span.shows_ofLine text, hApart, hInside, fun theme number => ?_⟩
  rw [line, List.forall₂_map_right_iff, List.forall₂_same]
  exact fun span _ => draws_inUnits theme number text span

/-- A step with characters beyond the basic plane before and in its parameter. -/
def emojiStep : Text := "gIVEN 😀 \"a😀\" b"

/-- The parameter takes four characters and five units, and stands one unit further than characters. -/
theorem emoji_step_is_drawn :
    List.Forall₂ (Draws .dark 7 emojiStep) [⟨.keyword, 0, 5⟩, ⟨.parameter, 8, 4⟩]
        [⟨7, 0, 5, formatOf .dark .keyword⟩, ⟨7, 9, 5, formatOf .dark .parameter⟩] ∧
      emojiStep.isWhole = true := by
  obtain ⟨_, _, _, hDraws⟩ := highlighting_agrees_with_tokens emojiStep
  have hSpans : Span.ofLine emojiStep = [⟨.keyword, 0, 5⟩, ⟨.parameter, 8, 4⟩] := by decide +kernel
  have hRanges : line .dark 7 emojiStep =
      [⟨7, 0, 5, formatOf .dark .keyword⟩, ⟨7, 9, 5, formatOf .dark .parameter⟩] := by decide +kernel
  have h := hDraws .dark 7
  rw [hSpans, hRanges] at h
  exact ⟨h, by decide +kernel⟩

end Highlight

end ScenarioDesk
