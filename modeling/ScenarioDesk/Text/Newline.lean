import ScenarioDesk.Text.Basic

/-!
Line endings. Text reaches the program with line feeds, carriage returns, or both as the end of a
line; inside it only the line feed is used. `normalizeNewlines` goes over the whole text twice,
`universalNewlines` reads once from left to right as a text file is read.
-/

namespace ScenarioDesk.Text

/-- Every carriage return that a line feed follows is dropped. -/
def dropPairedReturns : Text → Text
  | .char '\r' :: .char '\n' :: rest => '\n' :: dropPairedReturns rest
  | c :: rest => c :: dropPairedReturns rest
  | [] => []

/-- A carriage return becomes a line feed. -/
def returnToNewline (c : CodePoint) : CodePoint := if c = '\r' then '\n' else c

/-- The text with line feeds as its only line ends: first pairs become one line feed, then every
carriage return that is left does. -/
def normalizeNewlines (text : Text) : Text :=
  (dropPairedReturns text).map returnToNewline

/-- The text as one scan from left to right reads it: a carriage return with the line feed after
it, if there is one, is one line feed. -/
def universalNewlines : Text → Text
  | [] => []
  | .char '\r' :: .char '\n' :: rest => '\n' :: universalNewlines rest
  | .char '\r' :: rest => '\n' :: universalNewlines rest
  | c :: rest => c :: universalNewlines rest

/-- The lines of a text whatever its line ends are. -/
def normalizedLines (text : Text) : List Text := lines (normalizeNewlines text)

/-- Line feeds are the only line ends that are left. -/
theorem return_not_mem_normalizeNewlines (text : Text) :
    .char '\r' ∉ normalizeNewlines text := by
  simp only [normalizeNewlines, List.mem_map, not_exists, not_and]
  intro c _ h
  unfold returnToNewline at h
  split at h
  · exact absurd h (by decide)
  · contradiction

end ScenarioDesk.Text
