import ScenarioDesk.Gherkin.Keyword

/-!
Lines that a keyword opens: the keyword as it is spelled, the blanks after it, of which there is at
least one, and the rest. All recognisers of keyword lines cut a line with `cut?` and differ in the
keywords they know and in the rests they accept.
-/

namespace ScenarioDesk

/-- A line cut after its keyword and after the blanks that follow it. -/
structure KeywordLine where
  keyword : Keyword
  /-- The keyword as it stands in the line. -/
  spelling : Text
  /-- All blanks up to the next character that is none. -/
  gap : Text
  rest : Text
  deriving DecidableEq, Repr

namespace KeywordLine

/-- The line that was cut. -/
def source (line : KeywordLine) : Text := line.spelling ++ line.gap ++ line.rest

/-- Cuts a text that starts with one of the keywords and at least one blank. -/
def cut? (keywords : List Keyword) (text : Text) : Option KeywordLine :=
  match Keyword.atStart? keywords text with
  | none => none
  | some found =>
    let gap := found.after.takeWhile Text.isBlank
    if gap = [] then none
    else some ⟨found.keyword, found.spelling, gap, found.after.dropWhile Text.isBlank⟩

/-- Cutting loses nothing, and there is a gap. -/
theorem source_of_cut? {keywords : List Keyword} {text : Text} {line : KeywordLine}
    (h : cut? keywords text = some line) : line.source = text ∧ line.gap ≠ [] := by
  unfold cut? at h
  split at h
  · simp at h
  · next found hfound =>
    dsimp only at h
    split at h
    · simp at h
    · next hgap =>
      obtain rfl := Option.some.inj h
      obtain ⟨_, htext, _⟩ := Keyword.eq_append_of_atStart? hfound
      exact ⟨by simp [source, List.takeWhile_append_dropWhile, htext], hgap⟩

/-- A rest that lies on one line: it holds no line feed, or only one at its end, which is dropped. -/
def oneLine? (rest : Text) : Option Text :=
  let body := if rest.getLast? = some '\n' then rest.dropLast else rest
  if body.contains '\n' then none else some body

/-- A line that any keyword opens. The rest has to lie on one line. -/
def ofLine? (line : Text) : Option KeywordLine := do
  let cut ← cut? Keyword.all line
  let rest ← oneLine? cut.rest
  return { cut with rest := rest }

/-- The beginning of a step, as far as it has been typed. -/
def ofStepStart? (line : Text) : Option KeywordLine := cut? Keyword.steps line

end KeywordLine

/-- The words of a step after its keyword, if the trimmed line is a step with at least one. -/
def stepText? (line : Text) : Option Text :=
  match KeywordLine.cut? Keyword.steps (Text.trim line) with
  | none => none
  | some cut => if cut.rest = [] ∨ cut.rest.contains '\n' then none else some cut.rest

end ScenarioDesk
