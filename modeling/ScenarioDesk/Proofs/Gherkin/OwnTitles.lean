import ScenarioDesk.Proofs.Gherkin.Boundaries
import ScenarioDesk.Proofs.Gherkin.Joining

/-! The title of a block and its own header. A header with anything behind it on its line, be it a blank,
gives the title alone. One that ends its line gives none, and then the title is the first that a later line
mentions. -/
namespace ScenarioDesk.Block

/-- The title that a header gives which has a text behind it: the text without its outer blanks, or the
placeholder if it holds nothing else. -/
def named (after : Text) : Text :=
  if Text.trim after = [] then placeholderTitle else Text.trim after

/-- The title that some lines give: the first that one of them gives, or the placeholder. -/
def mentioned (lines : List Text) : Text := (lines.findSome? titleOfLine?).getD placeholderTitle

theorem titleOfLine?_of_spelledBy? {line spelling after : Text}
    (h : Keyword.spelledBy? headerWord (Text.trimStart line) = some (spelling, after)) :
    titleOfLine? line = if after = [] then none else some (named after) := by
  rw [titleOfLine?, afterHeader?_of_spelledBy? h]
  cases after with
  | nil => rfl
  | cons c rest => rfl

/-- The lines behind a header matter for the title only if the header ends its line. -/
theorem mentioned_cons {line spelling after : Text}
    (h : Keyword.spelledBy? headerWord (Text.trimStart line) = some (spelling, after))
    (others : List Text) :
    mentioned (line :: others) = if after = [] then mentioned others else named after := by
  rw [mentioned, List.findSome?_cons, titleOfLine?_of_spelledBy? h]
  by_cases hAfter : after = []
  · rw [if_pos hAfter, if_pos hAfter, mentioned]
  · rw [if_neg hAfter, if_neg hAfter, Option.getD_some]

theorem title_eq_mentioned {text : Text} {block : Block} (h : block ∈ ofText text) :
    block.title = mentioned (Text.lines block.content) := by
  rw [title_of_mem_ofText h, titleOf, Text.normalizedLines,
    Text.normalizeNewlines_eq_self (isContent_of_mem_ofText h).plain, mentioned]

/-- The title of a block that begins with a header. If anything stands behind the header on its line, that
is the title, or the placeholder if it is blank, and no other line matters. If the header ends its line, the
title is the one that the lines below mention first, where there is one. So the title is that of the header
unless the header ends its line and the lines below mention another title than the placeholder. -/
theorem title_is_own_iff {text : Text} {block : Block} (hBlock : block ∈ ofText text)
    (hHeaded : isHeaded block.content = true) :
    ∃ line others spelling after, Text.lines block.content = line :: others ∧
      Keyword.spelledBy? headerWord (Text.trimStart line) = some (spelling, after) ∧
      (after ≠ [] → block.title = named after) ∧ (after = [] → block.title = mentioned others) ∧
      (block.title = named after ↔ (after = [] → mentioned others = placeholderTitle)) := by
  obtain ⟨line, others, hLines⟩ := List.exists_cons_of_ne_nil (Text.lines_ne_nil block.content)
  rw [isHeaded, hLines, opens_cons] at hHeaded
  obtain ⟨spelling, after, hSpelled, _⟩ := isBoundary_iff.mp hHeaded
  have hTitle : block.title = if after = [] then mentioned others else named after := by
    rw [title_eq_mentioned hBlock, hLines, mentioned_cons hSpelled]
  refine ⟨line, others, spelling, after, hLines, hSpelled, ?_⟩
  by_cases hAfter : after = []
  · have hNone : named [] = placeholderTitle := rfl
    rw [if_pos hAfter] at hTitle
    simp [hAfter, hTitle, hNone]
  · rw [if_neg hAfter] at hTitle
    simp [hAfter, hTitle]

/-- A named header keeps its title although a step below mentions another one. -/
theorem deposit_keeps_its_title :
    ∃ line others spelling after,
      Text.lines "Scenario:  Deposit \n  Given a scenario: of two steps" = line :: others ∧
      Keyword.spelledBy? headerWord (Text.trimStart line) = some (spelling, after) ∧
      (after ≠ [] → ("Deposit" : Text) = named after) ∧ (after = [] → ("Deposit" : Text) = mentioned others) ∧
      (("Deposit" : Text) = named after ↔ (after = [] → mentioned others = placeholderTitle)) :=
  @title_is_own_iff "Scenario:  Deposit \n  Given a scenario: of two steps"
    ⟨"Deposit", "Scenario:  Deposit \n  Given a scenario: of two steps"⟩
    (by decide +kernel) (by decide +kernel)

/-- A header that names nothing, not even by a blank, takes its title from a step below. -/
theorem bare_header_takes_title_of_step :
    ofText "Scenario:\n  Given a scenario: of two steps" =
      [⟨"of two steps", "Scenario:\n  Given a scenario: of two steps"⟩] ∧
      isBoundary "Scenario:" = true ∧ named [] = placeholderTitle ∧
      ("of two steps" : Text) ≠ placeholderTitle := by
  decide +kernel

end ScenarioDesk.Block
