import ScenarioDesk.Gherkin.Block
import ScenarioDesk.Proofs.Text.Lines

/-! Titles. Whatever a text holds, the title taken from it is a piece of one of its lines without outer blanks,
or the placeholder, which a header gives that names nothing. -/
namespace ScenarioDesk.Block

/-- The form of a title: one line, of which something is left without its outer blanks, and nothing else. -/
structure IsTitle (title : Text) : Prop where
  filled : title ≠ []
  trimmed : Text.trim title = title
  noReturn : .char '\r' ∉ title
  noFeed : .char '\n' ∉ title

theorem IsTitle.isAllBlank_eq_false {title : Text} (h : IsTitle title) : Text.isAllBlank title = false := by
  rw [← Text.trim_ne_nil_iff, h.trimmed]
  exact h.filled

theorem isTitle_placeholderTitle : IsTitle placeholderTitle :=
  ⟨by decide, by decide, by decide, by decide⟩

/-- What follows a header is the end of its line. -/
theorem suffix_of_afterHeader? {line after : Text} (h : afterHeader? line = some after) : after <:+ line := by
  induction line with
  | nil => cases h
  | cons c rest ih =>
      rw [afterHeader?] at h
      cases hSpelled : Keyword.spelledBy? headerWord (c :: rest) with
      | none =>
          rw [hSpelled] at h
          exact (ih h).trans (List.suffix_cons c rest)
      | some found =>
          rw [hSpelled] at h
          cases h
          rw [(Keyword.eq_append_of_spelledBy? hSpelled).1]
          exact List.suffix_append _ _

theorem isTitle_of_titleOfLine? {line title : Text} (hReturn : .char '\r' ∉ line) (hFeed : .char '\n' ∉ line)
    (h : titleOfLine? line = some title) : IsTitle title := by
  unfold titleOfLine? at h
  split at h
  · cases h
  · cases h
  · next after _ hAfter =>
      dsimp only at h
      split at h
      · cases h
        exact isTitle_placeholderTitle
      · next hTitle =>
          cases h
          have hLine : ∀ c ∈ Text.trim after, c ∈ line := fun c hMem =>
            (suffix_of_afterHeader? hAfter).subset (Text.mem_of_mem_trim hMem)
          exact ⟨hTitle, Text.trim_trim after, fun hMem => hReturn (hLine _ hMem),
            fun hMem => hFeed (hLine _ hMem)⟩

theorem isTitle_titleOf (content : Text) : IsTitle (titleOf content) := by
  unfold titleOf
  cases hTitle : (Text.normalizedLines content).findSome? titleOfLine? with
  | none => exact isTitle_placeholderTitle
  | some title =>
      obtain ⟨line, hMem, hLine⟩ := List.exists_of_findSome?_eq_some hTitle
      refine isTitle_of_titleOfLine? ?_ (Text.newline_not_mem_of_mem_lines hMem) hLine
      intro hReturn
      have hText := (Text.mem_unlines_iff (by decide)).mpr ⟨line, hMem, hReturn⟩
      rw [Text.normalizedLines, Text.unlines_lines] at hText
      exact Text.return_not_mem_normalizeNewlines content hText

/-- The title of a text is not blank. -/
theorem isAllBlank_titleOf (content : Text) : Text.isAllBlank (titleOf content) = false :=
  (isTitle_titleOf content).isAllBlank_eq_false

theorem title_of_mem_ofText {text : Text} {block : Block} (h : block ∈ ofText text) :
    block.title = titleOf block.content := by
  obtain ⟨hMem, _⟩ := List.mem_filter.mp h
  obtain ⟨group, _, rfl⟩ := List.mem_map.mp hMem
  rfl

end ScenarioDesk.Block
