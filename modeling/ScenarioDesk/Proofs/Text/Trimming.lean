import ScenarioDesk.Text.Blank

/-! Trimming takes blanks away and nothing else, so it never makes a text blank. -/
namespace ScenarioDesk.Text

theorem isAllBlank_trimStart (text : Text) : isAllBlank (trimStart text) = isAllBlank text := by
  have hFront : (text.takeWhile isBlank).all isBlank = true := List.all_takeWhile
  calc isAllBlank (trimStart text)
      = ((text.takeWhile isBlank).all isBlank && (text.dropWhile isBlank).all isBlank) := by
        rw [hFront, Bool.true_and, isAllBlank, trimStart]
    _ = isAllBlank text := by rw [← List.all_append, List.takeWhile_append_dropWhile, isAllBlank]

theorem isAllBlank_trimEnd (text : Text) : isAllBlank (trimEnd text) = isAllBlank text := by
  have h := isAllBlank_trimStart text.reverse
  rw [isAllBlank, isAllBlank, List.all_reverse] at h
  rw [trimEnd, isAllBlank, List.all_reverse, isAllBlank]
  exact h

theorem isAllBlank_trim (text : Text) : isAllBlank (trim text) = isAllBlank text := by
  rw [trim, isAllBlank_trimEnd, isAllBlank_trimStart]

theorem trim_ne_nil_iff {text : Text} : trim text ≠ [] ↔ isAllBlank text = false := by
  rw [Ne, trim_eq_nil_iff, Bool.not_eq_true]

/-- What is left after trimming, if anything, is not blank. -/
theorem isAllBlank_trim_of_ne_nil {text : Text} (h : trim text ≠ []) :
    isAllBlank (trim text) = false := by
  rw [isAllBlank_trim, ← trim_ne_nil_iff]
  exact h

end ScenarioDesk.Text
