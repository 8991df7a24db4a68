import ScenarioDesk.Text.Basic

/-!
Blank characters and trimming. Blank is what Unicode calls white space together with the four
information separators of ASCII; the zero-width characters are not blank.
-/

namespace ScenarioDesk.Text

/-- The code points that leave no mark: ASCII controls 9 to 13 and 28 to 31, the space, the next-line
and no-break characters, and the spaces and separators of general punctuation. -/
def isBlank (c : CodePoint) : Bool :=
  let n := c.number
  (0x9 ≤ n && n ≤ 0xD) || (0x1C ≤ n && n ≤ 0x20) || n == 0x85 || n == 0xA0 || n == 0x1680 ||
    (0x2000 ≤ n && n ≤ 0x200A) || n == 0x2028 || n == 0x2029 || n == 0x202F || n == 0x205F ||
    n == 0x3000

/-- A text without its leading blanks. -/
def trimStart (text : Text) : Text := text.dropWhile isBlank

/-- A text without its trailing blanks. -/
def trimEnd (text : Text) : Text := (text.reverse.dropWhile isBlank).reverse

/-- A text without the blanks at both ends. -/
def trim (text : Text) : Text := trimEnd (trimStart text)

/-- Nothing but blanks, or nothing at all. -/
def isAllBlank (text : Text) : Bool := text.all isBlank

theorem trimStart_eq_nil_iff {text : Text} : trimStart text = [] ↔ isAllBlank text = true := by
  simp only [trimStart, isAllBlank]
  induction text with
  | nil => simp
  | cons c rest ih => by_cases h : isBlank c <;> simp [h, ih]

theorem trimEnd_eq_nil_iff {text : Text} : trimEnd text = [] ↔ isAllBlank text = true := by
  have h := @trimStart_eq_nil_iff text.reverse
  simp only [trimStart, isAllBlank, List.all_reverse] at h
  rw [trimEnd, List.reverse_eq_nil_iff, h, isAllBlank]

/-- Trimming leaves nothing exactly of a blank text. -/
theorem trim_eq_nil_iff {text : Text} : trim text = [] ↔ isAllBlank text = true := by
  rw [trim, trimEnd_eq_nil_iff]
  constructor
  · intro h
    by_cases hn : trimStart text = []
    · exact trimStart_eq_nil_iff.1 hn
    · have hhead := List.head_dropWhile_not isBlank hn
      rw [isAllBlank, List.all_eq_true] at h
      have := h _ (List.head_mem hn)
      simp_all [trimStart]
  · intro h
    rw [trimStart_eq_nil_iff.2 h]
    rfl

end ScenarioDesk.Text
