import ScenarioDesk.Text.CodePoint

/-!
Text is a list of Unicode code points. This module holds what every other module says about text
without regard to its alphabet: cutting at a separator, lines, occurrence of one text in another.
Positions and lengths count code points.
-/

namespace ScenarioDesk

/-- Text as a list of code points. Almost all of them are characters. -/
abbrev Text := List CodePoint

namespace Text

/-- Texts are compared by their code points, which membership in a list of texts rests on. -/
instance : LawfulBEq Text := inferInstance

/-- The text of some characters. -/
def ofChars (chars : List Char) : Text := chars.map .char

/-- The text of a string. -/
def ofString (string : String) : Text := ofChars string.toList

/-- A string literal may stand where text is expected. -/
instance : Coe String Text := ⟨ofString⟩

/-- The text holds characters only. -/
def isWhole (text : Text) : Bool := text.all fun c => !c.isHalf

/-- The pieces of a text between the occurrences of a separator: the first piece and the others.
There is always one piece more than there are separators. -/
def split (separator : CodePoint) : Text → Text × List Text
  | [] => ([], [])
  | c :: rest =>
    let (first, others) := split separator rest
    if c = separator then ([], first :: others) else (c :: first, others)

/-- The lines of a text. A line feed separates two lines, so there is always a first one. -/
def lines (text : Text) : List Text :=
  (split '\n' text).1 :: (split '\n' text).2

/-- Texts joined with a separator between neighbours. -/
def join (separator : Text) : List Text → Text
  | [] => []
  | [piece] => piece
  | piece :: next :: others => piece ++ separator ++ join separator (next :: others)

/-- Lines joined by one line feed between neighbours. -/
def unlines (pieces : List Text) : Text := join ['\n'] pieces

/-- How many lines a text has: one more than its line feeds. -/
def lineCount (text : Text) : Nat := text.count (.char '\n') + 1

/-- The characters of some lines, each with the line feed that ends it. -/
def endedLength : List Text → Nat
  | [] => 0
  | line :: others => line.length + 1 + endedLength others

/-- The first text does not come after the second one in the order of code points. -/
def notAfter : Text → Text → Bool
  | [], _ => true
  | _ :: _, [] => false
  | a :: first, b :: second =>
    decide (a.number < b.number) || (decide (a.number = b.number) && notAfter first second)

/-- The text stands somewhere in the other one, without a gap. -/
def occursIn (needle : Text) : Text → Bool
  | [] => needle.isEmpty
  | c :: rest => needle.isPrefixOf (c :: rest) || occursIn needle rest

/-- Everything after the last occurrence of a code point, or the whole text without one. -/
def afterLast (c : CodePoint) (text : Text) : Text :=
  (text.reverse.takeWhile (· != c)).reverse

theorem lines_ne_nil (text : Text) : lines text ≠ [] := by simp [lines]

@[simp] theorem lines_newline (rest : Text) : lines (.char '\n' :: rest) = [] :: lines rest := by
  simp [lines, split]

theorem lines_cons {c : CodePoint} (h : c ≠ '\n') (rest : Text) :
    lines (c :: rest) = (c :: (split '\n' rest).1) :: (split '\n' rest).2 := by
  simp [lines, split, h]

@[simp] theorem unlines_nil : unlines [] = [] := rfl

@[simp] theorem unlines_singleton (piece : Text) : unlines [piece] = piece := rfl

theorem unlines_cons_cons (piece next : Text) (others : List Text) :
    unlines (piece :: next :: others) =
      piece ++ CodePoint.char '\n' :: unlines (next :: others) := by
  simp [unlines, join]

/-- Cutting a text into its lines loses nothing. -/
theorem unlines_lines (text : Text) : unlines (lines text) = text := by
  induction text with
  | nil => rfl
  | cons c rest ih =>
    by_cases h : c = '\n'
    · subst h
      rw [lines_newline]
      simp only [lines, unlines_cons_cons, List.nil_append] at ih ⊢
      rw [ih]
    · rw [lines_cons h]
      simp only [lines] at ih
      cases hs : (split '\n' rest).2 with
      | nil => simp_all
      | cons next others => simp_all [unlines_cons_cons]

theorem separator_not_mem_of_mem_split {separator : CodePoint} (text : Text) :
    ∀ piece ∈ (split separator text).1 :: (split separator text).2, separator ∉ piece := by
  induction text with
  | nil => simp [split]
  | cons c rest ih =>
    by_cases h : c = separator
    · simp [split, h] at ih ⊢
      exact ih
    · simp [split, h] at ih ⊢
      exact ⟨⟨fun he => h he.symm, ih.1⟩, ih.2⟩

/-- No line holds a line feed. -/
theorem newline_not_mem_of_mem_lines {text line : Text} (h : line ∈ lines text) :
    .char '\n' ∉ line :=
  separator_not_mem_of_mem_split text line h

theorem length_lines (text : Text) : (lines text).length = lineCount text := by
  induction text with
  | nil => rfl
  | cons c rest ih =>
    by_cases h : c = '\n'
    · subst h; simp [lineCount] at ih ⊢; omega
    · rw [lines_cons h]
      simp only [lines, lineCount, List.length_cons] at ih ⊢
      rw [List.count_cons_of_ne (by simpa using h), ih]

end Text

end ScenarioDesk
