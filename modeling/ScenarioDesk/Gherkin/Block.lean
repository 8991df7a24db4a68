import ScenarioDesk.Gherkin.Keyword
import ScenarioDesk.Text.Newline

/-!
Text cut into scenarios. A line whose trimmed lower case starts with the scenario header opens a new
block; text before the first header is a block of its own unless it is blank. The title of a block
is what follows the first header in it.
-/

namespace ScenarioDesk

/-- One scenario of a larger text. -/
structure Block where
  title : Text
  content : Text
  deriving DecidableEq, Repr

namespace Block

/-- The lower-case spelling of the scenario header. -/
def headerWord : Text := "scenario:"

/-- The title of a scenario that names none. -/
def placeholderTitle : Text := "Untitled Scenario"

/-- The line opens a scenario. -/
def isBoundary (line : Text) : Bool :=
  headerWord.isPrefixOf (Text.lower (Text.trim line))

/-- What follows the first scenario header anywhere in a line, in any spelling of its letters. -/
def afterHeader? : Text → Option Text
  | [] => none
  | c :: rest =>
    match Keyword.spelledBy? headerWord (c :: rest) with
    | some (_, after) => some after
    | none => afterHeader? rest

/-- The title that a line gives: what follows its header, or the placeholder if only blanks do. A
header that ends its line gives none. -/
def titleOfLine? (line : Text) : Option Text :=
  match afterHeader? line with
  | none | some [] => none
  | some after =>
    let title := Text.trim after
    some (if title = [] then placeholderTitle else title)

/-- The title of a scenario: the first that a line of it gives, or the placeholder. -/
def titleOf (content : Text) : Text :=
  ((Text.normalizedLines content).findSome? titleOfLine?).getD placeholderTitle

/-- Lines in groups, of which each but the first starts with a boundary and none holds another
one. -/
def groupLines : List Text → List (List Text)
  | [] => []
  | line :: others =>
    match groupLines others with
    | [] => [[line]]
    | group :: groups =>
      if (group.head?.map isBoundary).getD false then [line] :: group :: groups
      else (line :: group) :: groups

/-- The block of a group of lines. -/
def ofGroup (group : List Text) : Block :=
  let content := Text.unlines group
  ⟨titleOf content, content⟩

/-- The blocks of a text. A group of lines that is all blank is no block. -/
def ofText (text : Text) : List Block :=
  ((groupLines (Text.normalizedLines text)).map ofGroup).filter
    fun block => !Text.isAllBlank block.content

/-- Grouping keeps every line in its place. -/
theorem flatten_groupLines (lines : List Text) : (groupLines lines).flatten = lines := by
  induction lines with
  | nil => rfl
  | cons line others ih =>
    unfold groupLines
    split
    · next h => rw [h] at ih; simp [← ih]
    · next group groups h =>
      rw [h] at ih
      split <;> simp [← ih]

theorem ne_nil_of_mem_groupLines {lines group : List Text} (h : group ∈ groupLines lines) :
    group ≠ [] := by
  induction lines generalizing group with
  | nil => simp [groupLines] at h
  | cons line others ih =>
    unfold groupLines at h
    split at h
    · simp_all
    · next first groups hgroups =>
      rw [hgroups] at ih
      split at h
      · rcases List.mem_cons.1 h with rfl | h
        · simp
        · exact ih h
      · rcases List.mem_cons.1 h with rfl | h
        · simp
        · exact ih (List.mem_cons_of_mem _ h)

end Block

end ScenarioDesk
