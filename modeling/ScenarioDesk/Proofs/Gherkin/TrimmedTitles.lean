import ScenarioDesk.Proofs.Gherkin.KeywordLines
import ScenarioDesk.Proofs.Gherkin.Titles
import ScenarioDesk.Proofs.Text.Newlines

/-! Titles and outer blanks. A header holds no blank, so blanks around a text neither make nor break one;
all they can do is to let a header that names nothing end its line, and then the title is the placeholder in
either case. -/
namespace ScenarioDesk

theorem Text.isBlank_eq_false_of_upper {c : Char} (hFirst : 'A'.val ≤ c.val) (hLast : c.val ≤ 'Z'.val) :
    isBlank c = false := by
  have hLeast : 65 ≤ c.toNat := hFirst
  have hMost : c.toNat ≤ 90 := hLast
  rw [Bool.eq_false_iff]
  intro hBlank
  simp only [isBlank, Bool.or_eq_true, Bool.and_eq_true, decide_eq_true_eq, beq_iff_eq] at hBlank
  rw [CodePoint.number_char] at hBlank
  omega

namespace Keyword

/-- A code point that stands for one that leaves a mark leaves a mark. -/
theorem isBlank_eq_false_of_spells {expected : Char} {found : CodePoint}
    (hExpected : Text.isBlank expected = false) (hLower : Text.isBlank expected.toLower = false)
    (h : spells expected found) : Text.isBlank found = false := by
  cases found with
  | half index => simp [spells] at h
  | char c =>
      simp only [spells, Bool.or_eq_true, Bool.and_eq_true, decide_eq_true_eq] at h
      rcases h with ((rfl | hSame) | ⟨_, rfl | rfl⟩) | ⟨_, rfl⟩
      · exact hExpected
      · by_cases hUpper : 'A'.val ≤ c.val ∧ c.val ≤ 'Z'.val
        · exact Text.isBlank_eq_false_of_upper hUpper.1 hUpper.2
        · have hKept : c.toLower = c := dif_neg hUpper
          rw [← hKept, hSame]
          exact hLower
      · decide
      · decide
      · decide

/-- No blank stands for a code point of the word. -/
def IsInked (word : Text) : Prop := ∀ expected ∈ word, ∀ found, spells expected found →
  Text.isBlank found = false

theorem isInked_of_letters {letters : List Char}
    (h : (letters.all fun c => !Text.isBlank c && !Text.isBlank c.toLower) = true) :
    IsInked (letters.map .char) := by
  intro expected hMem found hSpells
  obtain ⟨c, hLetter, rfl⟩ := List.mem_map.mp hMem
  obtain ⟨hInked, hLower⟩ : Text.isBlank c = false ∧ Text.isBlank c.toLower = false := by
    simpa using List.all_eq_true.mp h c hLetter
  exact isBlank_eq_false_of_spells hInked hLower hSpells

theorem isInked_headerWord : IsInked Block.headerWord := isInked_of_letters (by decide)

theorem spelledBy?_blank_append {word blank : Text} (hWord : IsInked word) (hSome : word ≠ [])
    (hFront : blank ≠ []) (hBlank : Text.isAllBlank blank = true) (text : Text) :
    spelledBy? word (blank ++ text) = none := by
  cases word with
  | nil => exact absurd rfl hSome
  | cons expected word =>
      cases blank with
      | nil => exact absurd rfl hFront
      | cons c rest =>
          rw [Text.isAllBlank, List.all_cons, Bool.and_eq_true] at hBlank
          rw [List.cons_append, spelledBy?, if_neg]
          intro hSpells
          rw [hWord expected List.mem_cons_self c hSpells] at hBlank
          cases hBlank.1

/-- Blanks behind a text do not complete a word. -/
theorem spelledBy?_append_blank {word blank : Text} (hWord : IsInked word)
    (hBlank : Text.isAllBlank blank = true) (text : Text) : spelledBy? word (text ++ blank) =
      (spelledBy? word text).map fun found => (found.1, found.2 ++ blank) := by
  induction word generalizing text with
  | nil => rfl
  | cons expected word ih =>
      obtain ⟨hFirst, hOthers⟩ := List.forall_mem_cons.mp hWord
      cases text with
      | nil =>
          cases blank with
          | nil => rfl
          | cons c rest =>
              have hNone := spelledBy?_blank_append hWord (List.cons_ne_nil _ _)
                (List.cons_ne_nil c rest) hBlank []
              rwa [List.append_nil] at hNone
      | cons c rest =>
          rw [List.cons_append, spelledBy?, spelledBy?, ih hOthers]
          split
          · rw [Option.map_map, Option.map_map]
            rfl
          · rfl

end Keyword

namespace Block

variable {blank : Text}

theorem afterHeader?_blank_append (hBlank : Text.isAllBlank blank = true) (text : Text) :
    afterHeader? (blank ++ text) = afterHeader? text := by
  induction blank with
  | nil => rfl
  | cons c rest ih =>
      have hRest : Text.isAllBlank rest = true := (Bool.and_eq_true_iff.mp hBlank).2
      have hNone := Keyword.spelledBy?_blank_append Keyword.isInked_headerWord
        (List.cons_ne_nil _ _) (List.cons_ne_nil c rest) hBlank text
      rw [List.cons_append] at hNone ⊢
      rw [afterHeader?, hNone]
      exact ih hRest

theorem afterHeader?_of_isAllBlank (hBlank : Text.isAllBlank blank = true) : afterHeader? blank = none := by
  have hNone := afterHeader?_blank_append hBlank []
  rwa [List.append_nil] at hNone

theorem afterHeader?_append_blank (hBlank : Text.isAllBlank blank = true) (text : Text) :
    afterHeader? (text ++ blank) = (afterHeader? text).map (· ++ blank) := by
  induction text with
  | nil => exact afterHeader?_of_isAllBlank hBlank
  | cons c rest ih =>
      have hSpelled := Keyword.spelledBy?_append_blank Keyword.isInked_headerWord hBlank (c :: rest)
      rw [List.cons_append] at hSpelled
      rw [List.cons_append, afterHeader?, afterHeader?, hSpelled]
      cases Keyword.spelledBy? headerWord (c :: rest) with
      | none => exact ih
      | some found => rfl

theorem titleOfLine?_of_isAllBlank (hBlank : Text.isAllBlank blank = true) : titleOfLine? blank = none := by
  rw [titleOfLine?, afterHeader?_of_isAllBlank hBlank]

theorem titleOfLine?_blank_append (hBlank : Text.isAllBlank blank = true) (line : Text) :
    titleOfLine? (blank ++ line) = titleOfLine? line := by
  rw [titleOfLine?, titleOfLine?, afterHeader?_blank_append hBlank]

/-- A header that ends its line gives no title, and the placeholder if blanks follow it. -/
theorem titleOfLine?_append_blank (hBlank : Text.isAllBlank blank = true) (line : Text) :
    (titleOfLine? (line ++ blank)).getD placeholderTitle =
      (titleOfLine? line).getD placeholderTitle := by
  rw [titleOfLine?, titleOfLine?, afterHeader?_append_blank hBlank]
  cases afterHeader? line with
  | none => rfl
  | some after =>
      cases after with
      | nil =>
          cases blank with
          | nil => rfl
          | cons c rest =>
              have hTrim : Text.trim (c :: rest) = [] := Text.trim_eq_nil_iff.mpr hBlank
              simp only [Option.map_some, List.nil_append, hTrim, if_true, Option.getD_some, Option.getD_none]
      | cons c rest =>
          have hTrim : Text.trim (c :: (rest ++ blank)) = Text.trim (c :: rest) :=
            Text.trim_append_right hBlank (c :: rest)
          simp only [Option.map_some, List.cons_append, hTrim]

/-- Blanks in front of a text are lines without a title, and the beginning of its first line. -/
theorem findSome?_lines_blank_append (hBlank : Text.isAllBlank blank = true) (text : Text) :
    (Text.lines (blank ++ text)).findSome? titleOfLine? = (Text.lines text).findSome? titleOfLine? := by
  obtain ⟨init, last, head, rest, hFront, hText, hLines⟩ := Text.exists_lines_append blank text
  have hEach : ∀ line ∈ init ++ [last], Text.isAllBlank line = true := by
    rw [← hFront]
    exact fun line hLine => Text.isAllBlank_of_mem_lines hBlank hLine
  obtain ⟨hInit, hLast⟩ := List.forall_mem_append.mp hEach
  have hNone : init.findSome? titleOfLine? = none :=
    List.findSome?_eq_none_iff.mpr fun line hLine => titleOfLine?_of_isAllBlank (hInit line hLine)
  rw [hLines, hText, List.findSome?_append, hNone, Option.none_or, List.findSome?_cons, List.findSome?_cons,
    titleOfLine?_blank_append (hLast last List.mem_cons_self)]

/-- Blanks behind a text are the end of its last line, and lines without a title. -/
theorem findSome?_lines_append_blank (hBlank : Text.isAllBlank blank = true) (text : Text) :
    ((Text.lines (text ++ blank)).findSome? titleOfLine?).getD placeholderTitle =
      ((Text.lines text).findSome? titleOfLine?).getD placeholderTitle := by
  obtain ⟨init, last, head, rest, hText, hBack, hLines⟩ := Text.exists_lines_append text blank
  have hEach : ∀ line ∈ head :: rest, Text.isAllBlank line = true := by
    rw [← hBack]
    exact fun line hLine => Text.isAllBlank_of_mem_lines hBlank hLine
  obtain ⟨hHead, hRest⟩ := List.forall_mem_cons.mp hEach
  have hNone : rest.findSome? titleOfLine? = none :=
    List.findSome?_eq_none_iff.mpr fun line hLine => titleOfLine?_of_isAllBlank (hRest line hLine)
  have hTitle := titleOfLine?_append_blank hHead last
  rw [hLines, hText, List.findSome?_append, List.findSome?_append]
  cases init.findSome? titleOfLine? with
  | some title => rfl
  | none =>
      rw [Option.none_or, Option.none_or, List.findSome?_cons, List.findSome?_cons, hNone, List.findSome?_nil]
      revert hTitle
      cases titleOfLine? (last ++ head) <;> cases titleOfLine? last <;> exact id

/-- The title of a text is that of the trimmed text. -/
theorem titleOf_trim (content : Text) : titleOf (Text.trim content) = titleOf content := by
  obtain ⟨front, back, hFront, hBack, hText⟩ := Text.exists_eq_append_trim (Text.normalizeNewlines content)
  rw [titleOf, titleOf, Text.normalizedLines, Text.normalizedLines, ← Text.trim_normalizeNewlines]
  calc ((Text.lines (Text.trim (Text.normalizeNewlines content))).findSome? titleOfLine?).getD placeholderTitle
      = ((Text.lines (Text.trim (Text.normalizeNewlines content) ++ back)).findSome?
          titleOfLine?).getD placeholderTitle := (findSome?_lines_append_blank hBack _).symm
    _ = ((Text.lines (Text.normalizeNewlines content)).findSome? titleOfLine?).getD placeholderTitle := by
        rw [← findSome?_lines_blank_append hFront, ← List.append_assoc, ← hText]

/-- The title of a block was taken before its content was trimmed, which makes no difference. -/
theorem title_eq_titleOf_trim {text : Text} {block : Block} (h : block ∈ ofText text) :
    block.title = titleOf (Text.trim block.content) := by
  rw [titleOf_trim, title_of_mem_ofText h]

end Block

end ScenarioDesk
