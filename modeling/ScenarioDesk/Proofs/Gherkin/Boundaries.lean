import ScenarioDesk.Gherkin.Token
import ScenarioDesk.Proofs.Gherkin.Partition
import ScenarioDesk.Proofs.Gherkin.TrimmedTitles
import ScenarioDesk.Proofs.Text.LowerCase

/-! Which headers open a block. Tokens and titles read a header in any spelling of its letters, boundaries
compare its lower case. Both agree but for three letters, which spell an i or an s without being one of its
two cases: a header with one of them is shown and gives its title, and opens no block. -/
namespace ScenarioDesk

namespace Keyword

/-- The letters that spell another one of which they are neither the upper nor the lower case. -/
def foreignLetters : List CodePoint := ['\u0130', '\u0131', '\u017F']

/-- The spelling keeps to upper and lower case. -/
def isPlain (spelling : Text) : Bool := spelling.all fun c => !foreignLetters.contains c

/-- Lower-case letters of ASCII but the letter k, and other characters of it. -/
def isSmall (letter : Char) : Bool := letter.toNat < 0x80 && letter ≠ 'k' && letter.toLower = letter

theorem isSmall_iff {letter : Char} :
    isSmall letter = true ↔ (letter.toNat < 0x80 ∧ letter ≠ 'k') ∧ letter.toLower = letter := by
  simp only [isSmall, Bool.and_eq_true, decide_eq_true_eq]

theorem spells_iff {letter : Char} (h : isSmall letter = true) {c : CodePoint} :
    (spells letter c = true ∧ foreignLetters.contains c = false) ↔
      Text.lowerChar c = [.char letter] := by
  obtain ⟨⟨hAscii, hKelvin⟩, hLower⟩ := isSmall_iff.mp h
  rw [Text.lowerChar_eq_letter_iff hAscii hKelvin]
  constructor
  · rintro ⟨hSpells, hForeign⟩
    cases c with
    | half index => simp [spells] at hSpells
    | char d =>
        refine ⟨d, rfl, ?_⟩
        simp only [spells, Bool.or_eq_true, Bool.and_eq_true, decide_eq_true_eq] at hSpells
        rcases hSpells with ((rfl | hSame) | ⟨_, rfl | rfl⟩) | ⟨_, rfl⟩
        · exact hLower
        · rw [hSame, hLower]
        · exact absurd hForeign (by decide)
        · exact absurd hForeign (by decide)
        · exact absurd hForeign (by decide)
  · rintro ⟨d, rfl, hSame⟩
    refine ⟨by simp [spells, hSame, hLower], ?_⟩
    rw [Bool.eq_false_iff]
    intro hForeign
    have hBeyond : 0x80 ≤ d.toNat := by
      simp only [foreignLetters, List.contains_eq_mem, List.mem_cons, List.not_mem_nil, or_false,
        CodePoint.char.injEq, decide_eq_true_eq] at hForeign
      rcases hForeign with rfl | rfl | rfl <;> decide
    rw [Text.toLower_of_beyond_ascii hBeyond] at hSame
    rw [hSame] at hBeyond
    omega

/-- A plain spelling of a word is one whose characters have the letters of the word as lower case. -/
theorem spells_isPlain_iff {word : List Char} (hWord : ∀ letter ∈ word, isSmall letter = true)
    {spelling : Text} :
    (Spells (Text.ofChars word) spelling ∧ isPlain spelling = true) ↔
      List.Forall₂ (fun letter c => Text.lowerChar c = [.char letter]) word spelling := by
  induction word generalizing spelling with
  | nil =>
      simp only [Text.ofChars, List.map_nil, Spells, List.forall₂_nil_left_iff]
      constructor
      · exact And.left
      · rintro rfl
        exact ⟨rfl, rfl⟩
  | cons letter word ih =>
      obtain ⟨hLetter, hOthers⟩ := List.forall_mem_cons.mp hWord
      cases spelling with
      | nil =>
          constructor
          · rintro ⟨hSpells, _⟩
            cases hSpells
          · intro hLower
            cases hLower
      | cons c spelling =>
          have hCons : Text.ofChars (letter :: word) = .char letter :: Text.ofChars word := rfl
          rw [List.forall₂_cons, ← spells_iff hLetter, ← ih hOthers, hCons, Spells, List.forall₂_cons,
            isPlain, List.all_cons, Bool.and_eq_true, Bool.not_eq_true']
          exact and_and_and_comm

/-- Which characters spell a letter does not depend on the case it is given in. -/
theorem spells_congr {first second : Char} (h : first.toLower = second.toLower) (found : CodePoint) :
    spells first found = spells second found := by
  cases found with
  | half index => rfl
  | char c =>
      have hSame : ∀ expected : Char, (decide (c = expected) || decide (c.toLower = expected.toLower)) =
          decide (c.toLower = expected.toLower) := by
        intro expected
        rw [← Bool.decide_or]
        exact decide_eq_decide.mpr (or_iff_right_of_imp (congrArg Char.toLower))
      simp only [spells, hSame]
      rw [h]

theorem spelledBy?_congr {first second : List Char}
    (h : List.Forall₂ (fun a b => a.toLower = b.toLower) first second) (text : Text) :
    spelledBy? (Text.ofChars first) text = spelledBy? (Text.ofChars second) text := by
  induction h generalizing text with
  | nil => rfl
  | @cons a b first second hLetter _ ih =>
      cases text with
      | nil => rfl
      | cons found rest =>
          have hFirst : Text.ofChars (a :: first) = .char a :: Text.ofChars first := rfl
          have hSecond : Text.ofChars (b :: second) = .char b :: Text.ofChars second := rfl
          rw [hFirst, hSecond, spelledBy?, spelledBy?, spells_congr hLetter, ih]

end Keyword

namespace Block

theorem isSmall_of_mem_headerWord : ∀ letter ∈ "scenario:".toList, Keyword.isSmall letter = true :=
  List.all_eq_true.mp (by decide)

/-- Titles look for the header in the spellings in which tokens show the keyword. -/
theorem spelledBy?_headerWord (text : Text) :
    Keyword.spelledBy? headerWord text = Keyword.spelledBy? Keyword.scenario.canonical text :=
  @Keyword.spelledBy?_congr "scenario:".toList "Scenario:".toList (by decide) text

/-- The blanks behind a line make no difference to how its header is spelled. -/
theorem exists_spelledBy?_trim_iff {line spelling : Text} :
    (∃ after, Keyword.spelledBy? headerWord (Text.trim line) = some (spelling, after)) ↔
      ∃ after, Keyword.spelledBy? headerWord (Text.trimStart line) = some (spelling, after) := by
  obtain ⟨back, hBack, hLine⟩ := Text.exists_trimStart_eq_append line
  rw [hLine, Keyword.spelledBy?_append_blank Keyword.isInked_headerWord hBack]
  cases Keyword.spelledBy? headerWord (Text.trim line) with
  | none => simp
  | some found =>
      obtain ⟨other, after⟩ := found
      simp

/-- A line opens a block exactly if it begins, behind its blanks, with a plain spelling of the header. -/
theorem isBoundary_iff {line : Text} : isBoundary line = true ↔ ∃ spelling after,
    Keyword.spelledBy? headerWord (Text.trimStart line) = some (spelling, after) ∧
      Keyword.isPlain spelling = true := by
  have hWord : Text.IsPlainWord "scenario:".toList :=
    ⟨fun letter hMem => (Keyword.isSmall_iff.mp (isSmall_of_mem_headerWord letter hMem)).1, by decide⟩
  have hBoundary : isBoundary line = true ↔ ∃ spelling after,
      List.Forall₂ (fun letter c => Text.lowerChar c = [.char letter]) "scenario:".toList spelling ∧
        Text.trim line = spelling ++ after := Text.isPrefixOf_lowerAfter hWord [] (Text.trim line)
  rw [hBoundary]
  refine exists_congr fun spelling => ?_
  rw [exists_and_right, ← exists_spelledBy?_trim_iff, ← exists_and_right]
  refine exists_congr fun after => ?_
  rw [← Keyword.spells_isPlain_iff isSmall_of_mem_headerWord, Keyword.spelledBy?_eq_some_iff]
  exact and_right_comm

theorem isBoundary_iff_isPlain {line spelling after : Text}
    (h : Keyword.spelledBy? headerWord (Text.trimStart line) = some (spelling, after)) :
    isBoundary line = true ↔ Keyword.isPlain spelling = true := by
  rw [isBoundary_iff, h]
  simp

/-- The header that a line begins with is the first one in it. -/
theorem afterHeader?_of_spelledBy? {line spelling after : Text}
    (h : Keyword.spelledBy? headerWord (Text.trimStart line) = some (spelling, after)) :
    afterHeader? line = some after := by
  have hFront : Text.isAllBlank (line.takeWhile Text.isBlank) = true := List.all_takeWhile
  have hSame : afterHeader? line = afterHeader? (Text.trimStart line) := by
    have hBlank := afterHeader?_blank_append hFront (Text.trimStart line)
    rwa [Text.trimStart, List.takeWhile_append_dropWhile] at hBlank
  rw [hSame]
  cases hStart : Text.trimStart line with
  | nil =>
      rw [hStart] at h
      cases h
  | cons c rest =>
      rw [hStart] at h
      rw [afterHeader?, h]

theorem trimStart_of_spelledBy? {line : Text} {found : Text × Text}
    (h : Keyword.spelledBy? headerWord line = some found) : Text.trimStart line = line := by
  have hLine : line.takeWhile Text.isBlank ++ Text.trimStart line = line :=
    List.takeWhile_append_dropWhile
  by_cases hFront : line.takeWhile Text.isBlank = []
  · rwa [hFront, List.nil_append] at hLine
  · have hNone := Keyword.spelledBy?_blank_append Keyword.isInked_headerWord (List.cons_ne_nil _ _) hFront
      List.all_takeWhile (Text.trimStart line)
    rw [hLine, h] at hNone
    cases hNone

/-- A line that is shown as a scenario header begins with a spelling of the header. -/
theorem spelledBy?_of_ofLine? {line : Text} {shown : KeywordLine}
    (h : KeywordLine.ofLine? line = some shown) (hKeyword : shown.keyword = .scenario) :
    ∃ after, Keyword.spelledBy? headerWord (Text.trimStart line) = some (shown.spelling, after) := by
  obtain ⟨cut, hCut, hRest⟩ := Option.bind_eq_some_iff.mp h
  obtain ⟨rest, _, hShown⟩ := Option.bind_eq_some_iff.mp hRest
  cases hShown
  obtain ⟨_, hSpells, _, _, _, hLine⟩ := KeywordLine.cut?_eq_some_iff.mp hCut
  have hSpelled : Keyword.spelledBy? headerWord line = some (cut.spelling, cut.gap ++ cut.rest) := by
    rw [spelledBy?_headerWord, Keyword.spelledBy?_eq_some_iff]
    refine ⟨hKeyword ▸ hSpells, ?_⟩
    rw [hLine, KeywordLine.source, List.append_assoc]
  exact ⟨_, (trimStart_of_spelledBy? hSpelled).symm ▸ hSpelled⟩

theorem isBoundary_iff_of_ofLine? {line : Text} {shown : KeywordLine}
    (h : KeywordLine.ofLine? line = some shown) (hKeyword : shown.keyword = .scenario) :
    isBoundary line = true ↔ Keyword.isPlain shown.spelling = true := by
  obtain ⟨after, hSpelled⟩ := spelledBy?_of_ofLine? h hKeyword
  exact isBoundary_iff_isPlain hSpelled

/-- Lines behind others are grouped on their own exactly if the first of them opens a block. -/
theorem groupLines_append_eq_iff {front : List Text} (hFront : front ≠ []) (line : Text)
    (others : List Text) :
    groupLines (front ++ line :: others) = groupLines front ++ groupLines (line :: others) ↔
      isBoundary line = true := by
  have hCuts := cuts_groupLines (line :: others)
  constructor
  · intro h
    have hWhole := cuts_groupLines (front ++ line :: others)
    rw [h] at hWhole
    cases hLead : groupLines front with
    | nil =>
        have hComplete := flatten_groupLines front
        rw [hLead] at hComplete
        exact absurd hComplete.symm hFront
    | cons group groups =>
        cases hGroups : groupLines (line :: others) with
        | nil =>
            have hComplete := flatten_groupLines (line :: others)
            rw [hGroups] at hComplete
            cases hComplete
        | cons next later =>
            rw [hGroups] at hCuts
            rw [hLead, hGroups] at hWhole
            have hOpens := hCuts.opens_eq.trans (hWhole.headed next (by simp))
            exact hOpens
  · intro hOpens
    exact ((cuts_groupLines front).append hCuts hOpens).eq_groupLines.symm

/-- Tokens, titles and blocks agree about a scenario header but for the letters it is spelled with. A line
opens a block exactly if, trimmed, it begins with the header in upper and lower case. So a line that is shown
as a scenario header, trimmed or as it stands, opens one exactly if the keyword that is shown is plain, and
so does a line that gives its title from its beginning. To open a block is to be grouped apart from the lines
above. -/
theorem header_opens_block_iff_plain (line : Text) :
    (isBoundary line = true ↔ ∃ spelling after,
      Keyword.spelledBy? headerWord (Text.trim line) = some (spelling, after) ∧
        Keyword.isPlain spelling = true) ∧
    (∀ shown, KeywordLine.ofLine? line = some shown ∨ KeywordLine.ofLine? (Text.trim line) = some shown →
      shown.keyword = .scenario → (isBoundary line = true ↔ Keyword.isPlain shown.spelling = true)) ∧
    (∀ spelling after, Keyword.spelledBy? headerWord (Text.trimStart line) = some (spelling, after) →
      afterHeader? line = some after ∧
        (isBoundary line = true ↔ Keyword.isPlain spelling = true)) ∧
    ∀ front others, front ≠ [] →
      (groupLines (front ++ line :: others) = groupLines front ++ groupLines (line :: others) ↔
        isBoundary line = true) := by
  refine ⟨?_, ?_, fun spelling after hSpelled => ?_,
    fun front others hFront => groupLines_append_eq_iff hFront line others⟩
  · rw [isBoundary_iff]
    refine exists_congr fun spelling => ?_
    rw [exists_and_right, exists_and_right, exists_spelledBy?_trim_iff]
  · rintro shown (hShown | hShown) hKeyword
    · exact isBoundary_iff_of_ofLine? hShown hKeyword
    · rw [← isBoundary_trim]
      exact isBoundary_iff_of_ofLine? hShown hKeyword
  · exact ⟨afterHeader?_of_spelledBy? hSpelled, isBoundary_iff_isPlain hSpelled⟩

/-- A header that begins with a long s is shown as a scenario header and gives its title, and stays in the
block of the lines above. -/
theorem long_s_opens_no_block :
    (TokenLine.ofLine "\u017Fcenario: B").tokens.head? = some ⟨.keyword, "Scenario:"⟩ ∧
      titleOf "\u017Fcenario: B" = "B" ∧ isBoundary "\u017Fcenario: B" = false ∧
      (ofText "Scenario: A\nGiven x\n\u017Fcenario: B\nGiven y").map title = [("A" : Text)] := by
  decide +kernel

end Block

end ScenarioDesk
