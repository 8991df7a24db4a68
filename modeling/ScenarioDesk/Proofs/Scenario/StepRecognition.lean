import ScenarioDesk.Proofs.Gherkin.Tokens
import ScenarioDesk.Proofs.Scenario.Vocabulary
import ScenarioDesk.Proofs.Text.LowerCase

/-! The three recognisers of steps: the colours of a line, the suggestions for the line of the cursor, and the
vocabulary. They know different keywords and accept different rests, and yet they take the same lines for
steps and find the same words in them. The colours show a keyword in display form only, but its first letter
still tells a step from a header. -/
namespace ScenarioDesk

namespace Text

/-- The upper case of a letter of ASCII does not depend on the case it is given in. -/
theorem toUpper_toLower {c : Char} (h : c.toNat < 0x80) :
    c.toLower.toNat < 0x80 ∧ c.toLower.toUpper = c.toUpper := by
  have hAll : ∀ number : Fin 0x80, (Char.ofNat number).toLower.toNat < 0x80 ∧
      (Char.ofNat number).toLower.toUpper = (Char.ofNat number).toUpper := by decide +kernel
  simpa using hAll ⟨c.toNat, h⟩

end Text

namespace Keyword

/-- A capital letter of ASCII, not the letter i, which is spelled by two letters that have another one as
upper case. -/
structure IsCapital (letter : Char) : Prop where
  ascii : letter.toNat < 0x80
  upper : letter.toUpper = letter
  ne_i : letter.toLower ≠ 'i'

/-- Whatever spells a capital letter is shown as that letter at the beginning of a keyword. -/
theorem IsCapital.upperChar_of_spells {letter : Char} (h : IsCapital letter) {found : CodePoint}
    (hSpells : spells letter found = true) : Text.upperChar found = [.char letter] := by
  obtain ⟨hAscii, hUpper⟩ := Text.toUpper_toLower h.ascii
  rw [h.upper] at hUpper
  cases found with
  | half index => simp [spells] at hSpells
  | char c =>
      simp only [spells, Bool.or_eq_true, Bool.and_eq_true, decide_eq_true_eq] at hSpells
      rcases hSpells with ((rfl | hSame) | ⟨hI, _⟩) | ⟨hS, rfl⟩
      · rw [Text.upperChar, if_pos h.ascii, h.upper]
      · have hLow : c.toNat < 0x80 := by
          by_contra hBeyond
          rw [Text.toLower_of_beyond_ascii (Nat.not_lt.mp hBeyond)] at hSame
          exact hBeyond (hSame ▸ hAscii)
        rw [Text.upperChar, if_pos hLow, ← (Text.toUpper_toLower hLow).2, hSame, hUpper]
      · exact absurd hI h.ne_i
      · rw [← hUpper, hS]
        decide +kernel

theorem exists_canonical_eq_capital_cons (keyword : Keyword) :
    ∃ letter word, keyword.canonical = .char letter :: word ∧ IsCapital letter := by
  cases keyword <;> exact ⟨_, _, rfl, by decide, by decide, by decide⟩

/-- A keyword is shown with the first letter of its canonical spelling, however it is spelled. -/
theorem head_display {keyword : Keyword} {spelling : Text} (h : Spells keyword.canonical spelling) :
    (display spelling).head? = keyword.canonical.head? := by
  obtain ⟨letter, word, hCanonical, hCapital⟩ := keyword.exists_canonical_eq_capital_cons
  rw [hCanonical] at h ⊢
  cases h with
  | cons hFound _ => simp [display, Text.upper, hCapital.upperChar_of_spells hFound]

theorem head_canonical_injective {first second : Keyword}
    (h : first.canonical.head? = second.canonical.head?) : first = second := by
  cases first <;> cases second <;> first | rfl | exact absurd h (by decide)

/-- No two keywords are shown alike. -/
theorem eq_of_display_eq {first second : Keyword} {spelling other : Text}
    (hFirst : Spells first.canonical spelling) (hSecond : Spells second.canonical other)
    (h : display spelling = display other) : first = second := by
  apply head_canonical_injective
  rw [← head_display hFirst, ← head_display hSecond, h]

end Keyword

namespace KeywordLine

/-- What is cut behind the keyword of a step is cut there whatever other keywords there are. -/
theorem cut?_all_of_steps {line : Text} {cut : KeywordLine} (h : cut? Keyword.steps line = some cut) :
    cut? Keyword.all line = some cut := by
  obtain ⟨hMem, hCut⟩ := cut?_eq_some_iff.mp h
  refine cut?_eq_some_iff.mpr ⟨?_, hCut⟩
  have hSteps : ∀ keyword ∈ Keyword.steps, keyword ∈ Keyword.all := by decide
  exact hSteps _ hMem

theorem cut?_steps_of_all {line : Text} {cut : KeywordLine} (h : cut? Keyword.all line = some cut)
    (hMem : cut.keyword ∈ Keyword.steps) : cut? Keyword.steps line = some cut := by
  obtain ⟨_, hCut⟩ := cut?_eq_some_iff.mp h
  exact cut?_eq_some_iff.mpr ⟨hMem, hCut⟩

end KeywordLine

/-- The token shows a keyword of a step, in the display form of one of its spellings. -/
def Token.ShowsStep (token : Token) : Prop :=
  token.kind = .keyword ∧ ∃ keyword ∈ Keyword.steps, ∃ spelling,
    Keyword.Spells keyword.canonical spelling ∧ token.text = Keyword.display spelling

/-- The display form of a header shows no step. -/
theorem Token.ShowsStep.mem_steps {keyword : Keyword} {spelling : Text}
    (hSpells : Keyword.Spells keyword.canonical spelling)
    (h : ShowsStep ⟨.keyword, Keyword.display spelling⟩) : keyword ∈ Keyword.steps := by
  obtain ⟨_, step, hMem, other, hOther, hText⟩ := h
  rwa [Keyword.eq_of_display_eq hSpells hOther hText]

namespace TokenLine

/-- The line begins with a keyword of a step. -/
def OpensStep (line : TokenLine) : Prop := ∃ token ∈ line.tokens.head?, token.ShowsStep

/-- What is shown behind the keyword and the blanks that follow it. -/
def words (line : TokenLine) : Text := (line.tokens.drop 2).flatMap Token.text

variable {line : Text}

theorem ofLine_of_cut? (h : .char '\n' ∉ line) {cut : KeywordLine}
    (hCut : KeywordLine.cut? Keyword.all line = some cut) : ofLine line =
      ⟨⟨.keyword, Keyword.display cut.spelling⟩ :: ⟨.plain, cut.gap⟩ :: Token.ofRest cut.rest⟩ := by
  rw [ofLine, KeywordLine.ofLine?_eq_cut? h, hCut]

theorem words_ofLine (h : .char '\n' ∉ line) {cut : KeywordLine}
    (hCut : KeywordLine.cut? Keyword.all line = some cut) : (ofLine line).words = cut.rest := by
  rw [ofLine_of_cut? h hCut]
  exact (Token.Divides.ofRest cut.rest).complete

/-- A line is shown with the keyword of a step in front exactly if it is cut behind one. -/
theorem opensStep_iff (h : .char '\n' ∉ line) :
    (ofLine line).OpensStep ↔ ∃ cut, KeywordLine.cut? Keyword.steps line = some cut := by
  constructor
  · rintro ⟨token, hHead, hShows⟩
    cases hCut : KeywordLine.cut? Keyword.all line with
    | none =>
        rw [ofLine, KeywordLine.ofLine?_eq_cut? h, hCut] at hHead
        cases hHead
        cases hShows.1
    | some cut =>
        rw [ofLine_of_cut? h hCut] at hHead
        cases hHead
        obtain ⟨_, hSpells, _⟩ := KeywordLine.cut?_eq_some_iff.mp hCut
        exact ⟨cut, KeywordLine.cut?_steps_of_all hCut (hShows.mem_steps hSpells)⟩
  · rintro ⟨cut, hCut⟩
    obtain ⟨hMem, hSpells, _⟩ := KeywordLine.cut?_eq_some_iff.mp hCut
    rw [ofLine_of_cut? h (KeywordLine.cut?_all_of_steps hCut)]
    exact ⟨_, rfl, rfl, cut.keyword, hMem, cut.spelling, hSpells, rfl⟩

end TokenLine

section Recognisers

variable {line : Text}

/-- The step before a cursor at the end of a line. -/
theorem Snapshot.step_at_end (h : .char '\n' ∉ line) : (context ⟨line, line.length⟩).step =
    (KeywordLine.cut? Keyword.steps line).map fun cut => ⟨cut.spelling, cut.rest⟩ := by
  have hStep := step_context_append (.inl rfl) h []
  rwa [List.nil_append, List.append_nil] at hStep

/-- On every line the recognisers of steps agree. A cursor at the end of the line stands in a step exactly if
the line is shown with the keyword of a step in front; it is that keyword which is shown, and the words typed
so far are what the tokens behind the keyword and its blanks show. The line has the words of a step exactly
if it is shown, trimmed, with the keyword of a step in front and these words, at least one character, behind
it. -/
theorem step_recognisers_agree (h : .char '\n' ∉ line) :
    ((∃ start, (Snapshot.context ⟨line, line.length⟩).step = some start) ↔
      (TokenLine.ofLine line).OpensStep) ∧
    (∀ start, (Snapshot.context ⟨line, line.length⟩).step = some start →
      (TokenLine.ofLine line).tokens.head? = some ⟨.keyword, Keyword.display start.keyword⟩ ∧
        (TokenLine.ofLine line).words = start.words) ∧
    ∀ words, stepText? line = some words ↔
      (TokenLine.ofLine (Text.trim line)).OpensStep ∧
        (TokenLine.ofLine (Text.trim line)).words = words ∧ words ≠ [] := by
  have hTrim : .char '\n' ∉ Text.trim line := fun hMem => h (Text.mem_of_mem_trim hMem)
  rw [Snapshot.step_at_end h]
  refine ⟨?_, fun start hStart => ?_, fun words => ?_⟩
  · rw [TokenLine.opensStep_iff h]
    cases KeywordLine.cut? Keyword.steps line with
    | none => simp
    | some cut => simp
  · obtain ⟨cut, hCut, rfl⟩ := Option.map_eq_some_iff.mp hStart
    have hAll := KeywordLine.cut?_all_of_steps hCut
    refine ⟨?_, TokenLine.words_ofLine h hAll⟩
    rw [TokenLine.ofLine_of_cut? h hAll]
    rfl
  · rw [stepText?_eq_some_iff_isStep h, isStep_iff, TokenLine.opensStep_iff hTrim]
    constructor
    · rintro ⟨cut, hCut, hRest, hWords⟩
      rw [TokenLine.words_ofLine hTrim (KeywordLine.cut?_all_of_steps hCut)]
      exact ⟨⟨cut, hCut⟩, hRest, hWords⟩
    · rintro ⟨⟨cut, hCut⟩, hRest, hWords⟩
      rw [TokenLine.words_ofLine hTrim (KeywordLine.cut?_all_of_steps hCut)] at hRest
      exact ⟨cut, hCut, hRest, hWords⟩

end Recognisers

/-- A step that is spelled with a dotless i, with a parameter and blanks at both ends of its words. -/
def dotlessStep : Text := "gıVEN\t \"a b\" c\u2003"

theorem dotless_step_is_recognised :
    .char '\n' ∉ dotlessStep ∧ (TokenLine.ofLine dotlessStep).OpensStep ∧
      (TokenLine.ofLine dotlessStep).tokens.head? = some ⟨.keyword, "Gıven"⟩ ∧
      (TokenLine.ofLine dotlessStep).words = "\"a b\" c\u2003" ∧
      (TokenLine.ofLine (Text.trim dotlessStep)).words = "\"a b\" c" := by
  have hLine : .char '\n' ∉ dotlessStep := by decide +kernel
  have hStart : (Snapshot.context ⟨dotlessStep, dotlessStep.length⟩).step =
      some ⟨"gıVEN", "\"a b\" c\u2003"⟩ := by decide +kernel
  have hText : stepText? dotlessStep = some "\"a b\" c" := by decide +kernel
  obtain ⟨hOpens, hShown, hTrimmed⟩ := step_recognisers_agree hLine
  obtain ⟨hHead, hWords⟩ := hShown _ hStart
  have hKeyword : Keyword.display "gıVEN" = "Gıven" := by decide +kernel
  rw [hKeyword] at hHead
  exact ⟨hLine, hOpens.mp ⟨_, hStart⟩, hHead, hWords, ((hTrimmed _).mp hText).2.1⟩

end ScenarioDesk
