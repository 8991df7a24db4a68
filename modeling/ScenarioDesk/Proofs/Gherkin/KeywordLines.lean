import Mathlib.Data.List.Forall2
import ScenarioDesk.Gherkin.KeywordLine
import ScenarioDesk.Proofs.Text.Lines

/-! Which lines a keyword opens. A line is cut in one way only, since no two keywords begin with the same
letter and the gap takes all blanks behind the keyword. So a line that keeps its keyword and has other
words behind it is cut in front of these. -/
namespace ScenarioDesk

namespace Keyword

/-- The spelling stands for the word, letter by letter. -/
abbrev Spells (word spelling : Text) : Prop :=
  List.Forall₂ (fun expected found => spells expected found) word spelling

theorem spelledBy?_eq_some_iff {word text spelling after : Text} :
    spelledBy? word text = some (spelling, after) ↔
      Spells word spelling ∧ text = spelling ++ after := by
  induction word generalizing text spelling with
  | nil =>
      simp only [spelledBy?, Option.some.injEq, Prod.mk.injEq, Spells, List.forall₂_nil_left_iff]
      constructor
      · rintro ⟨rfl, rfl⟩
        exact ⟨rfl, rfl⟩
      · rintro ⟨rfl, rfl⟩
        exact ⟨rfl, rfl⟩
  | cons expected word ih =>
      constructor
      · intro h
        cases text with
        | nil => cases h
        | cons found rest =>
            rw [spelledBy?] at h
            split at h
            · next hFound =>
                obtain ⟨_, hOthers, hEq⟩ := Option.map_eq_some_iff.mp h
                cases hEq
                obtain ⟨hSpells, rfl⟩ := ih.mp hOthers
                exact ⟨.cons hFound hSpells, rfl⟩
            · cases h
      · rintro ⟨hSpells, rfl⟩
        cases hSpells with
        | cons hFound hSpells =>
            rw [List.cons_append, spelledBy?, if_pos hFound, ih.mpr ⟨hSpells, rfl⟩, Option.map_some]

/-- The letter that a character stands for at the beginning of a keyword. -/
def letterOf (c : Char) : Char := if c.toLower = '\u017F' then 's' else c.toLower

/-- The letter that a keyword begins with. -/
def initial (keyword : Keyword) : Option Char :=
  match keyword.canonical with
  | .char c :: _ => some (letterOf c)
  | _ => none

theorem initial_injective {first second : Keyword} (h : first.initial = second.initial) :
    first = second := by
  cases first <;> cases second <;> first | rfl | exact absurd h (by decide)

theorem exists_canonical_eq_cons (keyword : Keyword) :
    ∃ first word, keyword.canonical = .char first :: word ∧ first.toLower ≠ 'i' := by
  cases keyword <;> exact ⟨_, _, rfl, by decide⟩

theorem letterOf_eq_of_spells {expected : Char} {found : CodePoint} (hLetter : expected.toLower ≠ 'i')
    (h : spells expected found) : ∃ c, found = .char c ∧ letterOf c = letterOf expected := by
  cases found with
  | half index => simp [spells] at h
  | char c =>
      refine ⟨c, rfl, ?_⟩
      simp only [spells, Bool.or_eq_true, Bool.and_eq_true, decide_eq_true_eq] at h
      rcases h with ((h | h) | ⟨hI, _⟩) | ⟨hS, rfl⟩
      · rw [h]
      · rw [letterOf, letterOf, h]
      · exact absurd hI hLetter
      · rw [letterOf, letterOf, hS]
        decide

/-- A spelling of a keyword begins with a character that tells which keyword it is. -/
theorem exists_of_spells {keyword : Keyword} {spelling : Text} (h : Spells keyword.canonical spelling) :
    ∃ c rest, spelling = .char c :: rest ∧ keyword.initial = some (letterOf c) := by
  obtain ⟨first, word, hCanonical, hLetter⟩ := keyword.exists_canonical_eq_cons
  rw [hCanonical] at h
  cases h with
  | cons hFound _ =>
      obtain ⟨c, rfl, hSame⟩ := letterOf_eq_of_spells hLetter hFound
      refine ⟨c, _, rfl, ?_⟩
      rw [initial, hCanonical, hSame]

theorem ne_nil_of_spells {keyword : Keyword} {spelling : Text} (h : Spells keyword.canonical spelling) :
    spelling ≠ [] := by
  obtain ⟨c, rest, hSpelling, _⟩ := exists_of_spells h
  rw [hSpelling]
  exact List.cons_ne_nil _ _

/-- A text begins with one keyword at most. -/
theorem eq_of_spells {first second : Keyword} {text spelling after other behind : Text}
    (hFirst : Spells first.canonical spelling) (hSecond : Spells second.canonical other)
    (hText : text = spelling ++ after) (hOther : text = other ++ behind) : first = second := by
  obtain ⟨c, rest, rfl, hInitial⟩ := exists_of_spells hFirst
  obtain ⟨d, others, rfl, hLetter⟩ := exists_of_spells hSecond
  have hHead := congrArg List.head? (hText.symm.trans hOther)
  cases hHead
  exact initial_injective (hInitial.trans hLetter.symm)

theorem spelledBy?_of_atStart? {keywords : List Keyword} {text : Text} {found : Found}
    (h : atStart? keywords text = some found) : found.keyword ∈ keywords ∧
      spelledBy? found.keyword.canonical text = some (found.spelling, found.after) := by
  obtain ⟨keyword, hMem, hFound⟩ := List.exists_of_findSome?_eq_some h
  obtain ⟨_, hSpelled, rfl⟩ := Option.map_eq_some_iff.mp hFound
  exact ⟨hMem, hSpelled⟩

/-- The keyword that is found is the only one there can be, whatever the order of the search. -/
theorem atStart?_eq_some_iff {keywords : List Keyword} {text : Text} {found : Found} :
    atStart? keywords text = some found ↔
      found.keyword ∈ keywords ∧ Spells found.keyword.canonical found.spelling ∧
        text = found.spelling ++ found.after := by
  rw [← spelledBy?_eq_some_iff]
  refine ⟨spelledBy?_of_atStart?, fun ⟨hMem, hSpelled⟩ => ?_⟩
  cases hStart : atStart? keywords text with
  | none =>
      have hNone := List.findSome?_eq_none_iff.mp hStart found.keyword hMem
      rw [hSpelled] at hNone
      cases hNone
  | some other =>
      obtain ⟨_, hOther⟩ := spelledBy?_of_atStart? hStart
      obtain ⟨hSpells, hText⟩ := spelledBy?_eq_some_iff.mp hSpelled
      obtain ⟨hSpells', hText'⟩ := spelledBy?_eq_some_iff.mp hOther
      have hSame := eq_of_spells hSpells' hSpells hText' hText
      rw [hSame, hSpelled] at hOther
      cases found
      cases other
      simp_all

end Keyword

namespace KeywordLine

/-- How a line is cut. -/
theorem cut?_eq_some_iff {keywords : List Keyword} {text : Text} {line : KeywordLine} :
    cut? keywords text = some line ↔
      line.keyword ∈ keywords ∧ Keyword.Spells line.keyword.canonical line.spelling ∧
        line.gap ≠ [] ∧ Text.isAllBlank line.gap = true ∧
        (∀ c ∈ line.rest.head?, Text.isBlank c = false) ∧ text = line.source := by
  constructor
  · intro h
    unfold cut? at h
    split at h
    · cases h
    · next found hFound =>
        obtain ⟨hMem, hSpells, hText⟩ := Keyword.atStart?_eq_some_iff.mp hFound
        dsimp only at h
        split at h
        · cases h
        · next hGap =>
            cases h
            refine ⟨hMem, hSpells, hGap, List.all_takeWhile, fun c hHead => ?_, ?_⟩
            · have hNot := List.head?_dropWhile_not Text.isBlank found.after
              rw [hHead] at hNot
              simpa using hNot
            · rw [source, List.append_assoc, List.takeWhile_append_dropWhile, hText]
  · rintro ⟨hMem, hSpells, hGap, hBlank, hRest, hText⟩
    have hStart : Keyword.atStart? keywords text =
        some ⟨line.keyword, line.spelling, line.gap ++ line.rest⟩ :=
      Keyword.atStart?_eq_some_iff.mpr ⟨hMem, hSpells, by rw [hText, source, List.append_assoc]⟩
    have hTake : line.rest.takeWhile Text.isBlank = [] := by
      cases hLine : line.rest with
      | nil => rfl
      | cons c rest => simp [hRest c (by simp [hLine])]
    have hDrop : line.rest.dropWhile Text.isBlank = line.rest := Text.trimStart_eq_self_iff.mpr hRest
    have hAll := List.all_eq_true.mp hBlank
    rw [cut?, hStart]
    dsimp only
    rw [List.takeWhile_append_of_pos hAll, hTake, List.append_nil, if_neg hGap,
      List.dropWhile_append_of_pos hAll, hDrop]

/-- A line that keeps its keyword is cut where its other words begin. -/
theorem cut?_of_cut? {keywords : List Keyword} {text : Text} {line : KeywordLine}
    (h : cut? keywords text = some line) {gap words : Text} (hGap : gap ≠ [])
    (hBlank : Text.isAllBlank gap = true) (hWords : ∀ c ∈ words.head?, Text.isBlank c = false) :
    cut? keywords (line.spelling ++ gap ++ words) =
      some ⟨line.keyword, line.spelling, gap, words⟩ := by
  obtain ⟨hMem, hSpells, _⟩ := cut?_eq_some_iff.mp h
  exact cut?_eq_some_iff.mpr ⟨hMem, hSpells, hGap, hBlank, hWords, rfl⟩

theorem spelling_ne_nil_of_cut? {keywords : List Keyword} {text : Text} {line : KeywordLine}
    (h : cut? keywords text = some line) : line.spelling ≠ [] := by
  obtain ⟨_, hSpells, _⟩ := cut?_eq_some_iff.mp h
  exact Keyword.ne_nil_of_spells hSpells

/-- The line begins with one of the keywords, in any spelling, and a blank. -/
def Begins (keywords : List Keyword) (line : Text) : Prop :=
  ∃ keyword ∈ keywords, ∃ spelling c after, Keyword.Spells keyword.canonical spelling ∧
    Text.isBlank c = true ∧ line = spelling ++ c :: after

theorem begins_append {keywords : List Keyword} {keyword : Keyword} (hMem : keyword ∈ keywords)
    {spelling gap : Text} (hSpells : Keyword.Spells keyword.canonical spelling) (hGap : gap ≠ [])
    (hBlank : Text.isAllBlank gap = true) (rest : Text) : Begins keywords (spelling ++ gap ++ rest) := by
  obtain ⟨c, more, rfl⟩ := List.exists_cons_of_ne_nil hGap
  refine ⟨keyword, hMem, spelling, c, more ++ rest, hSpells, (Bool.and_eq_true_iff.mp hBlank).1, ?_⟩
  rw [List.append_assoc, List.cons_append]

/-- Such lines are the ones that are cut. -/
theorem exists_cut?_iff {keywords : List Keyword} {line : Text} :
    (∃ cut, cut? keywords line = some cut) ↔ Begins keywords line := by
  constructor
  · rintro ⟨cut, hCut⟩
    obtain ⟨hMem, hSpells, hGap, hBlank, _, hLine⟩ := cut?_eq_some_iff.mp hCut
    rw [hLine]
    exact begins_append hMem hSpells hGap hBlank cut.rest
  · rintro ⟨keyword, hMem, spelling, c, after, hSpells, hBlank, rfl⟩
    have hStart : Keyword.atStart? keywords (spelling ++ c :: after) = some ⟨keyword, spelling, c :: after⟩ :=
      Keyword.atStart?_eq_some_iff.mpr ⟨hMem, hSpells, rfl⟩
    rw [cut?, hStart]
    dsimp only
    rw [List.takeWhile_cons_of_pos hBlank, if_neg (List.cons_ne_nil _ _)]
    exact ⟨_, rfl⟩

end KeywordLine

/-- The line, trimmed, is a step: a keyword in any spelling, all blanks behind it, of which there is one at
least, and the words. -/
def IsStep (line words : Text) : Prop :=
  ∃ keyword ∈ Keyword.steps, ∃ spelling gap, Keyword.Spells keyword.canonical spelling ∧ gap ≠ [] ∧
    Text.isAllBlank gap = true ∧ words ≠ [] ∧ (∀ c ∈ words.head?, Text.isBlank c = false) ∧
    Text.trim line = spelling ++ gap ++ words

/-- The words of a step are what is cut off behind the keyword of the trimmed line. -/
theorem isStep_iff {line words : Text} : IsStep line words ↔
    ∃ cut, KeywordLine.cut? Keyword.steps (Text.trim line) = some cut ∧ cut.rest = words ∧ words ≠ [] := by
  constructor
  · rintro ⟨keyword, hMem, spelling, gap, hSpells, hGap, hBlank, hWords, hHead, hLine⟩
    exact ⟨⟨keyword, spelling, gap, words⟩,
      KeywordLine.cut?_eq_some_iff.mpr ⟨hMem, hSpells, hGap, hBlank, hHead, hLine⟩, rfl, hWords⟩
  · rintro ⟨cut, hCut, rfl, hWords⟩
    obtain ⟨hMem, hSpells, hGap, hBlank, hHead, hLine⟩ := KeywordLine.cut?_eq_some_iff.mp hCut
    exact ⟨_, hMem, _, _, hSpells, hGap, hBlank, hWords, hHead, hLine⟩

theorem stepText?_eq_some_iff {line words : Text} :
    stepText? line = some words ↔ IsStep line words ∧ .char '\n' ∉ words := by
  rw [isStep_iff, stepText?]
  cases KeywordLine.cut? Keyword.steps (Text.trim line) with
  | none => simp
  | some cut =>
      simp only [Option.ite_none_left_eq_some, not_or, List.contains_iff_mem, Option.some.injEq,
        exists_eq_left']
      constructor
      · rintro ⟨⟨hWords, hBreak⟩, rfl⟩
        exact ⟨⟨rfl, hWords⟩, hBreak⟩
      · rintro ⟨⟨rfl, hWords⟩, hBreak⟩
        exact ⟨⟨hWords, hBreak⟩, rfl⟩

/-- The words of a step lie on one line and begin with a character that is not blank. -/
theorem plain_of_stepText? {line step : Text} (h : stepText? line = some step) :
    .char '\n' ∉ step ∧ ∀ c ∈ step.head?, Text.isBlank c = false := by
  obtain ⟨⟨_, _, _, _, _, _, _, _, hHead, _⟩, hBreak⟩ := stepText?_eq_some_iff.mp h
  exact ⟨hBreak, hHead⟩

end ScenarioDesk
