import Mathlib.Data.List.Induction
import Mathlib.Data.List.Nodup
import ScenarioDesk.Proofs.Gherkin.TrimmedTitles
import ScenarioDesk.Proofs.Scenario.Completion

/-! What a vocabulary holds and how it grows. It is gathered in one pass over the lines of all scenarios,
which puts a step behind the others unless it has met it before, so scenarios that are added at the end add
their steps at the end. The words of a step are found again behind every keyword, which is why a completed
step brings no new words with it. -/
namespace ScenarioDesk

section FirstUses

variable {α : Type} [BEq α] [LawfulBEq α] {items : List α} {item : α}

theorem eraseDups_concat_of_mem (h : item ∈ items) : (items ++ [item]).eraseDups = items.eraseDups := by
  rw [List.eraseDups_append, List.removeAll, List.filter_cons_of_neg (by simp [h])]
  exact List.append_nil _

theorem eraseDups_concat_of_not_mem (h : item ∉ items) :
    (items ++ [item]).eraseDups = items.eraseDups ++ [item] := by
  rw [List.eraseDups_append, List.removeAll, List.filter_cons_of_pos (by simp [h])]
  rfl

theorem nodup_eraseDups (items : List α) : items.eraseDups.Nodup := by
  induction items using List.reverseRecOn with
  | nil => exact .nil
  | append_singleton items item ih =>
      by_cases hMem : item ∈ items
      · rwa [eraseDups_concat_of_mem hMem]
      · rw [eraseDups_concat_of_not_mem hMem, ← List.concat_eq_append, List.nodup_concat]
        exact ⟨fun h => hMem (List.mem_eraseDups.mp h), ih⟩

/-- It does not matter whether items are left out before or after their repetitions are. -/
theorem eraseDups_filter (keep : α → Bool) (items : List α) :
    (items.filter keep).eraseDups = items.eraseDups.filter keep := by
  induction items using List.reverseRecOn with
  | nil => rfl
  | append_singleton items item ih =>
      by_cases hKeep : keep item = true
      · rw [List.filter_append, List.filter_cons_of_pos hKeep, List.filter_nil]
        by_cases hMem : item ∈ items
        · rw [eraseDups_concat_of_mem hMem, eraseDups_concat_of_mem (List.mem_filter.mpr ⟨hMem, hKeep⟩), ih]
        · rw [eraseDups_concat_of_not_mem hMem,
            eraseDups_concat_of_not_mem fun h => hMem (List.mem_of_mem_filter h), ih, List.filter_append,
            List.filter_cons_of_pos hKeep, List.filter_nil]
      · rw [List.filter_append, List.filter_cons_of_neg hKeep, List.filter_nil, List.append_nil, ih]
        by_cases hMem : item ∈ items
        · rw [eraseDups_concat_of_mem hMem]
        · rw [eraseDups_concat_of_not_mem hMem, List.filter_append, List.filter_cons_of_neg hKeep,
            List.filter_nil, List.append_nil]

end FirstUses

/-- What the words of a step look like. -/
structure IsPlain (words : Text) : Prop where
  nonempty : words ≠ []
  oneLine : .char '\r' ∉ words ∧ .char '\n' ∉ words
  trimmed : Text.trim words = words

namespace IsStep

variable {line words : Text}

theorem mem_line (h : IsStep line words) {c : CodePoint} (hMem : c ∈ words) : c ∈ line := by
  obtain ⟨_, _, spelling, gap, _, _, _, _, _, hLine⟩ := h
  refine Text.mem_of_mem_trim ?_
  rw [hLine]
  exact List.mem_append_right _ hMem

/-- The words end where the trimmed line does. -/
theorem trim_eq (h : IsStep line words) : Text.trim words = words := by
  obtain ⟨_, _, spelling, gap, _, _, _, hWords, hHead, hLine⟩ := h
  have hTrimmed := Text.trim_trim line
  rw [hLine, Text.trim_eq_self_iff, List.getLast?_append,
    Option.or_of_isSome (List.getLast?_isSome.mpr hWords)] at hTrimmed
  exact Text.trim_eq_self_iff.mpr ⟨hHead, hTrimmed.2⟩

theorem isPlain (h : IsStep line words) (hReturn : .char '\r' ∉ line) (hFeed : .char '\n' ∉ line) :
    IsPlain words := by
  refine ⟨?_, ⟨fun hMem => hReturn (h.mem_line hMem), fun hMem => hFeed (h.mem_line hMem)⟩, h.trim_eq⟩
  obtain ⟨_, _, _, _, _, _, _, hWords, _⟩ := h
  exact hWords

end IsStep

/-- On a single line the recogniser finds the words of the step. -/
theorem stepText?_eq_some_iff_isStep {line words : Text} (h : .char '\n' ∉ line) :
    stepText? line = some words ↔ IsStep line words :=
  stepText?_eq_some_iff.trans (and_iff_left_of_imp fun hStep hMem => h (hStep.mem_line hMem))

namespace Keyword

theorem isInked_canonical (keyword : Keyword) : IsInked keyword.canonical := by
  cases keyword <;> exact isInked_of_letters (by decide)

/-- A spelling leaves a mark at every character. -/
theorem IsInked.isBlank_eq_false {word spelling : Text} (hWord : IsInked word) (h : Spells word spelling) :
    ∀ c ∈ spelling, Text.isBlank c = false := by
  induction h with
  | nil => exact fun c hMem => absurd hMem List.not_mem_nil
  | cons hFound _ ih =>
      obtain ⟨hHead, hRest⟩ := List.forall_mem_cons.mp hWord
      exact List.forall_mem_cons.mpr ⟨hHead _ hFound, ih hRest⟩

variable {keyword : Keyword} {spelling : Text}

theorem isBlank_of_mem_spelling (h : Spells keyword.canonical spelling) :
    ∀ c ∈ spelling, Text.isBlank c = false := keyword.isInked_canonical.isBlank_eq_false h

theorem trim_spelling (h : Spells keyword.canonical spelling) : Text.trim spelling = spelling :=
  Text.trim_eq_self_iff.mpr ⟨fun c hHead => isBlank_of_mem_spelling h c (List.mem_of_mem_head? hHead),
    fun c hLast => isBlank_of_mem_spelling h c (List.mem_of_mem_getLast? hLast)⟩

/-- Behind a keyword and a space, words bring all blanks with them but that space. -/
theorem not_mem_of_spells (h : Spells keyword.canonical spelling) {words : Text} {c : CodePoint}
    (hBlank : Text.isBlank c = true) (hSpace : c ≠ ' ') (hWords : c ∉ words) :
    c ∉ spelling ++ " " ++ words := by
  intro hMem
  rw [List.mem_append, List.mem_append] at hMem
  rcases hMem with (hMem | hMem) | hMem
  · rw [isBlank_of_mem_spelling h c hMem] at hBlank
    cases hBlank
  · exact hSpace (List.mem_singleton.mp hMem)
  · exact hWords hMem

end Keyword

/-- Plain words are the words of the step that they make up with any keyword of a step. -/
theorem stepText?_of_isPlain {keyword : Keyword} (hMem : keyword ∈ Keyword.steps) {spelling words : Text}
    (hSpells : Keyword.Spells keyword.canonical spelling) (hWords : IsPlain words) :
    stepText? (spelling ++ " " ++ words) = some words := by
  have hFront := Keyword.ne_nil_of_spells hSpells
  have hLine : Text.trim (spelling ++ " " ++ words) = spelling ++ " " ++ words :=
    Text.trim_append_between (Keyword.trim_spelling hSpells) hWords.trimmed hFront hWords.nonempty _
  exact stepText?_eq_some_iff.mpr ⟨⟨keyword, hMem, spelling, " ", hSpells, by decide, by decide,
    hWords.nonempty, (Text.trim_eq_self_iff.mp hWords.trimmed).1, hLine⟩, hWords.oneLine.2⟩

/-- The steps of a text, in order, which are those of a scenario with this content. -/
def stepsIn (text : Text) : List Text := (Text.normalizedLines text).filterMap stepText?

theorem mem_stepsIn_iff {text words : Text} :
    words ∈ stepsIn text ↔ ∃ line ∈ Text.normalizedLines text, IsStep line words := by
  rw [stepsIn, List.mem_filterMap]
  exact exists_congr fun line => and_congr_right fun hLine =>
    stepText?_eq_some_iff_isStep (Text.newline_not_mem_of_mem_lines hLine)

theorem isPlain_of_mem_stepsIn {text words : Text} (h : words ∈ stepsIn text) : IsPlain words := by
  obtain ⟨line, hLine, hStep⟩ := mem_stepsIn_iff.mp h
  refine hStep.isPlain (fun hMem => Text.return_not_mem_normalizeNewlines text ?_)
    (Text.newline_not_mem_of_mem_lines hLine)
  rw [← Text.unlines_lines (Text.normalizeNewlines text), Text.mem_unlines_iff (by decide)]
  exact ⟨line, hLine, hMem⟩

theorem stepsIn_of_normalizeNewlines {text first second : Text} (h : Text.normalizeNewlines text =
    Text.normalizeNewlines first ++ .char '\n' :: Text.normalizeNewlines second) :
    stepsIn text = stepsIn first ++ stepsIn second := by
  rw [stepsIn, Text.normalizedLines, h, Text.lines_append_newline, List.filterMap_append]
  rfl

/-- A line feed parts the steps of a text, even if it belongs to a carriage return in front of it. -/
theorem stepsIn_append_newline (first second : Text) :
    stepsIn (first ++ .char '\n' :: second) = stepsIn first ++ stepsIn second := by
  by_cases hLast : first.getLast? = some (.char '\r')
  · obtain ⟨front, rfl⟩ := List.getLast?_eq_some_iff.mp hLast
    -- The carriage return alone ends a line too, and the empty text behind it has no step.
    have hFirst : stepsIn (front ++ [.char '\r']) = stepsIn front ++ stepsIn [] :=
      stepsIn_of_normalizeNewlines (Text.normalizeNewlines_append fun hPair => by cases hPair.2)
    have hBoth : stepsIn (front ++ .char '\r' :: .char '\n' :: second) = stepsIn front ++ stepsIn second :=
      stepsIn_of_normalizeNewlines (Text.normalizeNewlines_append fun hPair => by cases hPair.2)
    rw [List.append_assoc, List.singleton_append, hBoth, hFirst, List.append_assoc]
    rfl
  · exact stepsIn_of_normalizeNewlines (Text.normalizeNewlines_append fun hPair => hLast hPair.1)

theorem stepsIn_unlines (pieces : List Text) : stepsIn (Text.unlines pieces) = pieces.flatMap stepsIn := by
  induction pieces with
  | nil => rfl
  | cons piece others ih =>
      cases others with
      | nil => rw [Text.unlines_singleton, List.flatMap_singleton]
      | cons next others =>
          rw [Text.unlines_cons_cons, stepsIn_append_newline, ih, ← List.flatMap_cons]

namespace Collection

variable {scenarios : Collection}

theorem isPlain_of_mem_vocabulary {words : Text} (h : words ∈ scenarios.vocabulary) : IsPlain words := by
  obtain ⟨scenario, _, hMem⟩ := mem_vocabulary.mp h
  exact isPlain_of_mem_stepsIn hMem

/-- More scenarios at the end give more steps at the end. -/
theorem vocabulary_append (scenarios others : Collection) :
    (scenarios ++ others).vocabulary =
      scenarios.vocabulary ++ others.vocabulary.filter (· ∉ scenarios.vocabulary) := by
  rw [vocabulary, List.flatMap_append, List.eraseDups_append, List.removeAll, eraseDups_filter]
  refine congrArg (scenarios.vocabulary ++ ·) (List.filter_congr fun words _ => ?_)
  simp only [vocabulary, List.mem_eraseDups, decide_not, List.elem_eq_mem]

theorem mem_vocabulary_iff {words : Text} : words ∈ scenarios.vocabulary ↔
    ∃ scenario ∈ scenarios, ∃ line ∈ Text.normalizedLines scenario.content, IsStep line words :=
  mem_vocabulary.trans <| exists_congr fun _ => and_congr_right fun _ => mem_stepsIn_iff

theorem vocabulary_prefix {later : Collection} (h : scenarios <+: later) :
    scenarios.vocabulary <+: later.vocabulary := by
  obtain ⟨others, rfl⟩ := h
  rw [vocabulary_append]
  exact List.prefix_append _ _

/-- A text that is saved as a new scenario comes behind the others. -/
theorem prefix_save {source left : IdSource} {editing : Option Text} {text : Text} {saved : Collection}
    (hNew : editing.bind scenarios.byId? = none)
    (h : scenarios.save source editing text = some (saved, left)) : scenarios <+: saved := by
  simp only [save, hNew, Option.ite_none_left_eq_some, Option.some.injEq, Prod.mk.injEq] at h
  obtain ⟨_, rfl, _⟩ := h
  exact List.prefix_append _ _

end Collection

namespace Suggestions

variable {scenarios : Collection} {snapshot : Snapshot} {suggestions : Suggestions}

/-- A suggestion is a line with the one step that it was made from. -/
theorem stepsIn_suggestion (h : offer? scenarios.vocabulary snapshot = some suggestions) {full : Text}
    (hFull : full ∈ suggestions.texts) : .char '\n' ∉ full ∧
      ∃ words ∈ scenarios.vocabulary, stepsIn full = [words] := by
  obtain ⟨start, hStart, hTexts, _⟩ := exists_start_of_offer? h
  obtain ⟨words, hWords, rfl⟩ := hTexts full hFull
  obtain ⟨line, cut, _, hCut, rfl⟩ := exists_cut_of_step hStart
  have hPlain := Collection.isPlain_of_mem_vocabulary hWords
  obtain ⟨hMem, hSpells, _⟩ := KeywordLine.cut?_eq_some_iff.mp hCut
  have hReturn : .char '\r' ∉ StepStart.complete ⟨cut.spelling, cut.rest⟩ words :=
    Keyword.not_mem_of_spells hSpells (by decide) (by decide) hPlain.oneLine.1
  have hFeed : .char '\n' ∉ StepStart.complete ⟨cut.spelling, cut.rest⟩ words :=
    Keyword.not_mem_of_spells hSpells (by decide) (by decide) hPlain.oneLine.2
  refine ⟨hFeed, words, hWords, ?_⟩
  have hText : stepText? (StepStart.complete ⟨cut.spelling, cut.rest⟩ words) = some words :=
    stepText?_of_isPlain hMem hSpells hPlain
  rw [stepsIn, Text.normalizedLines, Text.normalizeNewlines_eq_self hReturn,
    Text.lines_of_newline_not_mem hFeed, List.filterMap_cons_some hText, List.filterMap_nil]

/-- Whatever text a suggestion is put into, its steps are those that the text had or steps of the
vocabulary. -/
theorem steps_of_putInto? (h : offer? scenarios.vocabulary snapshot = some suggestions) {full : Text}
    (hFull : full ∈ suggestions.texts) {later : Text} {result : Snapshot}
    (hPut : suggestions.putInto? later full = some result) {words : Text}
    (hMem : words ∈ stepsIn result.text) : words ∈ stepsIn later ∨ words ∈ scenarios.vocabulary := by
  obtain ⟨_, _, hIndex⟩ := place_of_offer? h
  obtain ⟨hFeed, step, hStep, hSteps⟩ := stepsIn_suggestion h hFull
  have hCount : suggestions.lineCount = Text.lineCount later := by
    by_contra hOther
    rw [putInto?_eq_none hOther] at hPut
    cases hPut
  rw [← Text.unlines_lines result.text, (puts_of_putInto? hCount hIndex hFeed hPut).lines,
    stepsIn_unlines, List.mem_flatMap] at hMem
  obtain ⟨line, hLine, hMem⟩ := hMem
  rcases List.mem_or_eq_of_mem_set hLine with hOld | rfl
  · left
    rw [← Text.unlines_lines later, stepsIn_unlines]
    exact List.mem_flatMap_of_mem hOld hMem
  · right
    rw [hSteps, List.mem_singleton] at hMem
    rwa [hMem]

end Suggestions

namespace Collection

/-- The vocabulary of a collection holds the words of its steps, each once. They are neither blank nor broken
over lines and have no outer blanks; they are what stands behind the keyword and the blanks of a line of some
scenario. Scenarios behind others add to the end of the vocabulary what is not in it yet, so it only grows
when scenarios are imported or saved as new ones. Behind any keyword of a step in any spelling, the words
of an entry are found again. So the steps of a text with a suggestion in it are in the vocabulary that the
suggestion was made from, or were in the text before. -/
theorem vocabulary_grows_by_new_steps_only (scenarios : Collection) :
    scenarios.vocabulary.Nodup ∧
    (∀ words ∈ scenarios.vocabulary, IsPlain words) ∧
    (∀ words, words ∈ scenarios.vocabulary ↔
      ∃ scenario ∈ scenarios, ∃ line ∈ Text.normalizedLines scenario.content, IsStep line words) ∧
    (∀ others : Collection, (scenarios ++ others).vocabulary =
      scenarios.vocabulary ++ others.vocabulary.filter (· ∉ scenarios.vocabulary)) ∧
    (∀ source blocks, scenarios.vocabulary <+: (scenarios.merge source blocks).1.vocabulary) ∧
    (∀ source editing text saved left, editing.bind scenarios.byId? = none →
      scenarios.save source editing text = some (saved, left) →
        scenarios.vocabulary <+: saved.vocabulary) ∧
    (∀ words ∈ scenarios.vocabulary, ∀ keyword ∈ Keyword.steps, ∀ spelling,
      Keyword.Spells keyword.canonical spelling →
        stepText? (spelling ++ " " ++ words) = some words) ∧
    ∀ snapshot suggestions, Suggestions.offer? scenarios.vocabulary snapshot = some suggestions →
      ∀ full ∈ suggestions.texts, ∀ later result, suggestions.putInto? later full = some result →
        ∀ line ∈ Text.normalizedLines result.text, ∀ words, IsStep line words →
          words ∈ scenarios.vocabulary ∨ ∃ old ∈ Text.normalizedLines later, IsStep old words := by
  refine ⟨nodup_eraseDups _, fun _ => isPlain_of_mem_vocabulary, fun _ => mem_vocabulary_iff,
    vocabulary_append scenarios, fun source blocks => vocabulary_prefix (prefix_merge scenarios source blocks),
    fun _ _ _ _ _ hNew hSave => vocabulary_prefix (prefix_save hNew hSave),
    fun words hWords keyword hMem spelling hSpells =>
      stepText?_of_isPlain hMem hSpells (isPlain_of_mem_vocabulary hWords), ?_⟩
  intro snapshot suggestions hOffer full hFull later result hPut line hLine words hStep
  rw [← mem_stepsIn_iff]
  exact (Suggestions.steps_of_putInto? hOffer hFull hPut (mem_stepsIn_iff.mpr ⟨line, hLine, hStep⟩)).symm

/-- A text of three lines, and what becomes of it when a suggestion takes the place of the second one. -/
def leavingText : Text := "Scenario: B\r\nWHEN  S\r\nThen she leaves"

theorem completed_step_is_an_old_entry :
    stepText? "wHEN she logs in" = some (Text.ofString "she logs in") ∧
      (∃ saved left, Suggestions.loginScenarios.save {} none leavingText = some (saved, left) ∧
        Suggestions.loginScenarios.vocabulary <+: saved.vocabulary) ∧
      ∃ result, Suggestions.typedSuggestions.putInto? leavingText "wHEN she logs in" = some result ∧
        ∀ line ∈ Text.normalizedLines result.text, ∀ words, IsStep line words →
          words ∈ Suggestions.loginScenarios.vocabulary ∨
            ∃ old ∈ Text.normalizedLines leavingText, IsStep old words := by
  obtain ⟨_, _, _, _, _, hSave, hFound, hAccept⟩ :=
    vocabulary_grows_by_new_steps_only Suggestions.loginScenarios
  have hSpelled : Keyword.spelledBy? Keyword.whenStep.canonical "wHEN" = some (Text.ofString "wHEN", []) := by
    decide
  have hSaved : ∃ saved left, Suggestions.loginScenarios.save {} none leavingText = some (saved, left) :=
    ⟨_, _, rfl⟩
  obtain ⟨saved, left, hSaved⟩ := hSaved
  have hOffer : Suggestions.offer? Suggestions.loginScenarios.vocabulary Suggestions.typedStep =
      some Suggestions.typedSuggestions := by decide +kernel
  have hPut : Suggestions.typedSuggestions.putInto? leavingText "wHEN she logs in" =
      some ⟨"Scenario: B\r\nwHEN she logs in\nThen she leaves", 29⟩ := by decide +kernel
  exact ⟨hFound "she logs in" (by decide +kernel) .whenStep (by decide) "wHEN"
      (Keyword.spelledBy?_eq_some_iff.mp hSpelled).1,
    ⟨saved, left, hSaved, hSave _ none _ _ _ rfl hSaved⟩, _, hPut,
    hAccept _ _ hOffer _ (by decide +kernel) _ _ hPut⟩

end Collection

end ScenarioDesk
