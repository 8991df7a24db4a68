import ScenarioDesk.Proofs.Gherkin.KeywordLines
import ScenarioDesk.Proofs.Text.LineFrames
import ScenarioDesk.Proofs.Text.WordEnds
import ScenarioDesk.Scenario.Suggestion
import ScenarioDesk.Scenario.Vocabulary

/-! Suggestions from their making to their use. A suggestion replaces the line it was made for and no
other, in every text that has as many lines as the one it was made in. The line it puts there is the step
it completes, so the same suggestion is offered again behind it. -/
namespace ScenarioDesk

namespace Snapshot

/-- The text with one line replaced and the cursor behind the new line. -/
structure Puts (snapshot : Snapshot) (text : Text) (index : Nat) (full : Text) : Prop where
  inside : index < (Text.lines text).length
  lines : Text.lines snapshot.text = (Text.lines text).set index full
  cursor : ∃ front back, snapshot.text = front ++ full ++ back ∧
    snapshot.cursor = (front ++ full).length ∧ (front ++ full).count (.char '\n') = index ∧
    (back = [] ∨ back.head? = some '\n')

/-- The line of the cursor is one of the lines. -/
theorem lineIndex_context_lt (snapshot : Snapshot) :
    snapshot.context.lineIndex < Text.lineCount snapshot.text := by
  have hLe := Text.lineCount_take_le snapshot.text snapshot.cursor.toNat
  have hPos : 0 < Text.lineCount snapshot.beforeCursor := Nat.succ_pos _
  rw [context, Text.length_lines]
  exact Nat.lt_of_lt_of_le (Nat.sub_one_lt_of_lt hPos) hLe

/-- The context behind a line that is cut into a keyword, a gap and words. -/
theorem context_above_append {above : List Text} (hAbove : ∀ line ∈ above, .char '\n' ∉ line)
    {line : Text} (hLine : .char '\n' ∉ line) {cut : KeywordLine}
    (hCut : KeywordLine.ofStepStart? line = some cut) (below : Text) :
    context ⟨Text.above above ++ line ++ below, (Text.above above ++ line).length⟩ =
      ⟨above.length, line.length, some ⟨cut.spelling, cut.rest⟩⟩ := by
  have hBefore : beforeCursor ⟨Text.above above ++ line ++ below, (Text.above above ++ line).length⟩ =
      Text.above above ++ line := List.take_left
  have hLines : Text.lines (Text.above above ++ line) = above ++ [line] := by
    rw [Text.lines_above_append hAbove, Text.lines_of_newline_not_mem hLine]
  rw [context, hBefore, hLines]
  simp [hCut]

/-- The step before the cursor is that of the line which the cursor stands in or behind. -/
theorem step_context_append {above : Text} (hAbove : above = [] ∨ above.getLast? = some '\n') {line : Text}
    (hLine : .char '\n' ∉ line) (below : Text) :
    (context ⟨above ++ line ++ below, (above ++ line).length⟩).step =
      (KeywordLine.ofStepStart? line).map fun cut => ⟨cut.spelling, cut.rest⟩ := by
  have hBefore : beforeCursor ⟨above ++ line ++ below, (above ++ line).length⟩ = above ++ line :=
    List.take_left
  have hCurrent : (Text.lines (above ++ line)).getLastD [] = line := by
    rcases hAbove with rfl | hBreak
    · rw [List.nil_append, Text.lines_of_newline_not_mem hLine]
      rfl
    · obtain ⟨front, rfl⟩ := List.getLast?_eq_some_iff.mp hBreak
      rw [List.append_assoc, List.singleton_append, Text.lines_append_newline,
        Text.lines_of_newline_not_mem hLine]
      simp
  rw [context, hBefore]
  dsimp only
  rw [hCurrent]

end Snapshot

theorem StepStart.complete_injective {start : StepStart} {step other : Text}
    (h : start.complete step = start.complete other) : step = other :=
  List.append_cancel_left h

namespace Suggestions

/-- What is offered: the steps that match the one before the cursor, if there is any. -/
theorem offer?_eq_some_iff {vocabulary : List Text} {snapshot : Snapshot} {suggestions : Suggestions} :
    offer? vocabulary snapshot = some suggestions ↔
      ∃ start, snapshot.context.step = some start ∧
        (vocabulary.filter start.matchesStep).map start.complete ≠ [] ∧
        suggestions = ⟨snapshot.context, Text.lineCount snapshot.text,
          (vocabulary.filter start.matchesStep).map start.complete⟩ := by
  unfold offer?
  dsimp only
  cases snapshot.context.step with
  | none => exact ⟨nofun, fun ⟨_, hStep, _⟩ => nomatch hStep⟩
  | some start =>
      rw [Option.ite_none_left_eq_some]
      constructor
      · rintro ⟨hTexts, hEq⟩
        exact ⟨start, rfl, hTexts, (Option.some.inj hEq).symm⟩
      · rintro ⟨_, hStep, hTexts, hEq⟩
        cases hStep
        exact ⟨hTexts, congrArg some hEq.symm⟩

section PutInto

variable {suggestions : Suggestions} {text : Text}

theorem putInto?_eq_none (h : suggestions.lineCount ≠ Text.lineCount text) (full : Text) :
    suggestions.putInto? text full = none := by
  rw [putInto?, LinePlace.replace?]
  exact if_pos (.inl fun hCount => h (Int.ofNat_inj.mp hCount))

/-- In a text with the expected number of lines the line is replaced, whatever the new one is. -/
theorem putInto?_eq_some (hCount : suggestions.lineCount = Text.lineCount text)
    (hIndex : suggestions.context.lineIndex < suggestions.lineCount) (full : Text) :
    suggestions.putInto? text full =
      some ⟨Text.above ((Text.lines text).take suggestions.context.lineIndex) ++ full ++
          Text.below ((Text.lines text).drop (suggestions.context.lineIndex + 1)),
        (Text.above ((Text.lines text).take suggestions.context.lineIndex) ++ full).length⟩ := by
  have hInside : suggestions.context.lineIndex < (Text.lines text).length := by
    rwa [Text.length_lines, ← hCount]
  have hPlace : ¬ (suggestions.place.count ≠ Text.lineCount text ∨ suggestions.place.index < 0 ∨
      (Text.lines text).length ≤ suggestions.place.index) := by
    simp only [place]
    omega
  rw [putInto?, LinePlace.replace?]
  simp only [if_neg hPlace]
  rw [place, Int.toNat_natCast, Text.unlines_set hInside, ← Text.length_above, List.length_append]

/-- A full line without a line feed replaces the one line and no other. -/
theorem puts_of_putInto? (hCount : suggestions.lineCount = Text.lineCount text)
    (hIndex : suggestions.context.lineIndex < suggestions.lineCount) {full : Text}
    (hFull : .char '\n' ∉ full) {result : Snapshot}
    (h : suggestions.putInto? text full = some result) :
    result.Puts text suggestions.context.lineIndex full := by
  have hInside : suggestions.context.lineIndex < (Text.lines text).length := by
    rwa [Text.length_lines, ← hCount]
  have hAbove : ∀ line ∈ (Text.lines text).take suggestions.context.lineIndex, .char '\n' ∉ line :=
    fun line => Text.newline_not_mem_of_mem_take
  rw [putInto?_eq_some hCount hIndex] at h
  cases h
  refine ⟨hInside, ?_, _, _, rfl, rfl, ?_, Text.head_below _⟩
  · rw [← Text.unlines_set hInside, Text.lines_unlines_set hFull]
  · rw [List.count_append, Text.count_above hAbove, List.count_eq_zero.mpr hFull, List.length_take]
    omega

/-- The edit leaves nothing to do for a second one of its kind. -/
theorem putInto?_putInto? (hCount : suggestions.lineCount = Text.lineCount text)
    (hIndex : suggestions.context.lineIndex < suggestions.lineCount) {full : Text}
    (hFull : .char '\n' ∉ full) {result : Snapshot}
    (h : suggestions.putInto? text full = some result) {again : Suggestions}
    (hAgain : again.lineCount = Text.lineCount result.text)
    (hSame : again.context.lineIndex = suggestions.context.lineIndex) :
    again.putInto? result.text full = some result := by
  have hLines := (puts_of_putInto? hCount hIndex hFull h).lines
  have hLength : Text.lineCount result.text = Text.lineCount text := by
    rw [← Text.length_lines, hLines, List.length_set, Text.length_lines]
  rw [putInto?_eq_some hAgain (by omega), hSame, hLines, List.take_set_of_le (Nat.le_refl _),
    List.drop_set_of_lt (Nat.lt_succ_self _), ← h, putInto?_eq_some hCount hIndex]

end PutInto

/-- The line of a step that is being typed. -/
theorem exists_cut_of_step {snapshot : Snapshot} {start : StepStart}
    (h : snapshot.context.step = some start) : ∃ line cut, .char '\n' ∉ line ∧
      KeywordLine.ofStepStart? line = some cut ∧ start = ⟨cut.spelling, cut.rest⟩ := by
  obtain ⟨cut, hCut, hStart⟩ := Option.map_eq_some_iff.mp h
  refine ⟨_, cut, ?_, hCut, hStart.symm⟩
  rw [List.getLastD_eq_getLast?, List.getLast?_eq_getLast_of_ne_nil (Text.lines_ne_nil _)]
  exact Text.newline_not_mem_of_mem_lines (List.getLast_mem _)

/-- A completed step is a line that is cut into the keyword as it was typed and the words of the step. -/
theorem cut_of_complete {snapshot : Snapshot} {start : StepStart}
    (h : snapshot.context.step = some start) {step : Text} (hBreak : .char '\n' ∉ step)
    (hHead : ∀ c ∈ step.head?, Text.isBlank c = false) :
    .char '\n' ∉ start.complete step ∧ ∃ cut,
      KeywordLine.ofStepStart? (start.complete step) = some cut ∧
        cut.spelling = start.keyword ∧ cut.rest = step := by
  obtain ⟨line, cut, hLine, hCut, rfl⟩ := exists_cut_of_step h
  refine ⟨fun hMem => ?_, _, KeywordLine.cut?_of_cut? hCut (by decide) (by decide) hHead, rfl, rfl⟩
  obtain ⟨hSource, _⟩ := KeywordLine.source_of_cut? hCut
  rcases List.mem_append.mp hMem with hMem | hMem
  · rcases List.mem_append.mp hMem with hMem | hMem
    · rw [← hSource] at hLine
      exact hLine (List.mem_append_left _ (List.mem_append_left _ hMem))
    · exact absurd hMem (by decide)
  · exact hBreak hMem

theorem plain_of_mem_vocabulary {scenarios : Collection} {step : Text}
    (h : step ∈ scenarios.vocabulary) :
    .char '\n' ∉ step ∧ ∀ c ∈ step.head?, Text.isBlank c = false := by
  obtain ⟨scenario, _, hStep⟩ := Collection.mem_vocabulary.mp h
  obtain ⟨line, _, hLine⟩ := List.mem_filterMap.mp hStep
  exact plain_of_stepText? hLine

section Offered

variable {vocabulary : List Text} {snapshot : Snapshot} {suggestions : Suggestions}

theorem place_of_offer? (h : offer? vocabulary snapshot = some suggestions) :
    suggestions.context = snapshot.context ∧
      suggestions.lineCount = Text.lineCount snapshot.text ∧
      suggestions.context.lineIndex < suggestions.lineCount := by
  obtain ⟨_, _, _, rfl⟩ := offer?_eq_some_iff.mp h
  exact ⟨rfl, rfl, snapshot.lineIndex_context_lt⟩

/-- The texts complete the step before the cursor with the steps that match it. -/
theorem exists_start_of_offer? (h : offer? vocabulary snapshot = some suggestions) :
    ∃ start, snapshot.context.step = some start ∧
      (∀ full ∈ suggestions.texts, ∃ step ∈ vocabulary, full = start.complete step) ∧
      ∀ step, start.complete step ∈ suggestions.texts → step ∈ vocabulary := by
  obtain ⟨start, hStart, _, rfl⟩ := offer?_eq_some_iff.mp h
  refine ⟨start, hStart, fun full hFull => ?_, fun step hStep => ?_⟩
  · obtain ⟨step, hStep, rfl⟩ := List.mem_map.mp hFull
    exact ⟨step, List.mem_of_mem_filter hStep, rfl⟩
  · obtain ⟨other, hOther, hSame⟩ := List.mem_map.mp hStep
    rw [← StepStart.complete_injective hSame]
    exact List.mem_of_mem_filter hOther

/-- A step of the vocabulary is offered exactly if it matches what is typed. -/
theorem exists_complete_mem_iff {start : StepStart} (h : snapshot.context.step = some start) {step : Text}
    (hStep : step ∈ vocabulary) :
    (∃ suggestions, offer? vocabulary snapshot = some suggestions ∧
      start.complete step ∈ suggestions.texts) ↔ start.matchesStep step = true := by
  constructor
  · rintro ⟨suggestions, hOffer, hMem⟩
    obtain ⟨other, hOther, _, rfl⟩ := offer?_eq_some_iff.mp hOffer
    rw [h] at hOther
    cases hOther
    obtain ⟨same, hSame, hComplete⟩ := List.mem_map.mp hMem
    rw [StepStart.complete_injective hComplete] at hSame
    exact (List.mem_filter.mp hSame).2
  · intro hMatches
    have hMem : start.complete step ∈ (vocabulary.filter start.matchesStep).map start.complete :=
      List.mem_map_of_mem (List.mem_filter.mpr ⟨hStep, hMatches⟩)
    exact ⟨_, offer?_eq_some_iff.mpr ⟨start, h, List.ne_nil_of_mem hMem, rfl⟩, hMem⟩

/-- Behind one of its own steps the vocabulary offers that step. -/
theorem exists_offer?_of_step {start : StepStart} (h : snapshot.context.step = some start)
    (hWords : start.words ∈ vocabulary) : ∃ again, offer? vocabulary snapshot = some again ∧
      start.complete start.words ∈ again.texts :=
  (exists_complete_mem_iff h hWords).mpr (Text.occursIn_iff.mpr (List.infix_refl _))

end Offered

/-- The cursor that a suggestion leaves stands behind the suggested step. -/
theorem context_of_putInto? {suggestions : Suggestions} {text : Text}
    (hCount : suggestions.lineCount = Text.lineCount text)
    (hIndex : suggestions.context.lineIndex < suggestions.lineCount) {full : Text}
    (hFull : .char '\n' ∉ full) {cut : KeywordLine} (hCut : KeywordLine.ofStepStart? full = some cut)
    {result : Snapshot} (h : suggestions.putInto? text full = some result) :
    result.context =
      ⟨suggestions.context.lineIndex, full.length, some ⟨cut.spelling, cut.rest⟩⟩ := by
  have hInside := (puts_of_putInto? hCount hIndex hFull h).inside
  rw [putInto?_eq_some hCount hIndex] at h
  cases h
  rw [Snapshot.context_above_append (fun _ => Text.newline_not_mem_of_mem_take) hFull hCut,
    List.length_take, Nat.min_eq_left (Nat.le_of_lt hInside)]

/-- Suggestions are made for the line of the cursor, and each is a step of the vocabulary behind the
keyword as it was typed. Put into a text that has another number of lines than the one they were made in,
a suggestion changes nothing and is refused. In any other text it takes the place of that one line, with
the cursor behind it. There the cursor stands in the suggested step and the suggestion is offered again;
accepting it again gives the same text and the same cursor. -/
theorem suggestion_is_put_in_and_offered_again (scenarios : Collection) (snapshot : Snapshot)
    (later : Text) {suggestions : Suggestions}
    (h : offer? scenarios.vocabulary snapshot = some suggestions) :
    suggestions.context = snapshot.context ∧
    ∃ start, snapshot.context.step = some start ∧
      (∀ full ∈ suggestions.texts, ∃ step ∈ scenarios.vocabulary, full = start.complete step) ∧
      ∀ step, start.complete step ∈ suggestions.texts →
        (later.count (.char '\n') ≠ snapshot.text.count (.char '\n') →
          suggestions.putInto? later (start.complete step) = none) ∧
        (later.count (.char '\n') = snapshot.text.count (.char '\n') →
          ∃ result, suggestions.putInto? later (start.complete step) = some result ∧
            result.Puts later suggestions.context.lineIndex (start.complete step) ∧
            result.context = ⟨suggestions.context.lineIndex, (start.complete step).length,
              some ⟨start.keyword, step⟩⟩ ∧
            ∃ again, offer? scenarios.vocabulary result = some again ∧
              start.complete step ∈ again.texts ∧
              again.putInto? result.text (start.complete step) = some result) := by
  obtain ⟨hContext, hCount, hIndex⟩ := place_of_offer? h
  obtain ⟨start, hStart, hTexts, hVocabulary⟩ := exists_start_of_offer? h
  refine ⟨hContext, start, hStart, hTexts, fun step hStep => ?_⟩
  obtain ⟨hBreak, hHead⟩ := plain_of_mem_vocabulary (hVocabulary step hStep)
  obtain ⟨hFull, cut, hCut, hKeyword, hWords⟩ := cut_of_complete hStart hBreak hHead
  refine ⟨fun hOther => ?_, fun hSame => ?_⟩
  · refine putInto?_eq_none (fun hLater => hOther ?_) _
    exact (Text.lineCount_eq_iff _ _).mp (hLater.symm.trans hCount)
  · have hLater := hCount.trans ((Text.lineCount_eq_iff _ _).mpr hSame.symm)
    obtain ⟨result, hPut⟩ : ∃ result, suggestions.putInto? later (start.complete step) = some result :=
      ⟨_, putInto?_eq_some hLater hIndex _⟩
    have hResult := context_of_putInto? hLater hIndex hFull hCut hPut
    rw [hKeyword, hWords] at hResult
    obtain ⟨again, hAgain, hMem⟩ :=
      exists_offer?_of_step (congrArg CursorContext.step hResult) (hVocabulary step hStep)
    obtain ⟨hPlace, hLines, _⟩ := place_of_offer? hAgain
    refine ⟨result, hPut, puts_of_putInto? hLater hIndex hFull hPut, hResult, again, hAgain, hMem, ?_⟩
    exact putInto?_putInto? hLater hIndex hFull hPut hLines (by rw [hPlace, hResult])

/-- A scenario with two steps. -/
def loginScenarios : Collection :=
  [⟨"1", "Login", "Scenario: Login\n  Given a user \"x\"\n  when she logs in "⟩]

/-- A step that is being typed between two other lines. -/
def typedStep : Snapshot := ⟨"Scenario: B\nwHEN  S\nThen end", 19⟩

/-- What is offered for it. -/
def typedSuggestions : Suggestions :=
  ⟨⟨1, 7, some ⟨"wHEN", "S"⟩⟩, 3, ["wHEN a user \"x\"", "wHEN she logs in"]⟩

/-- The second suggestion, put into a text of which only the number of lines is the same. -/
theorem typed_keyword_is_kept : ∃ result,
    typedSuggestions.putInto? "A\nB\nC" "wHEN she logs in" = some result ∧
      result.Puts "A\nB\nC" 1 "wHEN she logs in" ∧
      result.context = ⟨1, 16, some ⟨"wHEN", "she logs in"⟩⟩ ∧
      ∃ again, offer? loginScenarios.vocabulary result = some again ∧
        Text.ofString "wHEN she logs in" ∈ again.texts ∧
        again.putInto? result.text "wHEN she logs in" = some result := by
  have hOffer : offer? loginScenarios.vocabulary typedStep = some typedSuggestions := by
    decide +kernel
  have hStep : typedStep.context.step = some ⟨"wHEN", "S"⟩ := by decide +kernel
  obtain ⟨_, start, hStart, _, hSteps⟩ :=
    suggestion_is_put_in_and_offered_again loginScenarios typedStep "A\nB\nC" hOffer
  rw [hStep] at hStart
  cases hStart
  exact (hSteps "she logs in" (by decide +kernel)).2 (by decide +kernel)

end Suggestions

end ScenarioDesk
