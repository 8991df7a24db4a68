import ScenarioDesk.Proofs.Scenario.Vocabulary
import ScenarioDesk.Proofs.Text.WordEnds

/-! Typing a known step once more. What is typed so far is compared in lower case, where the end of what is
typed counts as the end of a word. So the step is offered at every point of it, unless the cursor parts a
word behind a capital sigma: there it is offered only if the words typed so far, with their final sigma, are
also found further on in the step. -/
namespace ScenarioDesk

/-- Everything in front of a cut through the words of a step can stand behind a keyword. -/
theorem IsPlain.of_append {front rest : Text} (h : IsPlain (front ++ rest)) :
    .char '\n' ∉ front ∧ ∀ c ∈ front.head?, Text.isBlank c = false := by
  refine ⟨fun hMem => h.oneLine.2 (List.mem_append_left _ hMem), fun c hHead => ?_⟩
  obtain ⟨hFirst, _⟩ := Text.trim_eq_self_iff.mp h.trimmed
  apply hFirst
  rw [List.head?_append, hHead]
  rfl

namespace Suggestions

/-- A step of the vocabulary that is typed once more behind any keyword of a step, in any spelling of it and
in any text, is offered wherever the cursor stands in it, even in front of it and behind it, unless the
cursor parts a word behind a capital sigma. There it is offered exactly if the words in front of the cursor
are found in the step a second time, in lower case with a final sigma. -/
theorem retyped_step_is_offered_iff {scenarios : Collection} {front rest : Text}
    (hStep : front ++ rest ∈ scenarios.vocabulary) {keyword : Keyword} (hKeyword : keyword ∈ Keyword.steps)
    {spelling : Text} (hSpelling : Keyword.Spells keyword.canonical spelling) {above : Text}
    (hAbove : above = [] ∨ above.getLast? = some '\n') (below : Text) :
    (∃ suggestions,
      offer? scenarios.vocabulary
          ⟨above ++ (spelling ++ " " ++ front) ++ below, (above ++ (spelling ++ " " ++ front)).length⟩ =
        some suggestions ∧
      spelling ++ " " ++ (front ++ rest) ∈ suggestions.texts) ↔
    (Text.PartsWord front rest → Text.lower front <:+: (Text.lower (front ++ rest)).tail) := by
  obtain ⟨hBreak, hHead⟩ := (Collection.isPlain_of_mem_vocabulary hStep).of_append
  have hGap : (" " : Text) ≠ [] ∧ Text.isAllBlank " " = true := by decide
  have hCut : KeywordLine.ofStepStart? (spelling ++ " " ++ front) = some ⟨keyword, spelling, " ", front⟩ :=
    KeywordLine.cut?_eq_some_iff.mpr ⟨hKeyword, hSpelling, hGap.1, hGap.2, hHead, rfl⟩
  have hLine : .char '\n' ∉ spelling ++ " " ++ front :=
    Keyword.not_mem_of_spells hSpelling (by decide) (by decide) hBreak
  have hStart := Snapshot.step_context_append hAbove hLine below
  rw [hCut, Option.map_some] at hStart
  rw [← Text.occursIn_lower_iff]
  exact exists_complete_mem_iff hStart hStep

/-- A step with a sigma inside of a word and one that ends a word. -/
def greekScenarios : Collection := [⟨"1", "Α", "Scenario: Α\nWhen ΟΣΑ ΟΣ"⟩]

/-- Behind its first two letters it is offered for the sake of the last two. -/
theorem second_word_is_offered : ∃ suggestions,
    offer? greekScenarios.vocabulary ⟨"Scenario: B\nwhen ΟΣ\nThen x", 19⟩ = some suggestions ∧
      ("when ΟΣΑ ΟΣ" : Text) ∈ suggestions.texts := by
  have hStep : ("ΟΣ" : Text) ++ "Α ΟΣ" ∈ greekScenarios.vocabulary := by decide +kernel
  have hSpelling : Keyword.Spells Keyword.whenStep.canonical "when" := by decide +kernel
  have hFound : Text.lower "ΟΣ" <:+: (Text.lower (("ΟΣ" : Text) ++ "Α ΟΣ")).tail := by decide +kernel
  have hAbove : ("Scenario: B\n" : Text) = [] ∨ ("Scenario: B\n" : Text).getLast? = some '\n' := by decide +kernel
  exact (retyped_step_is_offered_iff hStep (by decide) hSpelling hAbove "\nThen x").mpr fun _ => hFound

/-- A name is not offered when its first three letters have been typed, because the third one is a sigma. -/
theorem broken_off_name_is_not_offered :
    ("ΚΩΣ" : Text) ++ "ΤΑΣ" ∈ Collection.vocabulary [⟨"1", "Α", "Given ΚΩΣΤΑΣ"⟩] ∧
      offer? (Collection.vocabulary [⟨"1", "Α", "Given ΚΩΣΤΑΣ"⟩]) ⟨"Given ΚΩΣ", 9⟩ = none := by
  decide +kernel

end Suggestions

end ScenarioDesk
