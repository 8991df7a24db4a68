import ScenarioDesk.Proofs.Gherkin.Joining
import ScenarioDesk.Proofs.Scenario.Merging

/-! A collection that is exported and imported again. The exported text has nothing but the contents in
it, so the scenarios come back exactly if the text is cut where the contents meet. -/
namespace ScenarioDesk.Collection

theorem inked_of_trimmed {content : Text} (hTrimmed : Text.trim content = content)
    (hContent : content ≠ []) : Text.isAllBlank content = false := by
  rw [← hTrimmed]
  apply Text.isAllBlank_trim_of_ne_nil
  rwa [hTrimmed]

/-- Distinct contents that are found again in the joined text are all new to an empty collection. -/
theorem fresh_ofText_join {contents : List Text} (hEach : ∀ content ∈ contents, Block.IsContent content)
    (hHeaded : ∀ content ∈ contents.tail, Block.isHeaded content = true)
    (hDistinct : (contents.map Text.trim).Nodup) :
    fresh [] (Block.ofText (Text.join "\n\n" contents)) =
      (Block.ended contents).map fun content => ⟨Block.titleOf content, content⟩ := by
  rw [Block.ofText_join hEach hHeaded]
  apply fresh_eq_self
  · intro block hBlock hBlank
    obtain ⟨part, hPart, rfl⟩ := List.mem_map.mp hBlock
    have hInked := Block.inked_of_mem_ended (fun each hMem => (hEach each hMem).inked) hPart
    rw [Text.trim_eq_nil_iff.mp hBlank] at hInked
    cases hInked
  · rw [← Block.map_trim_ended] at hDistinct
    rwa [List.nil_append, List.map_map]

section Rebuilt

variable (source : IdSource)

theorem merge_nil (blocks : List Block) :
    (merge [] source blocks).1.map Scenario.title = (fresh [] blocks).map Block.title ∧
      (merge [] source blocks).1.map Scenario.content =
        (fresh [] blocks).map fun block => Text.trim block.content := by
  obtain ⟨others, hMerge, hTitles, hContents⟩ := merge_eq [] source blocks
  rw [hMerge, List.nil_append]
  exact ⟨hTitles, hContents⟩

/-- What importing a text into an empty collection can give: contents of which all but the first are
headed. -/
theorem merge_nil_ofText (text : Text) :
    (∀ content ∈ (merge [] source (Block.ofText text)).1.map Scenario.content,
        Block.IsContent content) ∧
      ∀ content ∈ ((merge [] source (Block.ofText text)).1.map Scenario.content).tail,
        Block.isHeaded content = true := by
  have hFresh := fresh_sublist [] (Block.ofText text)
  rw [(merge_nil source (Block.ofText text)).2, ← List.map_tail]
  constructor
  · intro content hContent
    obtain ⟨block, hBlock, rfl⟩ := List.mem_map.mp hContent
    exact (Block.isContent_of_mem_ofText (hFresh.subset hBlock)).trim
  · intro content hContent
    obtain ⟨block, hBlock, rfl⟩ := List.mem_map.mp hContent
    exact Block.isHeaded_trim (Block.isHeaded_of_mem_tail_ofText (hFresh.tail.subset hBlock))

/-- Distinct contents of which all but the first are headed come back, each with its own title. -/
theorem merge_nil_ofText_join {contents : List Text}
    (hEach : ∀ content ∈ contents, Block.IsContent content)
    (hHeaded : ∀ content ∈ contents.tail, Block.isHeaded content = true)
    (hDistinct : (contents.map Text.trim).Nodup) :
    (merge [] source (Block.ofText (Text.join "\n\n" contents))).1.map Scenario.title =
        contents.map Block.titleOf ∧
      (merge [] source (Block.ofText (Text.join "\n\n" contents))).1.map Scenario.content =
        contents.map Text.trim := by
  obtain ⟨hTitles, hContents⟩ := merge_nil source (Block.ofText (Text.join "\n\n" contents))
  rw [fresh_ofText_join hEach hHeaded hDistinct, List.map_map] at hTitles hContents
  exact ⟨hTitles.trans (Block.map_titleOf_ended fun each hMem => (hEach each hMem).plain),
    hContents.trans (Block.map_trim_ended contents)⟩

/-- Only such contents come back. -/
theorem merge_nil_ofText_join_iff {contents : List Text}
    (hPlain : ∀ content ∈ contents, .char '\r' ∉ content)
    (hInked : ∀ content ∈ contents, Text.isAllBlank content = false)
    (hTrimmed : contents.map Text.trim = contents) (hDistinct : contents.Nodup) :
    ((merge [] source (Block.ofText (Text.join "\n\n" contents))).1.map Scenario.content = contents ↔
      (∀ content ∈ contents.tail, Block.isHeaded content = true) ∧
        ∀ content ∈ contents, ∀ line ∈ (Text.lines content).tail, Block.isBoundary line = false) ∧
    ((merge [] source (Block.ofText (Text.join "\n\n" contents))).1.map Scenario.content = contents →
      (merge [] source (Block.ofText (Text.join "\n\n" contents))).1.map Scenario.title =
        contents.map Block.titleOf) := by
  rw [← hTrimmed] at hDistinct
  have hGiven := merge_nil_ofText source (Text.join "\n\n" contents)
  have hBack := fun hEach hHeaded => merge_nil_ofText_join source hEach hHeaded hDistinct
  rw [hTrimmed] at hBack
  refine ⟨⟨fun hRebuilt => ?_, fun ⟨hHeaded, hSingle⟩ => ?_⟩, fun hRebuilt => ?_⟩
  · rw [hRebuilt] at hGiven
    exact ⟨hGiven.2, fun content hMem => (hGiven.1 content hMem).single⟩
  · exact (hBack (fun content hMem =>
      ⟨hPlain content hMem, hInked content hMem, hSingle content hMem⟩) hHeaded).2
  · rw [hRebuilt] at hGiven
    exact (hBack hGiven.1 hGiven.2).1

end Rebuilt

/-- A collection whose contents are trimmed, not empty, free of carriage returns and pairwise distinct is
rebuilt from its export, content by content, exactly if every content but the first begins with a header
and none has a header further down. The scenarios that are rebuilt then have the titles that their
contents give, whatever titles were exported. -/
theorem rebuilt_from_export_iff (scenarios : Collection) (source : IdSource)
    (hTrimmed : ∀ scenario ∈ scenarios, Text.trim scenario.content = scenario.content)
    (hContent : ∀ scenario ∈ scenarios, scenario.content ≠ [])
    (hReturn : ∀ scenario ∈ scenarios, .char '\r' ∉ scenario.content)
    (hDistinct : (scenarios.map Scenario.content).Nodup) :
    ((merge [] source (Block.ofText scenarios.exportText)).1.map Scenario.content =
        scenarios.map Scenario.content ↔
      (∀ scenario ∈ scenarios.tail, Block.isHeaded scenario.content = true) ∧
        ∀ scenario ∈ scenarios, ∀ line ∈ (Text.lines scenario.content).tail,
          Block.isBoundary line = false) ∧
    ((merge [] source (Block.ofText scenarios.exportText)).1.map Scenario.content =
        scenarios.map Scenario.content →
      (merge [] source (Block.ofText scenarios.exportText)).1.map Scenario.title =
        scenarios.map fun scenario => Block.titleOf scenario.content) := by
  have hPlain : ∀ content ∈ scenarios.map Scenario.content, .char '\r' ∉ content := by
    intro content hMem
    obtain ⟨scenario, hScenario, rfl⟩ := List.mem_map.mp hMem
    exact hReturn scenario hScenario
  have hInked : ∀ content ∈ scenarios.map Scenario.content, Text.isAllBlank content = false := by
    intro content hMem
    obtain ⟨scenario, hScenario, rfl⟩ := List.mem_map.mp hMem
    exact inked_of_trimmed (hTrimmed scenario hScenario) (hContent scenario hScenario)
  have hTrim : (scenarios.map Scenario.content).map Text.trim = scenarios.map Scenario.content := by
    rw [List.map_map]
    exact List.map_congr_left hTrimmed
  have hIff := merge_nil_ofText_join_iff source hPlain hInked hTrim hDistinct
  rwa [← List.map_tail, List.forall_mem_map, List.forall_mem_map, List.map_map] at hIff

/-- Notes without a header, with a scenario behind them. -/
def notesAndScenario : Collection :=
  [⟨"1", "Plan", "Notes\n\non the plan"⟩, ⟨"2", "Old", "Scenario: New\n\n  Given a step"⟩]

/-- Both contents come back. The titles are those of the contents. -/
theorem notes_and_scenario_are_rebuilt :
    (merge [] {} (Block.ofText notesAndScenario.exportText)).1.map Scenario.content =
        notesAndScenario.map Scenario.content ∧
      (merge [] {} (Block.ofText notesAndScenario.exportText)).1.map Scenario.title =
        [Block.placeholderTitle, "New"] := by
  obtain ⟨hIff, hTitles⟩ := rebuilt_from_export_iff notesAndScenario {}
    (by decide +kernel) (by decide +kernel) (by decide +kernel) (by decide +kernel)
  have hContents := hIff.mpr (by decide +kernel)
  refine ⟨hContents, (hTitles hContents).trans ?_⟩
  decide +kernel

end ScenarioDesk.Collection
