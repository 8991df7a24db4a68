import ScenarioDesk.Proofs.Scenario.Exchange
import ScenarioDesk.Proofs.Session.Operations
import ScenarioDesk.Proofs.Session.Distinctness

/-! A session's own export, imported again. Everything that imports bring in is the trimmed content of a
block. So the export is recognised unless a text that begins without a header was imported when there
were scenarios before it: in the export it goes on where the scenario in front of it ends. -/
namespace ScenarioDesk

/-- The contents are those of blocks, trimmed. -/
def Collection.OfBlocks (scenarios : Collection) : Prop :=
  ∀ scenario ∈ scenarios, Block.IsContent scenario.content ∧ Text.trim scenario.content = scenario.content

/-- Merging the blocks of a text adds contents of blocks. -/
theorem Collection.OfBlocks.merge {scenarios : Collection} (h : scenarios.OfBlocks) (source : IdSource)
    (text : Text) : OfBlocks (scenarios.merge source (Block.ofText text)).1 := by
  obtain ⟨others, hMerge, _, hEach⟩ := merge_spec scenarios source (Block.ofText text)
  rw [hMerge]
  intro scenario hMem
  rcases List.mem_append.mp hMem with hOld | hNew
  · exact h scenario hOld
  · obtain ⟨_, block, hBlock, _, hContent⟩ := hEach scenario hNew
    rw [hContent]
    exact ⟨(Block.isContent_of_mem_ofText hBlock).trim, Text.trim_trim _⟩

/-- Merging a collection's own export into it adds nothing exactly if every content, as the exported text
shows it, is a content of the collection. -/
theorem Collection.OfBlocks.addedBy_exportText {scenarios : Collection} (h : scenarios.OfBlocks)
    (source : IdSource) :
    scenarios.addedBy source (Block.ofText scenarios.exportText) = 0 ↔
      ∀ content ∈ Block.rejoined (scenarios.map Scenario.content),
        content ∈ scenarios.map Scenario.content := by
  have hContents : scenarios.contents = scenarios.map Scenario.content :=
    List.map_congr_left fun scenario hMem => (h scenario hMem).2
  have hBlocks : (Block.ofText scenarios.exportText).map (fun block => Text.trim block.content) =
      Block.rejoined (scenarios.map Scenario.content) := by
    apply Block.map_trim_ofText_join
    · exact List.forall_mem_map.mpr fun scenario hMem => (h scenario hMem).1
    · exact List.forall_mem_map.mpr fun scenario hMem => (h scenario hMem).2
  rw [addedBy_eq_zero_iff, hContents, ← hBlocks, List.forall_mem_map]
  constructor
  · intro hKnown block hBlock
    have hInked := (Block.isContent_of_mem_ofText hBlock).trim.inked
    rcases hKnown block hBlock with hBlank | hContent
    · rw [hBlank] at hInked
      cases hInked
    · exact hContent
  · exact fun hKnown block hBlock => .inr (hKnown block hBlock)

namespace Session

section

variable [Runtime]

/-- Importing a text leaves the collection as it is or merges the blocks of the text into it. -/
theorem scenarios_after_importText (text : Text) (session : Session) :
    (after session (.importText text)).scenarios = session.scenarios ∨
      (after session (.importText text)).scenarios =
        (session.scenarios.merge session.host.ids (Block.ofText (Text.trim text))).1 := by
  rw [after_eq, perform, stateAfter_map]
  cases hText : Text.isAllBlank text with
  | true =>
      rw [importText, if_pos hText]
      exact .inl rfl
  | false =>
      cases hMerge : session.scenarios.merge session.host.ids (Block.ofText (Text.trim text)) with
      | mk scenarios ids =>
          rw [importText_apply hText hMerge]
          split
          · exact .inl rfl
          · rw [commit_apply]
            dsimp only
            cases Disk.writeAtomically session.store _ session.host.disk with
            | ok answer disk => exact .inr rfl
            | error error disk =>
                cases error with
                | system refusal => exact .inl rfl
                | nulInPath => exact .inl rfl
                | unencodable fault => exact .inl rfl

theorem ofBlocks_after_importText {session : Session} (h : session.scenarios.OfBlocks) (text : Text) :
    (after session (.importText text)).scenarios.OfBlocks := by
  rcases scenarios_after_importText text session with hSame | hMerged
  · rwa [hSame]
  · rw [hMerged]
    exact h.merge _ _

/-- The scenarios after some texts have been imported, one after the other. -/
def imported (session : Session) (texts : List Text) : Collection :=
  (session.run (texts.map .importText)).scenarios

theorem ofBlocks_imported {session : Session} (h : session.scenarios.OfBlocks) (texts : List Text) :
    (session.imported texts).OfBlocks := by
  rw [imported]
  induction texts generalizing session with
  | nil => exact h
  | cons text texts ih =>
      rw [List.map_cons, run_cons]
      exact ih (ofBlocks_after_importText h text)

/-- A session that starts without scenarios and imports texts, whatever they are and whether or not the
scenarios can be written, is given its own export. That adds nothing exactly if the first content, and each
that has a header in front, is a content of the session still when it has been put together with the contents
right behind it that have none. So it adds nothing if every content but the first has a header in front. -/
theorem reimport_adds_nothing_iff {session : Session} (hEmpty : session.scenarios = [])
    (texts : List Text) (source : IdSource) :
    ((session.imported texts).addedBy source (Block.ofText (session.imported texts).exportText) = 0 ↔
      ∀ content ∈ Block.rejoined ((session.imported texts).map Scenario.content),
        content ∈ (session.imported texts).map Scenario.content) ∧
    ((∀ scenario ∈ (session.imported texts).tail, Block.isHeaded scenario.content = true) →
      (session.imported texts).addedBy source
        (Block.ofText (session.imported texts).exportText) = 0) := by
  have hStart : session.scenarios.OfBlocks := by
    rw [hEmpty]
    exact nofun
  have hIff := (ofBlocks_imported hStart texts).addedBy_exportText source
  refine ⟨hIff, fun hHeaded => hIff.mpr ?_⟩
  rw [Block.rejoined_eq_self]
  · exact fun content hMem => hMem
  · rw [← List.map_tail]
    exact List.forall_mem_map.mpr hHeaded

end

/-- Two texts of which only the first begins without a header. -/
def featureFirst : List Text := [("Feature: F\n\nScenario: A" : Text), ("Scenario: B" : Text)]

theorem feature_first_is_recognised :
    ∃ session left, openStore ⟨.relative, ["scenarios.json"]⟩ {} = (.ok session, left) ∧
      (session.imported featureFirst).map Scenario.content =
        [("Feature: F" : Text), ("Scenario: A" : Text), ("Scenario: B" : Text)] ∧
      (session.imported featureFirst).addedBy {}
        (Block.ofText (session.imported featureFirst).exportText) = 0 := by
  have hView : (openStore ⟨.relative, ["scenarios.json"]⟩ {}).1.toOption.map (fun session =>
      (session.scenarios, (session.imported featureFirst).map Scenario.content)) =
      some ([], [("Feature: F" : Text), ("Scenario: A" : Text), ("Scenario: B" : Text)]) := by
    decide +kernel
  obtain ⟨session, left, hOpen, hValues⟩ := exists_openStore_of_map hView
  obtain ⟨hEmpty, hContents⟩ := Prod.mk.inj hValues
  refine ⟨session, left, hOpen, hContents, (reimport_adds_nothing_iff hEmpty _ {}).1.mpr ?_⟩
  rw [hContents]
  decide +kernel

/-- A text without a header that is imported behind a scenario. In the export both are one content, which
is new to the session. -/
theorem feature_behind_scenario_is_added :
    ∃ session left, openStore ⟨.relative, ["scenarios.json"]⟩ {} = (.ok session, left) ∧
      session.scenarios = [] ∧
      (session.imported [("Scenario: A" : Text), ("Feature: F" : Text)]).map Scenario.content =
        [("Scenario: A" : Text), ("Feature: F" : Text)] ∧
      (session.imported [("Scenario: A" : Text), ("Feature: F" : Text)]).addedBy {} (Block.ofText
        (session.imported [("Scenario: A" : Text), ("Feature: F" : Text)]).exportText) = 1 := by
  have hView : (openStore ⟨.relative, ["scenarios.json"]⟩ {}).1.toOption.map (fun session =>
      (session.scenarios,
        (session.imported [("Scenario: A" : Text), ("Feature: F" : Text)]).map Scenario.content,
        (session.imported [("Scenario: A" : Text), ("Feature: F" : Text)]).addedBy {} (Block.ofText
          (session.imported [("Scenario: A" : Text), ("Feature: F" : Text)]).exportText))) =
      some ([], [("Scenario: A" : Text), ("Feature: F" : Text)], 1) := by
    decide +kernel
  obtain ⟨session, left, hOpen, hValues⟩ := exists_openStore_of_map hView
  obtain ⟨hEmpty, hRest⟩ := Prod.mk.inj hValues
  obtain ⟨hContents, hAdded⟩ := Prod.mk.inj hRest
  exact ⟨session, left, hOpen, hEmpty, hContents, hAdded⟩

end Session

end ScenarioDesk
