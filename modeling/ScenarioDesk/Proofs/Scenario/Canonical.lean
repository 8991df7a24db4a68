import Mathlib.Data.List.Nodup
import ScenarioDesk.Proofs.Gherkin.TrimmedTitles
import ScenarioDesk.Proofs.Scenario.Soundness

/-! Canonical scenarios: the content has no blanks around it, and the title is the one that the content
gives. What is saved and what is imported is canonical, though a saved text is trimmed before its title is
taken and an imported one after it. -/
namespace ScenarioDesk

/-- The content is trimmed and not empty, and the title is taken from it. -/
structure Scenario.IsCanonical (scenario : Scenario) : Prop where
  trimmed : Text.trim scenario.content = scenario.content
  filled : scenario.content ≠ []
  titled : scenario.title = Block.titleOf scenario.content

theorem Scenario.isCanonical_of_trim {text : Text} (h : Text.trim text ≠ []) (id : Text) :
    IsCanonical ⟨id, Block.titleOf (Text.trim text), Text.trim text⟩ := ⟨Text.trim_trim text, h, rfl⟩

namespace Collection

variable {scenarios next : Collection} {source left : IdSource}

/-- Every scenario is canonical. -/
def Canonical (scenarios : Collection) : Prop := ∀ scenario ∈ scenarios, scenario.IsCanonical

theorem Canonical.append {others : Collection} (h : scenarios.Canonical) (hOthers : others.Canonical) :
    (scenarios ++ others).Canonical := by
  intro scenario hMem
  rcases List.mem_append.mp hMem with hOld | hNew
  · exact h scenario hOld
  · exact hOthers scenario hNew

theorem Canonical.remove (h : scenarios.Canonical) (id : Text) : (scenarios.remove id).Canonical :=
  fun scenario hMem => h scenario (mem_remove.mp hMem).1

theorem Canonical.save (h : scenarios.Canonical) {editing : Option Text} {text : Text}
    (hSave : scenarios.save source editing text = some (next, left)) : next.Canonical := by
  rw [Collection.save] at hSave
  dsimp only at hSave
  split at hSave
  · cases hSave
  · next hFilled =>
      split at hSave
      · next edited hEdited =>
          cases hSave
          intro scenario hMem
          obtain ⟨older, hOlder, rfl⟩ := List.mem_map.mp hMem
          split
          · exact Scenario.isCanonical_of_trim hFilled older.id
          · exact h older hOlder
      · cases hSave
        refine h.append fun scenario hMem => ?_
        rw [List.mem_singleton.mp hMem]
        exact Scenario.isCanonical_of_trim hFilled source.id

theorem Canonical.merge (h : scenarios.Canonical) (source : IdSource) (text : Text) :
    Canonical (scenarios.merge source (Block.ofText text)).1 := by
  obtain ⟨others, hMerge, _, hEach⟩ := merge_spec scenarios source (Block.ofText text)
  rw [hMerge]
  refine h.append fun scenario hMem => ?_
  obtain ⟨hFilled, block, hBlock, hTitle, hContent⟩ := hEach scenario hMem
  refine ⟨?_, hFilled, ?_⟩
  · rw [hContent, Text.trim_trim]
  · rw [hTitle, hContent, Block.title_eq_titleOf_trim hBlock]

/-- A text and what is left of it without its outer blanks have the same title: one line without outer blanks,
and not empty. So an imported scenario has the title of its content, although the title was taken from a block
and only then the block was trimmed. -/
theorem title_ignores_outer_blanks (content text : Text) (scenarios : Collection) (source : IdSource) :
    Block.titleOf content = Block.titleOf (Text.trim content) ∧ Block.IsTitle (Block.titleOf content) ∧
      ∃ others, (scenarios.merge source (Block.ofText text)).1 = scenarios ++ others ∧
        ∀ scenario ∈ others, scenario.title = Block.titleOf scenario.content ∧
          ∃ block ∈ Block.ofText text, scenario.title = block.title ∧
            scenario.content = Text.trim block.content := by
  refine ⟨(Block.titleOf_trim content).symm, Block.isTitle_titleOf content, ?_⟩
  obtain ⟨others, hMerge, _, hEach⟩ := merge_spec scenarios source (Block.ofText text)
  refine ⟨others, congrArg Prod.fst hMerge, fun scenario hMem => ?_⟩
  obtain ⟨_, block, hBlock, hTitle, hContent⟩ := hEach scenario hMem
  refine ⟨?_, block, hBlock, hTitle, hContent⟩
  rw [hTitle, hContent, Block.title_eq_titleOf_trim hBlock]

/-- Two scenarios, of which the second one has nothing but blanks behind its header. -/
def blankNamed : Text := "\r\n Scenario:  Deposit \r\n  Given a\n\n \tscenario: \u3000\n\n"

/-- The blanks let the header give the placeholder; without them it gives no title at all, and the title is the
placeholder all the same. -/
theorem blank_header_keeps_its_title :
    ⟨"1700000000000-2", "Untitled Scenario", "scenario:"⟩ ∈ (merge [] {} (Block.ofText blankNamed)).1 ∧
      Block.titleOf " \tscenario: \u3000\n\n" = Block.titleOf "scenario:" ∧
      ("Untitled Scenario" : Text) = Block.titleOf "scenario:" := by
  obtain ⟨hSame, _, others, hMerge, hEach⟩ :=
    title_ignores_outer_blanks " \tscenario: \u3000\n\n" blankNamed [] {}
  have hMem : ⟨"1700000000000-2", "Untitled Scenario", "scenario:"⟩ ∈
      (merge [] {} (Block.ofText blankNamed)).1 := by decide +kernel
  refine ⟨hMem, hSame.trans (congrArg Block.titleOf (by decide +kernel)), ?_⟩
  rw [hMerge, List.nil_append] at hMem
  exact (hEach _ hMem).1

/-- Updating a scenario with what it already is changes nothing, where no other one has its id. -/
theorem update_own (hDistinct : scenarios.ids.Nodup) {scenario : Scenario} (hMem : scenario ∈ scenarios) :
    scenarios.update scenario.id scenario.title scenario.content = scenarios := by
  have hEach : ∀ other ∈ scenarios, (if other.id = scenario.id then
      { other with title := scenario.title, content := scenario.content } else other) = other := by
    intro other hOther
    split
    · next hSame =>
        rw [List.inj_on_of_nodup_map hDistinct hOther hMem hSame]
    · rfl
  rw [update, List.map_congr_left hEach, List.map_id']

/-- Where ids are distinct, each scenario is found under its id. -/
theorem byId?_of_mem (hDistinct : scenarios.ids.Nodup) {scenario : Scenario} (hMem : scenario ∈ scenarios) :
    scenarios.byId? scenario.id = some scenario := by
  obtain ⟨other, hFound⟩ := Option.isSome_iff_exists.mp
    (isSome_byId?_iff.mpr (mem_ids_iff.mpr ⟨scenario, hMem, rfl⟩))
  obtain ⟨hOther, hSame⟩ := mem_of_byId? hFound
  rw [hFound, List.inj_on_of_nodup_map hDistinct hOther hMem hSame]

/-- A canonical scenario that is edited and saved as it is leaves the collection as it is. -/
theorem Canonical.save_own (h : scenarios.Canonical) (hDistinct : scenarios.ids.Nodup) (source : IdSource)
    {scenario : Scenario} (hMem : scenario ∈ scenarios) :
    scenarios.save source (some scenario.id) scenario.content = some (scenarios, source) := by
  obtain ⟨hTrimmed, hFilled, hTitled⟩ := h scenario hMem
  rw [Collection.save, Option.bind_some, byId?_of_mem hDistinct hMem, hTrimmed, if_neg hFilled]
  dsimp only
  rw [← hTitled, update_own hDistinct hMem]

end Collection

end ScenarioDesk
