import ScenarioDesk.Proofs.Gherkin.Titles
import ScenarioDesk.Proofs.Scenario.Ids
import ScenarioDesk.Scenario.Collection

/-! Sound collections: each scenario has an id, a title and a content worth the name, and no two have
the same id. Every operation on a sound collection gives a sound one, as long as the ids that it takes
from the source are not those of scenarios that are there already. -/
namespace ScenarioDesk

/-- The id is not empty, and neither the title nor the content is blank. -/
structure Scenario.IsSound (scenario : Scenario) : Prop where
  id : scenario.id ≠ []
  title : Text.isAllBlank scenario.title = false
  content : Text.isAllBlank scenario.content = false

namespace Collection

/-- The ids of the scenarios, in order. -/
def ids (scenarios : Collection) : List Text := scenarios.map Scenario.id

/-- Every scenario is sound, and their ids are pairwise distinct. -/
structure Sound (scenarios : Collection) : Prop where
  each : ∀ scenario ∈ scenarios, scenario.IsSound
  ids : scenarios.ids.Nodup

theorem mem_ids_iff {scenarios : Collection} {id : Text} :
    id ∈ scenarios.ids ↔ ∃ scenario ∈ scenarios, scenario.id = id := List.mem_map

theorem isSome_byId?_iff {scenarios : Collection} {id : Text} :
    (scenarios.byId? id).isSome = true ↔ id ∈ scenarios.ids := by
  rw [byId?, List.find?_isSome, mem_ids_iff]
  simp only [decide_eq_true_eq]

theorem ids_remove_sublist (scenarios : Collection) (id : Text) :
    (scenarios.remove id).ids.Sublist scenarios.ids := List.Sublist.map _ List.filter_sublist

theorem mem_ids_remove {scenarios : Collection} {id other : Text} :
    other ∈ (scenarios.remove id).ids ↔ other ∈ scenarios.ids ∧ other ≠ id := by
  simp only [mem_ids_iff, mem_remove]
  constructor
  · rintro ⟨scenario, ⟨hMem, hOther⟩, rfl⟩
    exact ⟨⟨scenario, hMem, rfl⟩, hOther⟩
  · rintro ⟨⟨scenario, hMem, rfl⟩, hOther⟩
    exact ⟨scenario, ⟨hMem, hOther⟩, rfl⟩

/-- What one operation on a collection did: one scenario has a new title and content, the scenarios
with one id are gone, or scenarios with the next ids of the source have been added at the end. -/
inductive Change (before : Collection) (source : IdSource) : Collection → IdSource → Prop where
  | updated (id title content : Text) (hTitle : Text.isAllBlank title = false)
      (hContent : Text.isAllBlank content = false) :
      Change before source (before.update id title content) source
  | removed (id : Text) : Change before source (before.remove id) source
  | added (others : Collection) (hIds : others.ids = source.ids others.length)
      (hTitles : ∀ scenario ∈ others, Text.isAllBlank scenario.title = false)
      (hContents : ∀ scenario ∈ others, Text.isAllBlank scenario.content = false) :
      Change before source (before ++ others) (source.skip others.length)

/-- Saving a text replaces the scenario that is being edited, if it is there, and adds one otherwise.
Only a blank text is not saved. -/
theorem save_spec {scenarios after : Collection} {source left : IdSource} {editing : Option Text}
    {text : Text} (h : scenarios.save source editing text = some (after, left)) :
    Change scenarios source after left := by
  unfold save at h
  dsimp only at h
  split at h
  · cases h
  · next hText =>
      have hTitle := Block.isAllBlank_titleOf (Text.trim text)
      have hContent := Text.isAllBlank_trim_of_ne_nil hText
      split at h
      · cases h
        exact .updated _ _ _ hTitle hContent
      · cases h
        refine .added [⟨source.id, Block.titleOf (Text.trim text), Text.trim text⟩] rfl ?_ ?_
        · intro scenario hMem
          rw [List.mem_singleton.mp hMem]
          exact hTitle
        · intro scenario hMem
          rw [List.mem_singleton.mp hMem]
          exact hContent

/-- Merging adds scenarios under the next ids, each with the title of a block and its trimmed
content. -/
theorem merge_spec (scenarios : Collection) (source : IdSource) (blocks : List Block) :
    ∃ others : Collection, scenarios.merge source blocks = (scenarios ++ others, source.skip others.length) ∧
      others.ids = source.ids others.length ∧
      ∀ scenario ∈ others, scenario.content ≠ [] ∧
        ∃ block ∈ blocks, scenario.title = block.title ∧ scenario.content = Text.trim block.content := by
  induction blocks generalizing scenarios source with
  | nil => exact ⟨[], by rw [merge, List.append_nil]; rfl, rfl, nofun⟩
  | cons block blocks ih =>
      unfold merge
      dsimp only
      by_cases hKnown : Text.trim block.content = [] ∨
          scenarios.contents.contains (Text.trim block.content) = true
      · rw [if_pos hKnown]
        obtain ⟨others, hMerge, hIds, hEach⟩ := ih scenarios source
        refine ⟨others, hMerge, hIds, fun scenario hMem => ?_⟩
        obtain ⟨hContent, other, hBlock, hSame⟩ := hEach scenario hMem
        exact ⟨hContent, other, List.mem_cons_of_mem _ hBlock, hSame⟩
      · rw [if_neg hKnown]
        obtain ⟨others, hMerge, hIds, hEach⟩ :=
          ih (scenarios ++ [⟨source.id, block.title, Text.trim block.content⟩]) source.advance
        refine ⟨⟨source.id, block.title, Text.trim block.content⟩ :: others, ?_, ?_, ?_⟩
        · rw [hMerge, List.append_assoc, List.singleton_append, List.length_cons, IdSource.skip_succ]
        · rw [List.length_cons, IdSource.ids_succ, ← hIds]
          rfl
        · intro scenario hMem
          rcases List.mem_cons.mp hMem with rfl | hLater
          · exact ⟨fun hNil => hKnown (.inl hNil), block, List.mem_cons_self, rfl, rfl⟩
          · obtain ⟨hContent, other, hBlock, hSame⟩ := hEach scenario hLater
            exact ⟨hContent, other, List.mem_cons_of_mem _ hBlock, hSame⟩

theorem change_merge (scenarios : Collection) (source : IdSource) (text : Text) :
    Change scenarios source (scenarios.merge source (Block.ofText text)).1
      (scenarios.merge source (Block.ofText text)).2 := by
  obtain ⟨others, hMerge, hIds, hEach⟩ := merge_spec scenarios source (Block.ofText text)
  rw [hMerge]
  refine .added others hIds ?_ ?_
  · intro scenario hMem
    obtain ⟨_, block, hBlock, hTitle, _⟩ := hEach scenario hMem
    rw [hTitle, Block.title_of_mem_ofText hBlock]
    exact Block.isAllBlank_titleOf _
  · intro scenario hMem
    obtain ⟨hContent, block, _, _, hTrim⟩ := hEach scenario hMem
    rw [hTrim] at hContent ⊢
    exact Text.isAllBlank_trim_of_ne_nil hContent

/-- The scenarios that a later collection holds beyond the places of an earlier one. -/
def addedSince (before after : Collection) : Collection := after.drop before.length

theorem addedSince_update (scenarios : Collection) (id title content : Text) :
    addedSince scenarios (scenarios.update id title content) = [] := by
  rw [addedSince, ← length_update scenarios id title content, List.drop_length]

theorem addedSince_remove (scenarios : Collection) (id : Text) :
    addedSince scenarios (scenarios.remove id) = [] :=
  List.drop_of_length_le (List.length_filter_le _ _)

theorem addedSince_append (scenarios others : Collection) :
    addedSince scenarios (scenarios ++ others) = others := List.drop_left

namespace Change

variable {before after : Collection} {source left : IdSource}

theorem left_eq (h : Change before source after left) :
    left = source.skip (left.next - source.next) := by
  cases h with
  | updated => rw [Nat.sub_self, IdSource.skip_zero]
  | removed => rw [Nat.sub_self, IdSource.skip_zero]
  | added others => rw [IdSource.next_skip, Nat.add_sub_cancel_left]

/-- The ids after a change are ids from before it and ids that it took. -/
theorem mem_ids (h : Change before source after left) {id : Text} (hMem : id ∈ after.ids) :
    id ∈ before.ids ∨ id ∈ source.ids (left.next - source.next) := by
  cases h with
  | updated id title content => exact .inl (by rwa [ids, ids_update] at hMem)
  | removed id => exact .inl (mem_ids_remove.mp hMem).1
  | added others hIds =>
      rw [IdSource.next_skip, Nat.add_sub_cancel_left, ← hIds]
      rwa [ids, List.map_append, List.mem_append] at hMem

/-- Distinct ids stay distinct exactly if no added scenario has the id of one that was there. -/
theorem nodup_ids_iff (h : Change before source after left) (hIds : before.ids.Nodup) :
    after.ids.Nodup ↔ ∀ scenario ∈ addedSince before after, scenario.id ∉ before.ids := by
  cases h with
  | updated id title content =>
      rw [addedSince_update, ids, ids_update]
      exact ⟨fun _ => nofun, fun _ => hIds⟩
  | removed id =>
      rw [addedSince_remove]
      exact ⟨fun _ => nofun, fun _ => (ids_remove_sublist before id).nodup hIds⟩
  | added others hTaken =>
      have hNew : (others.map Scenario.id).Nodup := by
        rw [show others.map Scenario.id = source.ids others.length from hTaken]
        exact IdSource.nodup_ids source others.length
      rw [addedSince_append, ids, List.map_append, List.nodup_append]
      constructor
      · rintro ⟨_, _, hApart⟩ scenario hMem hOld
        exact hApart _ hOld _ (List.mem_map.mpr ⟨scenario, hMem, rfl⟩) rfl
      · intro hApart
        refine ⟨hIds, hNew, ?_⟩
        rintro id hOld _ hOther rfl
        obtain ⟨scenario, hMem, rfl⟩ := List.mem_map.mp hOther
        exact hApart scenario hMem hOld

theorem mem_ids_of_mem_addedSince (h : Change before source after left) {scenario : Scenario}
    (hMem : scenario ∈ addedSince before after) :
    scenario.id ∈ source.ids (left.next - source.next) := by
  cases h with
  | updated id title content =>
      rw [addedSince_update] at hMem
      cases hMem
  | removed id =>
      rw [addedSince_remove] at hMem
      cases hMem
  | added others hIds =>
      rw [addedSince_append] at hMem
      rw [IdSource.next_skip, Nat.add_sub_cancel_left, ← hIds]
      exact mem_ids_iff.mpr ⟨scenario, hMem, rfl⟩

theorem isSound_of_mem (h : Change before source after left)
    (hBefore : ∀ scenario ∈ before, scenario.IsSound) :
    ∀ scenario ∈ after, scenario.IsSound := by
  intro scenario hMem
  cases h with
  | updated id title content hTitle hContent =>
      obtain ⟨older, hOlder, rfl⟩ := List.mem_map.mp hMem
      have hSound := hBefore older hOlder
      split
      · exact ⟨hSound.id, hTitle, hContent⟩
      · exact hSound
  | removed id => exact hBefore scenario (mem_remove.mp hMem).1
  | added others hIds hTitles hContents =>
      rcases List.mem_append.mp hMem with hOld | hNew
      · exact hBefore scenario hOld
      · have hId : scenario.id ∈ source.ids others.length := by
          rw [← hIds]
          exact mem_ids_iff.mpr ⟨scenario, hNew, rfl⟩
        exact ⟨IdSource.ne_nil_of_mem_ids hId, hTitles scenario hNew, hContents scenario hNew⟩

/-- A sound collection stays sound if none of the ids that are taken is in use. -/
theorem sound (h : Change before source after left) (hBefore : before.Sound)
    (hFresh : ∀ id ∈ source.ids (left.next - source.next), id ∉ before.ids) : after.Sound := by
  refine ⟨h.isSound_of_mem hBefore.each, (h.nodup_ids_iff hBefore.ids).mpr ?_⟩
  intro scenario hMem
  exact hFresh _ (h.mem_ids_of_mem_addedSince hMem)

end Change

end Collection

end ScenarioDesk
