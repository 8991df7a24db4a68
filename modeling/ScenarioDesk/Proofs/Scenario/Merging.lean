import ScenarioDesk.Proofs.Scenario.Ids
import ScenarioDesk.Proofs.Text.Lines
import ScenarioDesk.Scenario.Collection

/-! What merging adds to a collection. The blocks that become scenarios are found by one pass over all
blocks in which nothing but the trimmed contents counts, those that are there and those that come up on
the way. -/
namespace ScenarioDesk.Collection

/-- The blocks that are new to some trimmed contents: of those with the same trimmed content the first,
and none that is blank. -/
def fresh (known : List Text) : List Block → List Block
  | [] => []
  | block :: blocks =>
    if Text.trim block.content = [] ∨ Text.trim block.content ∈ known then fresh known blocks
    else block :: fresh (known ++ [Text.trim block.content]) blocks

theorem contents_append_singleton (scenarios : Collection) (id title content : Text) :
    contents (scenarios ++ [⟨id, title, Text.trim content⟩]) = scenarios.contents ++ [Text.trim content] := by
  simp [contents]

/-- The scenarios that merging adds have the titles and the trimmed contents of the new blocks. -/
theorem merge_eq (scenarios : Collection) (source : IdSource) (blocks : List Block) :
    ∃ others : Collection, (scenarios.merge source blocks).1 = scenarios ++ others ∧
      others.map Scenario.title = (fresh scenarios.contents blocks).map Block.title ∧
      others.map Scenario.content =
        (fresh scenarios.contents blocks).map fun block => Text.trim block.content := by
  induction blocks generalizing scenarios source with
  | nil => exact ⟨[], by simp [merge], rfl, rfl⟩
  | cons block blocks ih =>
      rw [merge, fresh]
      simp only [List.contains_iff_mem]
      split
      · exact ih scenarios source
      · obtain ⟨others, hMerge, hTitles, hContents⟩ :=
          ih (scenarios ++ [⟨source.id, block.title, Text.trim block.content⟩]) source.advance
        rw [contents_append_singleton] at hTitles hContents
        refine ⟨⟨source.id, block.title, Text.trim block.content⟩ :: others, ?_, ?_, ?_⟩
        · rw [hMerge, List.append_assoc, List.singleton_append]
        · rw [List.map_cons, List.map_cons, hTitles]
        · rw [List.map_cons, List.map_cons, hContents]

theorem fresh_sublist (known : List Text) (blocks : List Block) :
    (fresh known blocks).Sublist blocks := by
  induction blocks generalizing known with
  | nil => exact .slnil
  | cons block blocks ih =>
      rw [fresh]
      split
      · exact .cons _ (ih known)
      · exact .cons_cons _ (ih _)

/-- Nothing is new exactly if every trimmed content is blank or there. -/
theorem fresh_eq_nil_iff {known : List Text} {blocks : List Block} :
    fresh known blocks = [] ↔
      ∀ block ∈ blocks, Text.trim block.content = [] ∨ Text.trim block.content ∈ known := by
  induction blocks with
  | nil => simp [fresh]
  | cons block blocks ih =>
      rw [fresh, List.forall_mem_cons]
      split
      · next hKnown => rw [ih, and_iff_right hKnown]
      · next hNew => simp [hNew]

/-- All blocks are new if none is blank and no trimmed content comes twice. -/
theorem fresh_eq_self {known : List Text} {blocks : List Block}
    (hContent : ∀ block ∈ blocks, Text.trim block.content ≠ [])
    (hDistinct : (known ++ blocks.map fun block => Text.trim block.content).Nodup) :
    fresh known blocks = blocks := by
  induction blocks generalizing known with
  | nil => rfl
  | cons block blocks ih =>
      obtain ⟨hHead, hRest⟩ := List.forall_mem_cons.mp hContent
      have hNew : Text.trim block.content ∉ known := by
        intro hKnown
        exact (List.nodup_append.mp hDistinct).2.2 _ hKnown _ List.mem_cons_self rfl
      rw [fresh, if_neg (not_or.mpr ⟨hHead, hNew⟩), ih hRest]
      rwa [List.append_assoc, List.singleton_append]

theorem addedBy_eq (scenarios : Collection) (source : IdSource) (blocks : List Block) :
    scenarios.addedBy source blocks = (fresh scenarios.contents blocks).length := by
  obtain ⟨others, hMerge, hTitles, _⟩ := merge_eq scenarios source blocks
  have hLength := congrArg List.length hTitles
  rw [List.length_map, List.length_map] at hLength
  rw [addedBy, hMerge, List.length_append, Nat.add_sub_cancel_left, hLength]

/-- Merging adds nothing exactly if every block is blank or repeats a content. -/
theorem addedBy_eq_zero_iff {scenarios : Collection} {source : IdSource} {blocks : List Block} :
    scenarios.addedBy source blocks = 0 ↔
      ∀ block ∈ blocks, Text.trim block.content = [] ∨ Text.trim block.content ∈ scenarios.contents := by
  rw [addedBy_eq, List.length_eq_zero_iff, fresh_eq_nil_iff]

/-- Every block is blank, or known, or has the content of a new one. -/
theorem trim_mem_of_mem {known : List Text} {blocks : List Block} {block : Block} (h : block ∈ blocks) :
    Text.trim block.content = [] ∨ Text.trim block.content ∈ known ∨
      Text.trim block.content ∈ (fresh known blocks).map fun block => Text.trim block.content := by
  induction blocks generalizing known with
  | nil => cases h
  | cons first blocks ih =>
      rw [fresh]
      rcases List.mem_cons.mp h with rfl | hLater
      · split
        · next hKnown => exact hKnown.imp_right .inl
        · exact .inr (.inr List.mem_cons_self)
      · split
        · exact ih hLater
        · rcases @ih (known ++ [Text.trim first.content]) hLater with hBlank | hKnown | hNew
          · exact .inl hBlank
          · rcases List.mem_append.mp hKnown with hKnown | hFirst
            · exact .inr (.inl hKnown)
            · rw [List.mem_singleton.mp hFirst]
              exact .inr (.inr List.mem_cons_self)
          · exact .inr (.inr (List.mem_cons_of_mem _ hNew))

theorem contents_merge (scenarios : Collection) (source : IdSource) (blocks : List Block) :
    contents (scenarios.merge source blocks).1 = scenarios.contents ++
      (fresh scenarios.contents blocks).map fun block => Text.trim block.content := by
  obtain ⟨others, hMerge, _, hContents⟩ := merge_eq scenarios source blocks
  have hTrimmed : contents others =
      (fresh scenarios.contents blocks).map fun block => Text.trim block.content := by
    rw [contents, ← Function.comp_def Text.trim Scenario.content, ← List.map_map, hContents, List.map_map]
    exact List.map_congr_left fun block _ => Text.trim_trim block.content
  rw [hMerge, contents, List.map_append, ← contents, ← contents, hTrimmed]

/-- What has been merged is there from then on. -/
theorem trim_mem_contents_merge {scenarios : Collection} {source : IdSource} {blocks : List Block}
    {block : Block} (h : block ∈ blocks) : Text.trim block.content = [] ∨
      Text.trim block.content ∈ contents (scenarios.merge source blocks).1 := by
  rw [contents_merge, List.mem_append]
  exact trim_mem_of_mem h

/-- Blocks that are there already, or blank, are merged without any effect. -/
theorem merge_eq_self {scenarios : Collection} {source : IdSource} {blocks : List Block}
    (h : ∀ block ∈ blocks, Text.trim block.content = [] ∨ Text.trim block.content ∈ scenarios.contents) :
    scenarios.merge source blocks = (scenarios, source) := by
  induction blocks with
  | nil => rfl
  | cons block blocks ih =>
      obtain ⟨hFirst, hRest⟩ := List.forall_mem_cons.mp h
      rw [← List.contains_iff_mem] at hFirst
      rw [merge, if_pos hFirst, ih hRest]

end ScenarioDesk.Collection
