import ScenarioDesk.Proofs.Gherkin.Grouping

/-! The blocks of a text. They are its groups of lines, of which only a blank first one without a header
is left out, so that no line with anything on it is lost, doubled or moved. -/
namespace ScenarioDesk.Block

theorem mem_of_mem_groupLines {lines group : List Text} {line : Text} (h : group ∈ groupLines lines)
    (hLine : line ∈ group) : line ∈ lines := by
  rw [← flatten_groupLines lines]
  exact List.mem_flatten.mpr ⟨group, h, hLine⟩

/-- A group is joined to a content and found again in it. -/
theorem lines_content_ofGroup {text : Text} {group : List Text}
    (h : group ∈ groupLines (Text.normalizedLines text)) :
    Text.lines (ofGroup group).content = group := by
  apply Text.lines_unlines (ne_nil_of_mem_groupLines h)
  intro line hLine
  exact Text.newline_not_mem_of_mem_lines (mem_of_mem_groupLines h hLine)

theorem all_isAllBlank_of_opens {group : List Text} (h : opens group = true) :
    group.all Text.isAllBlank = false := by
  cases group with
  | nil => cases h
  | cons line others =>
      cases hLine : Text.isAllBlank line with
      | false => simp [hLine]
      | true => exact absurd (isBoundary_of_isAllBlank hLine) (by simpa using h)

/-- Only the first group can be blank, and then it is no block. -/
theorem ofText_eq_map {text : Text} {group : List Text} {groups : List (List Text)}
    (h : groupLines (Text.normalizedLines text) = group :: groups) :
    ofText text =
      (if group.all Text.isAllBlank then groups else group :: groups).map ofGroup := by
  have hBlank : ∀ other : List Text,
      (!Text.isAllBlank (ofGroup other).content) = !other.all Text.isAllBlank := by
    intro other
    rw [ofGroup, Text.isAllBlank_unlines]
  have hHeaded := (cuts_groupLines (Text.normalizedLines text)).headed
  rw [h] at hHeaded
  have hRest : groups.filter (fun other => !other.all Text.isAllBlank) = groups := by
    refine List.filter_eq_self.mpr fun other hOther => ?_
    rw [all_isAllBlank_of_opens (hHeaded other hOther)]
    rfl
  rw [ofText, h, List.filter_map]
  simp only [Function.comp_def, hBlank, List.filter_cons, hRest]
  cases group.all Text.isAllBlank <;> rfl

/-- The groups of a text: there is a first one. -/
theorem exists_groupLines_eq_cons (text : Text) :
    ∃ group groups, groupLines (Text.normalizedLines text) = group :: groups := by
  cases h : groupLines (Text.normalizedLines text) with
  | nil =>
      have hFlatten := flatten_groupLines (Text.normalizedLines text)
      rw [h] at hFlatten
      exact absurd hFlatten.symm (Text.lines_ne_nil _)
  | cons group groups => exact ⟨group, groups, rfl⟩

section FirstGroup

variable {lines group : List Text} {groups : List (List Text)}

theorem Cuts.isBoundary_of_mem_lead (h : Cuts lines (group :: groups)) (hOpens : opens group = false) :
    ∀ line ∈ group, isBoundary line = false := by
  have hTail := h.whole group List.mem_cons_self
  cases group with
  | nil => exact nofun
  | cons line others => exact List.forall_mem_cons.mpr ⟨hOpens, hTail⟩

/-- The lines in front of the first header are the first group, unless that begins with a header. -/
theorem Cuts.takeWhile_eq (h : Cuts lines (group :: groups)) :
    lines.takeWhile (fun line => !isBoundary line) = if opens group then [] else group := by
  rw [← h.complete, List.flatten_cons]
  cases hOpens : opens group with
  | true =>
      cases group with
      | nil => cases hOpens
      | cons line others =>
          have hLine : isBoundary line = true := hOpens
          simp [hLine]
  | false =>
      have hLead := h.isBoundary_of_mem_lead hOpens
      have hStop : groups.flatten.takeWhile (fun line => !isBoundary line) = [] := by
        cases groups with
        | nil => rfl
        | cons next groups =>
            have hNext := h.headed next List.mem_cons_self
            cases next with
            | nil => cases hNext
            | cons line others =>
                have hLine : isBoundary line = true := hNext
                simp [hLine]
      rw [List.takeWhile_append_of_pos fun line hLine => by rw [hLead line hLine]; rfl, hStop]
      simp

/-- There is one group for each header, and one more if the first group has none. -/
theorem Cuts.length_eq (h : Cuts lines (group :: groups)) :
    groups.length + (if opens group then 1 else 0) = lines.countP isBoundary := by
  cases hOpens : opens group with
  | true => exact h.length_of_opens (h.opens_eq.trans hOpens)
  | false =>
      have hLead : group.countP isBoundary = 0 :=
        List.countP_eq_zero.mpr fun line hLine => by
          rw [h.isBoundary_of_mem_lead hOpens line hLine]
          exact nofun
      rw [← h.complete, List.flatten_cons, List.countP_append, hLead]
      cases groups with
      | nil => rfl
      | cons next groups =>
          have hNext : opens (next :: groups).flatten = true :=
            h.tail.opens_eq.trans (h.headed next List.mem_cons_self)
          rw [← h.tail.length_of_opens hNext]
          simp

end FirstGroup

/-- There is a block for each header, and one more exactly if something stands in front of the first
header. -/
theorem length_ofText_eq_iff (text : Text) :
    (ofText text).length = (Text.normalizedLines text).countP isBoundary + 1 ↔
      ∃ line ∈ (Text.normalizedLines text).takeWhile (fun line => !isBoundary line),
        Text.isAllBlank line = false := by
  obtain ⟨group, groups, h⟩ := exists_groupLines_eq_cons text
  have hCuts := cuts_groupLines (Text.normalizedLines text)
  rw [h] at hCuts
  rw [ofText_eq_map h, hCuts.takeWhile_eq, ← hCuts.length_eq, List.length_map]
  cases hOpens : opens group with
  | true => simp [all_isAllBlank_of_opens hOpens]
  | false =>
      cases hBlank : group.all Text.isAllBlank with
      | true => simpa using hBlank
      | false => simpa using hBlank

/-- The lines of the blocks that have anything on them are those of the text, in order. -/
theorem flatMap_lines_ofText (text : Text) :
    (ofText text).flatMap
        (fun block => (Text.lines block.content).filter fun line => !Text.isAllBlank line) =
      (Text.normalizedLines text).filter fun line => !Text.isAllBlank line := by
  obtain ⟨group, groups, h⟩ := exists_groupLines_eq_cons text
  have hLines : ∀ some : List (List Text), some ⊆ group :: groups →
      (some.map ofGroup).flatMap
          (fun block => (Text.lines block.content).filter fun line => !Text.isAllBlank line) =
        some.flatten.filter fun line => !Text.isAllBlank line := by
    intro some hSome
    rw [List.flatMap_map, List.filter_flatten, List.flatMap_def]
    refine congrArg List.flatten (List.map_congr_left fun other hOther => ?_)
    rw [lines_content_ofGroup (h ▸ hSome hOther)]
  rw [ofText_eq_map h, ← flatten_groupLines (Text.normalizedLines text), h]
  cases hBlank : group.all Text.isAllBlank with
  | false => exact hLines _ (List.Subset.refl _)
  | true =>
      have hGroup : group.filter (fun line => !Text.isAllBlank line) = [] := by
        simpa using hBlank
      rw [if_pos rfl, hLines _ (List.subset_cons_self _ _), List.flatten_cons, List.filter_append,
        hGroup, List.nil_append]

/-- Cutting a text into blocks loses nothing. Its lines are cut in front of every header and nowhere
else: the groups, put one after the other, are the lines, none is empty, each but the first begins with
a header and none holds a header further down. The blocks are these groups, each joined to one content,
but for a first one that is blank, which has no header. Whatever the text is, there are as many blocks as
headers, or one more exactly if a line that is not blank stands in front of the first header; and the
lines that are not blank stand in the blocks one by one in the order in which they stand in the text. -/
theorem blocks_partition_lines (text : Text) :
    Cuts (Text.normalizedLines text) (groupLines (Text.normalizedLines text)) ∧
    ((ofText text = (groupLines (Text.normalizedLines text)).map ofGroup ∧
        ∀ group ∈ groupLines (Text.normalizedLines text), group.all Text.isAllBlank = false) ∨
      ∃ lead groups, groupLines (Text.normalizedLines text) = lead :: groups ∧
        (∀ line ∈ lead, Text.isAllBlank line = true ∧ isBoundary line = false) ∧
        ofText text = groups.map ofGroup) ∧
    ((ofText text).length = (Text.normalizedLines text).countP isBoundary + 1 ↔
      ∃ line ∈ (Text.normalizedLines text).takeWhile (fun line => !isBoundary line),
        Text.isAllBlank line = false) ∧
    (ofText text).flatMap
        (fun block => (Text.lines block.content).filter fun line => !Text.isAllBlank line) =
      (Text.normalizedLines text).filter fun line => !Text.isAllBlank line := by
  refine ⟨cuts_groupLines _, ?_, length_ofText_eq_iff text, flatMap_lines_ofText text⟩
  obtain ⟨group, groups, h⟩ := exists_groupLines_eq_cons text
  have hHeaded := (cuts_groupLines (Text.normalizedLines text)).headed
  rw [h] at hHeaded
  rw [ofText_eq_map h, h]
  cases hBlank : group.all Text.isAllBlank with
  | false =>
      refine .inl ⟨rfl, List.forall_mem_cons.mpr ⟨hBlank, fun other hOther => ?_⟩⟩
      exact all_isAllBlank_of_opens (hHeaded other hOther)
  | true =>
      refine .inr ⟨group, groups, rfl, fun line hLine => ?_, rfl⟩
      have hLineBlank := List.all_eq_true.mp hBlank line hLine
      exact ⟨hLineBlank, isBoundary_of_isAllBlank hLineBlank⟩

end ScenarioDesk.Block
