import ScenarioDesk.Gherkin.Block
import ScenarioDesk.Proofs.Text.Lines

/-! How lines are cut into groups. Four properties say what a cut is: no line is lost, no group is empty,
no group goes on behind a header, and every group but the first begins with one. There is exactly one
cut of given lines, so a cut is found by checking these. -/
namespace ScenarioDesk.Block

@[simp] theorem isBoundary_trim (line : Text) : isBoundary (Text.trim line) = isBoundary line := by
  simp [isBoundary]

theorem isBoundary_of_isAllBlank {line : Text} (h : Text.isAllBlank line = true) :
    isBoundary line = false := by
  rw [isBoundary, Text.trim_eq_nil_iff.mpr h]
  rfl

/-- There is a first line, and it opens a scenario. -/
def opens (lines : List Text) : Bool := lines.head?.any isBoundary

@[simp] theorem opens_cons (line : Text) (others : List Text) :
    opens (line :: others) = isBoundary line := rfl

theorem opens_append {first : List Text} (h : first ≠ []) (second : List Text) :
    opens (first ++ second) = opens first := by
  obtain ⟨line, others, rfl⟩ := List.exists_cons_of_ne_nil h
  rfl

/-- The groups are the lines cut in front of every header, and nowhere else. -/
structure Cuts (lines : List Text) (groups : List (List Text)) : Prop where
  complete : groups.flatten = lines
  nonempty : ∀ group ∈ groups, group ≠ []
  whole : ∀ group ∈ groups, ∀ line ∈ group.tail, isBoundary line = false
  headed : ∀ group ∈ groups.tail, opens group = true

theorem Cuts.opens_eq {lines group : List Text} {groups : List (List Text)}
    (h : Cuts lines (group :: groups)) : opens lines = opens group := by
  rw [← h.complete, List.flatten_cons, opens_append (h.nonempty group List.mem_cons_self)]

theorem Cuts.headed_of_opens {lines : List Text} {groups : List (List Text)} (h : Cuts lines groups)
    (hOpens : opens lines = true) : ∀ group ∈ groups, opens group = true := by
  cases groups with
  | nil => exact nofun
  | cons group groups =>
      rw [h.opens_eq] at hOpens
      exact List.forall_mem_cons.mpr ⟨hOpens, h.headed⟩

theorem Cuts.eq_nil {lines : List Text} (h : Cuts lines []) : lines = [] := h.complete.symm

theorem groupLines_cons {lines : List Text} (h : Cuts lines (groupLines lines)) (line : Text) :
    groupLines (line :: lines) = if opens lines then [line] :: groupLines lines
      else match groupLines lines with
        | [] => [[line]]
        | group :: groups => (line :: group) :: groups := by
  rw [groupLines]
  cases hGroups : groupLines lines with
  | nil =>
      rw [hGroups] at h
      simp [h.eq_nil]
  | cons group groups =>
      rw [hGroups] at h
      obtain ⟨head, tail, rfl⟩ :=
        List.exists_cons_of_ne_nil (h.nonempty group List.mem_cons_self)
      rw [h.opens_eq]
      rfl

namespace Cuts

variable {lines : List Text} {group : List Text} {groups : List (List Text)}

theorem cons_opens (h : Cuts lines groups) (hOpens : opens lines = true) (line : Text) :
    Cuts (line :: lines) ([line] :: groups) where
  complete := by rw [List.flatten_cons, h.complete, List.singleton_append]
  nonempty := List.forall_mem_cons.mpr ⟨by simp, h.nonempty⟩
  whole := List.forall_mem_cons.mpr ⟨nofun, h.whole⟩
  headed := h.headed_of_opens hOpens

theorem cons_joins (h : Cuts lines (group :: groups)) (hOpens : opens lines = false) (line : Text) :
    Cuts (line :: lines) ((line :: group) :: groups) where
  complete := by rw [← h.complete, List.flatten_cons, List.flatten_cons, List.cons_append]
  nonempty := List.forall_mem_cons.mpr ⟨by simp, (List.forall_mem_cons.mp h.nonempty).2⟩
  whole := by
    obtain ⟨hGroup, hGroups⟩ := List.forall_mem_cons.mp h.whole
    refine List.forall_mem_cons.mpr ⟨?_, hGroups⟩
    rw [h.opens_eq] at hOpens
    cases group with
    | nil => exact nofun
    | cons head tail => exact List.forall_mem_cons.mpr ⟨hOpens, hGroup⟩
  headed := h.headed

theorem tail (h : Cuts lines (group :: groups)) : Cuts groups.flatten groups where
  complete := rfl
  nonempty := (List.forall_mem_cons.mp h.nonempty).2
  whole := (List.forall_mem_cons.mp h.whole).2
  headed := fun other hOther => h.headed other (List.mem_of_mem_tail hOther)

end Cuts

/-- Grouping cuts the lines. -/
theorem cuts_groupLines (lines : List Text) : Cuts lines (groupLines lines) := by
  induction lines with
  | nil => exact ⟨rfl, nofun, nofun, nofun⟩
  | cons line lines ih =>
      rw [groupLines_cons ih]
      cases hOpens : opens lines with
      | true => exact ih.cons_opens hOpens line
      | false =>
          cases hGroups : groupLines lines with
          | nil =>
              rw [hGroups] at ih
              rw [ih.eq_nil]
              exact ⟨rfl, by simp, by simp, nofun⟩
          | cons group groups =>
              rw [hGroups] at ih
              exact ih.cons_joins hOpens line

/-- There is no other cut. -/
theorem Cuts.eq_groupLines {lines : List Text} {groups : List (List Text)} (h : Cuts lines groups) :
    groups = groupLines lines := by
  induction lines generalizing groups with
  | nil =>
      cases groups with
      | nil => rfl
      | cons group groups =>
          obtain ⟨hGroup, _⟩ := List.append_eq_nil_iff.mp h.complete
          exact absurd hGroup (h.nonempty group List.mem_cons_self)
  | cons line lines ih =>
      cases groups with
      | nil => exact absurd h.complete (by simp)
      | cons group groups =>
          obtain ⟨head, tail, rfl⟩ :=
            List.exists_cons_of_ne_nil (h.nonempty group List.mem_cons_self)
          obtain ⟨rfl, hLines⟩ := List.cons.inj h.complete
          rw [groupLines_cons (cuts_groupLines lines)]
          cases tail with
          | nil =>
              obtain rfl : groups.flatten = lines := hLines
              have hTail := h.tail
              cases groups with
              | nil => rfl
              | cons next groups =>
                  rw [hTail.opens_eq, h.headed next List.mem_cons_self, ← ih hTail]
                  rfl
          | cons next tail =>
              -- the rest of the first group goes on with a line that is no header
              have hRest : Cuts lines ((next :: tail) :: groups) :=
                { complete := hLines
                  nonempty := List.forall_mem_cons.mpr ⟨by simp, h.tail.nonempty⟩
                  whole := List.forall_mem_cons.mpr
                    ⟨fun other hOther => h.whole _ List.mem_cons_self other
                      (List.mem_cons_of_mem _ hOther), h.tail.whole⟩
                  headed := h.headed }
              have hNext : opens lines = false := by
                rw [hRest.opens_eq]
                exact h.whole _ List.mem_cons_self next List.mem_cons_self
              rw [hNext, ← ih hRest]
              rfl

theorem Cuts.append {first second : List Text} {groups others : List (List Text)}
    (hFirst : Cuts first groups) (hSecond : Cuts second others) (hOpens : opens second = true) :
    Cuts (first ++ second) (groups ++ others) where
  complete := by rw [List.flatten_append, hFirst.complete, hSecond.complete]
  nonempty := List.forall_mem_append.mpr ⟨hFirst.nonempty, hSecond.nonempty⟩
  whole := List.forall_mem_append.mpr ⟨hFirst.whole, hSecond.whole⟩
  headed := by
    have hOthers := hSecond.headed_of_opens hOpens
    cases groups with
    | nil => exact hSecond.headed
    | cons group groups => exact List.forall_mem_append.mpr ⟨hFirst.headed, hOthers⟩

/-- Lines of which none but the first is a header stay together. -/
theorem Cuts.singleton {line : Text} {others : List Text}
    (h : ∀ other ∈ others, isBoundary other = false) : Cuts (line :: others) [line :: others] :=
  ⟨by simp, by simp, by simpa using h, nofun⟩

/-- The groups begin with as many headers as there are among the lines; the first group may do without. -/
theorem Cuts.length_of_opens {lines : List Text} {groups : List (List Text)} (h : Cuts lines groups)
    (hOpens : opens lines = true) : groups.length = lines.countP isBoundary := by
  have hOne : ∀ group ∈ groups, group.countP isBoundary = 1 := by
    intro group hGroup
    have hHead := h.headed_of_opens hOpens group hGroup
    have hTail := h.whole group hGroup
    cases group with
    | nil => cases hHead
    | cons line others =>
        have hLine : isBoundary line = true := hHead
        rw [List.countP_cons_of_pos hLine, List.countP_eq_zero.mpr]
        simpa using hTail
  rw [← h.complete, List.countP_flatten, List.map_congr_left hOne, List.map_const',
    List.sum_replicate_nat, Nat.mul_one]

end ScenarioDesk.Block
