import ScenarioDesk.Proofs.Scenario.Merging

/-! Merging as a union in order. One pass carries the contents it has seen along with the scenarios, so
two passes in a row, of which the second gathers the contents anew, do what one pass over all blocks does.
The ids may come from any supply. -/
namespace ScenarioDesk

/-- The next ids of a supply, in the order in which they are drawn, and what is left of it. -/
def draws {Supply : Type} (draw : Supply → Text × Supply) : (count : Nat) → Supply → List Text × Supply
  | 0, supply => ([], supply)
  | count + 1, supply =>
      let (id, left) := draw supply
      let (ids, rest) := draws draw count left
      (id :: ids, rest)

theorem length_draws {Supply : Type} (draw : Supply → Text × Supply) (count : Nat) (supply : Supply) :
    (draws draw count supply).1.length = count := by
  induction count generalizing supply with
  | zero => rfl
  | succ count ih => rw [draws, List.length_cons, ih]

/-- The supply of ids that the program itself draws from. -/
def IdSource.draw (source : IdSource) : Text × IdSource := (source.id, source.advance)

namespace Block

/-- The content as it is stored. -/
def trimmed (block : Block) : Text := Text.trim block.content

/-- The scenario that is stored for a block. -/
def stored (id : Text) (block : Block) : Scenario := ⟨id, block.title, block.trimmed⟩

/-- Both blocks would be stored with the same content. -/
def sameContent (block other : Block) : Bool := block.trimmed == other.trimmed

/-- The block is not blank, and its content is none of the known ones. -/
def isNew (known : List Text) (block : Block) : Bool :=
  decide (block.trimmed ≠ [] ∧ block.trimmed ∉ known)

theorem isNew_append_singleton (known : List Text) (first block : Block) :
    isNew (known ++ [first.trimmed]) block = (!sameContent block first && isNew known block) := by
  rw [Bool.eq_iff_iff]
  simp only [isNew, sameContent, List.mem_append, List.mem_singleton, decide_eq_true_eq, not_or,
    Bool.and_eq_true, Bool.not_eq_true', beq_eq_false_iff_ne]
  tauto

end Block

namespace Collection

/-- What is new of some blocks: of those with the same content the first. -/
theorem fresh_eq (known : List Text) (blocks : List Block) :
    fresh known blocks = (blocks.filter (Block.isNew known)).eraseDupsBy Block.sameContent := by
  induction blocks generalizing known with
  | nil => rfl
  | cons block blocks ih =>
      have hIff : block.isNew known = true ↔
          ¬ (Text.trim block.content = [] ∨ Text.trim block.content ∈ known) := by
        rw [Block.isNew, decide_eq_true_eq, not_or]
        rfl
      rw [fresh]
      split
      · next hKnown =>
          rw [ih, List.filter_cons_of_neg fun hNew => hIff.mp hNew hKnown]
      · next hNew =>
          have hRest : Block.isNew (known ++ [Text.trim block.content]) =
              fun other => !Block.sameContent other block && Block.isNew known other :=
            funext (Block.isNew_append_singleton known block)
          rw [ih, hRest, List.filter_cons_of_pos (hIff.mpr hNew), List.eraseDupsBy_cons,
            List.filter_filter]
          simp only [Bool.decide_eq_false]

/-- A pass over blocks that is under way: the scenarios so far, the contents that it knows of, how many
scenarios it has added, and what is left of the supply of ids. -/
structure Pass (Supply : Type) where
  scenarios : Collection
  known : List Text
  added : Nat
  supply : Supply

section AnySupply

variable {Supply : Type} (draw : Supply → Text × Supply)

namespace Pass

/-- A pass in front of its first block. -/
def start (scenarios : Collection) (supply : Supply) : Pass Supply :=
  ⟨scenarios, scenarios.contents, 0, supply⟩

/-- The pass after one more block. -/
def step (pass : Pass Supply) (block : Block) : Pass Supply :=
  if block.trimmed = [] ∨ block.trimmed ∈ pass.known then pass
  else
    let (id, left) := draw pass.supply
    { scenarios := pass.scenarios ++ [⟨id, block.title, block.trimmed⟩]
      known := pass.known ++ [block.trimmed]
      added := pass.added + 1
      supply := left }

/-- The pass after some blocks. -/
def run (pass : Pass Supply) (blocks : List Block) : Pass Supply := blocks.foldl (step draw) pass

variable (pass : Pass Supply)

/-- A block that is blank or known changes nothing. -/
theorem step_of_known {block : Block} (h : block.trimmed = [] ∨ block.trimmed ∈ pass.known) :
    pass.step draw block = pass := if_pos h

theorem step_of_new {block : Block} (h : ¬ (block.trimmed = [] ∨ block.trimmed ∈ pass.known)) :
    pass.step draw block =
      ⟨pass.scenarios ++ [⟨(draw pass.supply).1, block.title, block.trimmed⟩],
        pass.known ++ [block.trimmed], pass.added + 1, (draw pass.supply).2⟩ := if_neg h

theorem run_append (first second : List Block) :
    pass.run draw (first ++ second) = (pass.run draw first).run draw second := List.foldl_append

/-- A pass adds the new blocks, each under the next id, and takes no other ids. -/
theorem run_eq (blocks : List Block) :
    pass.run draw blocks =
      ⟨pass.scenarios ++ List.zipWith Block.stored
          (draws draw (fresh pass.known blocks).length pass.supply).1 (fresh pass.known blocks),
        pass.known ++ (fresh pass.known blocks).map Block.trimmed,
        pass.added + (fresh pass.known blocks).length,
        (draws draw (fresh pass.known blocks).length pass.supply).2⟩ := by
  induction blocks generalizing pass with
  | nil => simp [run, fresh, draws]
  | cons block blocks ih =>
      rw [run, List.foldl_cons, ← run, fresh]
      split
      · next hKnown => rw [step_of_known draw pass hKnown, ih]
      · next hNew =>
          have hCount : ∀ count, pass.added + 1 + count = pass.added + (count + 1) := by omega
          rw [step_of_new draw pass hNew, ih, List.length_cons, draws]
          simp [hCount, Block.stored, Block.trimmed]

/-- A step keeps to the scenarios with what it knows. -/
theorem known_step {pass : Pass Supply} (h : pass.known = pass.scenarios.contents) (block : Block) :
    (pass.step draw block).known = (pass.step draw block).scenarios.contents := by
  by_cases hKnown : block.trimmed = [] ∨ block.trimmed ∈ pass.known
  · rwa [step_of_known draw pass hKnown]
  · rw [step_of_new draw pass hKnown, h]
    exact (contents_append_singleton pass.scenarios _ _ block.content).symm

theorem known_run {pass : Pass Supply} (h : pass.known = pass.scenarios.contents) (blocks : List Block) :
    (pass.run draw blocks).known = (pass.run draw blocks).scenarios.contents := by
  induction blocks generalizing pass with
  | nil => exact h
  | cons block blocks ih => exact ih (known_step draw h block)

end Pass

/-- The pass over some blocks that begins with a collection. -/
def mergeWith (scenarios : Collection) (supply : Supply) (blocks : List Block) : Pass Supply :=
  (Pass.start scenarios supply).run draw blocks

variable (scenarios : Collection) (supply : Supply)

theorem mergeWith_eq (blocks : List Block) :
    scenarios.mergeWith draw supply blocks =
      ⟨scenarios ++ List.zipWith Block.stored
          (draws draw (fresh scenarios.contents blocks).length supply).1 (fresh scenarios.contents blocks),
        scenarios.contents ++ (fresh scenarios.contents blocks).map Block.trimmed,
        (fresh scenarios.contents blocks).length,
        (draws draw (fresh scenarios.contents blocks).length supply).2⟩ := by
  rw [mergeWith, Pass.run_eq, Pass.start]
  simp only [Nat.zero_add]

/-- A pass that knows the contents of its scenarios goes on like one that gathers them anew. -/
theorem Pass.run_eq_mergeWith {pass : Pass Supply} (h : pass.known = pass.scenarios.contents)
    (blocks : List Block) :
    pass.run draw blocks =
      let rest := pass.scenarios.mergeWith draw pass.supply blocks
      { rest with added := pass.added + rest.added } := by
  rw [Pass.run_eq, mergeWith_eq, h]

theorem mergeWith_append (first second : List Block) :
    scenarios.mergeWith draw supply (first ++ second) =
      let front := scenarios.mergeWith draw supply first
      let back := front.scenarios.mergeWith draw front.supply second
      { back with added := front.added + back.added } := by
  rw [mergeWith, Pass.run_append, Pass.run_eq_mergeWith draw (Pass.known_run draw rfl first)]
  rfl

/-- Nothing of what a pass has seen is new to the next one. -/
theorem fresh_contents_mergeWith (blocks : List Block) :
    fresh (scenarios.mergeWith draw supply blocks).scenarios.contents blocks = [] := by
  have hKnown : (scenarios.mergeWith draw supply blocks).known = _ := Pass.known_run draw rfl blocks
  rw [← mergeWith] at hKnown
  rw [← hKnown, mergeWith_eq, fresh_eq_nil_iff]
  intro block hBlock
  rw [List.mem_append]
  exact trim_mem_of_mem hBlock

end AnySupply

theorem merge_eq_run {pass : Pass IdSource} (h : pass.known = pass.scenarios.contents)
    (blocks : List Block) :
    pass.scenarios.merge pass.supply blocks =
      ((pass.run IdSource.draw blocks).scenarios, (pass.run IdSource.draw blocks).supply) := by
  induction blocks generalizing pass with
  | nil => rfl
  | cons block blocks ih =>
      rw [Pass.run, List.foldl_cons, ← Pass.run, ← ih (Pass.known_step IdSource.draw h block), merge]
      simp only [List.contains_iff_mem, ← h]
      by_cases hKnown : block.trimmed = [] ∨ block.trimmed ∈ pass.known
      · rw [Pass.step_of_known IdSource.draw pass hKnown]
        exact if_pos hKnown
      · rw [Pass.step_of_new IdSource.draw pass hKnown]
        exact if_neg hKnown

/-- The program merges by such a pass, under ids of its own. -/
theorem merge_eq_mergeWith (scenarios : Collection) (source : IdSource) (blocks : List Block) :
    scenarios.merge source blocks =
      ((scenarios.mergeWith IdSource.draw source blocks).scenarios,
        (scenarios.mergeWith IdSource.draw source blocks).supply) :=
  @merge_eq_run (Pass.start scenarios source) rfl blocks

theorem addedBy_eq_added (scenarios : Collection) (source : IdSource) (blocks : List Block) :
    scenarios.addedBy source blocks = (scenarios.mergeWith IdSource.draw source blocks).added := by
  rw [addedBy_eq, mergeWith_eq]

/-- Merging keeps the collection and adds to its end, in order, the first block of each content that is
not blank and that no scenario of the collection has, with the title of that block and the trimmed content.
It counts what it adds, and draws as many ids, whatever supply these come from. To merge the same blocks
into the result again adds nothing and draws no id. To merge two lists one after the other gives what
merging both at once gives, and the counts add up. The program's own merging is the case where the ids are
those that it makes. -/
theorem merging_is_union_in_order {Supply : Type} (draw : Supply → Text × Supply) (supply : Supply)
    (scenarios : Collection) (blocks first second : List Block) :
    (let new := (blocks.filter (Block.isNew scenarios.contents)).eraseDupsBy Block.sameContent
      let merged := scenarios.mergeWith draw supply blocks
      merged.added = new.length ∧
      ∃ ids, draws draw new.length supply = (ids, merged.supply) ∧ ids.length = new.length ∧
        merged.scenarios = scenarios ++ List.zipWith Block.stored ids new) ∧
    (let merged := (scenarios.mergeWith draw supply blocks).scenarios
      ∀ other, merged.mergeWith draw other blocks = Pass.start merged other) ∧
    (scenarios.mergeWith draw supply (first ++ second) =
      let front := scenarios.mergeWith draw supply first
      let back := front.scenarios.mergeWith draw front.supply second
      { back with added := front.added + back.added }) ∧
    ∀ source : IdSource,
      let merged := scenarios.mergeWith IdSource.draw source blocks
      scenarios.merge source blocks = (merged.scenarios, merged.supply) ∧
        scenarios.addedBy source blocks = merged.added := by
  refine ⟨?_, fun other => ?_, mergeWith_append draw scenarios supply first second, fun source =>
    ⟨merge_eq_mergeWith scenarios source blocks, addedBy_eq_added scenarios source blocks⟩⟩
  · rw [← fresh_eq, mergeWith_eq]
    exact ⟨rfl, _, rfl, length_draws draw _ supply, rfl⟩
  · rw [mergeWith_eq, fresh_contents_mergeWith]
    simp [draws, Pass.start]

end Collection
end ScenarioDesk
