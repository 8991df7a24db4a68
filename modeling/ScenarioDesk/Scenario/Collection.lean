import ScenarioDesk.Scenario.Record

/-!
Collections of scenarios, in the order in which they were added. The operations return the new
collection and the id source from which new ids were taken; they do not touch records that they do
not name.
-/

namespace ScenarioDesk

/-- The saved scenarios, oldest first. -/
abbrev Collection := List Scenario

namespace Collection

/-- The first scenario with an id. -/
def byId? (scenarios : Collection) (id : Text) : Option Scenario :=
  scenarios.find? fun scenario => scenario.id = id

/-- The scenarios with a new title and content for every one with an id. -/
def update (scenarios : Collection) (id title content : Text) : Collection :=
  scenarios.map fun scenario =>
    if scenario.id = id then { scenario with title := title, content := content } else scenario

/-- The scenarios without those that have an id. -/
def remove (scenarios : Collection) (id : Text) : Collection :=
  scenarios.filter fun scenario => scenario.id ≠ id

/-- Saves a text, trimmed: in place of the scenario that is edited if there is one, else as a new
one. A blank text is not saved. -/
def save (scenarios : Collection) (source : IdSource) (editing : Option Text) (text : Text) :
    Option (Collection × IdSource) :=
  let content := Text.trim text
  if content = [] then none
  else
    let title := Block.titleOf content
    match editing.bind scenarios.byId? with
    | some edited => some (scenarios.update edited.id title content, source)
    | none => some (scenarios ++ [⟨source.id, title, content⟩], source.advance)

/-- The trimmed contents of the scenarios. -/
def contents (scenarios : Collection) : List Text :=
  scenarios.map fun scenario => Text.trim scenario.content

/-- Adds each block whose trimmed content is not blank and not there yet. A block that repeats an
earlier one of the same pass is not added again. -/
def merge (scenarios : Collection) (source : IdSource) : List Block → Collection × IdSource
  | [] => (scenarios, source)
  | block :: blocks =>
    let content := Text.trim block.content
    if content = [] ∨ scenarios.contents.contains content then merge scenarios source blocks
    else merge (scenarios ++ [⟨source.id, block.title, content⟩]) source.advance blocks

/-- How many scenarios merging some blocks adds. -/
def addedBy (scenarios : Collection) (source : IdSource) (blocks : List Block) : Nat :=
  (scenarios.merge source blocks).1.length - scenarios.length

/-- All contents as one text, with an empty line between neighbours. -/
def exportText (scenarios : Collection) : Text :=
  Text.join "\n\n" (scenarios.map Scenario.content)

theorem mem_of_byId? {scenarios : Collection} {id : Text} {scenario : Scenario}
    (h : scenarios.byId? id = some scenario) : scenario ∈ scenarios ∧ scenario.id = id :=
  ⟨List.mem_of_find?_eq_some h, by simpa using List.find?_some h⟩

@[simp] theorem mem_remove {scenarios : Collection} {id : Text} {scenario : Scenario} :
    scenario ∈ scenarios.remove id ↔ scenario ∈ scenarios ∧ scenario.id ≠ id := by
  simp [remove]

@[simp] theorem length_update (scenarios : Collection) (id title content : Text) :
    (scenarios.update id title content).length = scenarios.length := by simp [update]

/-- Updating keeps every id in its place. -/
theorem ids_update (scenarios : Collection) (id title content : Text) :
    (scenarios.update id title content).map Scenario.id = scenarios.map Scenario.id := by
  simp only [update, List.map_map, List.map_inj_left, Function.comp_apply]
  intro scenario _
  split <;> rfl

/-- Merging only adds at the end. -/
theorem prefix_merge (scenarios : Collection) (source : IdSource) (blocks : List Block) :
    scenarios <+: (scenarios.merge source blocks).1 := by
  induction blocks generalizing scenarios source with
  | nil => simp [merge]
  | cons block blocks ih =>
    unfold merge
    simp only
    split
    · exact ih _ _
    · exact (List.prefix_append _ _).trans (ih _ _)

end Collection

end ScenarioDesk
