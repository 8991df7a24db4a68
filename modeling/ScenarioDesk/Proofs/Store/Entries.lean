import ScenarioDesk.Proofs.Scenario.Soundness
import ScenarioDesk.Session.Store

/-! What loading takes from the entries of a stored array. Whatever the entries are, the scenarios
taken form a sound collection; of the entries that a collection was stored as, exactly those are left
out that could not be told apart or shown. -/
namespace ScenarioDesk

theorem Json.bind_text?_eq_some_iff {found : Option Json} {content : Text} :
    found.bind Json.text? = some content ↔ found = some (.string content) := by
  simp [Option.bind_eq_some_iff, Json.text?_eq_some_iff]

namespace Scenario

/-- The title is the stored one, which has to be a string that is not blank; where there is none such, it
is taken from the content. -/
def IsTitleIn (entry : Json) (content title : Text) : Prop :=
  (entry.field? "title" = some (.string title) ∧ Text.isAllBlank title = false) ∨
  ((∀ stored, entry.field? "title" = some (.string stored) → Text.isAllBlank stored = true) ∧
    title = Block.titleOf content)

theorem storedTitle_eq_iff {entry : Json} {content title : Text} :
    storedTitle entry content = title ↔ IsTitleIn entry content title := by
  unfold storedTitle IsTitleIn
  cases hTitle : (entry.field? "title").bind Json.text? with
  | none =>
      have hNone : ∀ stored, entry.field? "title" ≠ some (.string stored) := by
        intro stored hStored
        rw [Json.bind_text?_eq_some_iff.mpr hStored] at hTitle
        cases hTitle
      simpa [hNone] using eq_comm
  | some stored =>
      have hOnly : ∀ other, entry.field? "title" = some (.string other) ↔ stored = other := by
        intro other
        rw [Json.bind_text?_eq_some_iff.mp hTitle, Option.some.injEq, Json.string.injEq]
      simp only [hOnly, forall_eq']
      cases hBlank : Text.isAllBlank stored with
      | true =>
          constructor
          · intro hOwn
            exact .inr ⟨rfl, hOwn.symm⟩
          · rintro (⟨rfl, hShown⟩ | ⟨_, hOwn⟩)
            · rw [hBlank] at hShown
              cases hShown
            · exact hOwn.symm
      | false =>
          constructor
          · rintro rfl
            exact .inl ⟨rfl, hBlank⟩
          · rintro (⟨hSame, _⟩ | ⟨hNone, _⟩)
            · exact hSame
            · cases hNone

/-- The entry holds the scenario: it is an object with the id and the content of the scenario as strings,
the id not empty and the content not blank, and the title is the one to keep. -/
structure IsStoredAs (scenario : Scenario) (entry : Json) : Prop where
  id : entry.field? "id" = some (.string scenario.id)
  id_ne_nil : scenario.id ≠ []
  content : entry.field? "content" = some (.string scenario.content)
  content_not_blank : Text.isAllBlank scenario.content = false
  title : IsTitleIn entry scenario.content scenario.title

theorem ofJson?_eq_some_iff {entry : Json} {scenario : Scenario} :
    ofJson? entry = some scenario ↔ scenario.IsStoredAs entry := by
  constructor
  · intro h
    unfold ofJson? at h
    split at h
    · next id content hId hContent =>
        split at h
        · cases h
        · next hUsable =>
            obtain ⟨hSome, hShown⟩ := not_or.mp hUsable
            cases h
            exact ⟨Json.bind_text?_eq_some_iff.mp hId, hSome, Json.bind_text?_eq_some_iff.mp hContent,
              Bool.eq_false_iff.mpr hShown, storedTitle_eq_iff.mp rfl⟩
    · cases h
  · intro h
    have hId := Json.bind_text?_eq_some_iff.mpr h.id
    have hContent := Json.bind_text?_eq_some_iff.mpr h.content
    have hUsable : ¬ (scenario.id = [] ∨ Text.isAllBlank scenario.content = true) :=
      not_or.mpr ⟨h.id_ne_nil, Bool.eq_false_iff.mp h.content_not_blank⟩
    simp only [ofJson?, hId, hContent]
    rw [if_neg hUsable, storedTitle_eq_iff.mpr h.title]

theorem ofJson?_eq_none_iff {entry : Json} :
    ofJson? entry = none ↔ ∀ scenario : Scenario, ¬ scenario.IsStoredAs entry := by
  simp only [Option.eq_none_iff_forall_ne_some, ne_eq, ofJson?_eq_some_iff]

/-- An entry holds one scenario at most. -/
theorem IsStoredAs.unique {entry : Json} {first second : Scenario} (hFirst : first.IsStoredAs entry)
    (hSecond : second.IsStoredAs entry) : first = second :=
  Option.some.inj ((ofJson?_eq_some_iff.mpr hFirst).symm.trans (ofJson?_eq_some_iff.mpr hSecond))

theorem ofJson?_isSound {entry : Json} {scenario : Scenario} (h : ofJson? entry = some scenario) :
    scenario.IsSound := by
  have hStored := ofJson?_eq_some_iff.mp h
  refine ⟨hStored.id_ne_nil, ?_, hStored.content_not_blank⟩
  rcases hStored.title with ⟨_, hShown⟩ | ⟨_, hTitle⟩
  · exact hShown
  · rw [hTitle]
    exact Block.isAllBlank_titleOf scenario.content

/-- Loading takes the scenario: it has an id and something to show. -/
def isUsable (scenario : Scenario) : Bool :=
  decide (scenario.id ≠ []) && !Text.isAllBlank scenario.content

/-- The scenario with a title from its content if its own is blank. -/
def titled (scenario : Scenario) : Scenario :=
  { scenario with
    title := if Text.isAllBlank scenario.title then Block.titleOf scenario.content
      else scenario.title }

theorem ofJson?_toJson (scenario : Scenario) :
    ofJson? scenario.toJson = if scenario.isUsable then some scenario.titled else none := by
  have hUsable : scenario.isUsable = true ↔
      ¬ (scenario.id = [] ∨ Text.isAllBlank scenario.content = true) := by
    rw [isUsable, Bool.and_eq_true, decide_eq_true_eq, Bool.not_eq_true', not_or,
      Bool.not_eq_true]
  have hStored : ofJson? scenario.toJson =
      if scenario.id = [] ∨ Text.isAllBlank scenario.content then none
      else some scenario.titled := rfl
  rw [hStored]
  by_cases h : scenario.id = [] ∨ Text.isAllBlank scenario.content = true
  · rw [if_pos h, if_neg fun hYes => hUsable.mp hYes h]
  · rw [if_neg h, if_pos (hUsable.mpr h)]

theorem IsSound.isUsable {scenario : Scenario} (h : scenario.IsSound) :
    scenario.isUsable = true := by
  rw [Scenario.isUsable, h.content, decide_eq_true h.id]
  rfl

theorem IsSound.titled_eq {scenario : Scenario} (h : scenario.IsSound) :
    scenario.titled = scenario := by
  rw [titled, h.title]
  rfl

end Scenario

namespace Collection

/-- The scenarios have the same id. -/
def sameId (first second : Scenario) : Bool := first.id == second.id

/-- The first of the usable scenarios with each id, in order, with a title each. -/
def kept (scenarios : Collection) : Collection :=
  ((scenarios.filter Scenario.isUsable).eraseDupsBy sameId).map Scenario.titled

theorem eraseDupsBy_of_nodup {scenarios : Collection} (h : scenarios.ids.Nodup) :
    scenarios.eraseDupsBy sameId = scenarios := by
  induction scenarios with
  | nil => rfl
  | cons scenario scenarios ih =>
      obtain ⟨hNew, hRest⟩ := List.nodup_cons.mp h
      have hFilter : scenarios.filter (fun later => sameId later scenario = false) = scenarios := by
        refine List.filter_eq_self.mpr fun later hMem => ?_
        rw [decide_eq_true_eq, sameId, beq_eq_false_iff_ne]
        intro hSame
        exact hNew (mem_ids_iff.mpr ⟨later, hMem, hSame⟩)
      rw [List.eraseDupsBy_cons, hFilter, ih hRest]

/-- Nothing has to be left out of a sound collection. -/
theorem kept_of_sound {scenarios : Collection} (h : scenarios.Sound) : scenarios.kept = scenarios := by
  have hFilter : scenarios.filter Scenario.isUsable = scenarios :=
    List.filter_eq_self.mpr fun scenario hMem => (h.each scenario hMem).isUsable
  have hTitles : scenarios.map Scenario.titled = scenarios.map id :=
    List.map_congr_left fun scenario hMem => (h.each scenario hMem).titled_eq
  rw [kept, hFilter, eraseDupsBy_of_nodup h.ids, hTitles, List.map_id]

/-- Leaving out what has the id of an earlier scenario leaves no id out. -/
theorem ids_subset_eraseDupsBy (scenarios : Collection) :
    scenarios.ids ⊆ Collection.ids (scenarios.eraseDupsBy sameId) := by
  match scenarios with
  | [] => exact List.Subset.refl _
  | scenario :: scenarios =>
      intro id hMem
      rw [List.eraseDupsBy_cons]
      by_cases hId : id = scenario.id
      · rw [hId]
        exact List.mem_cons_self
      · refine List.mem_cons_of_mem _ (ids_subset_eraseDupsBy _ ?_)
        obtain ⟨other, hOther, rfl⟩ := mem_ids_iff.mp hMem
        refine mem_ids_iff.mpr ⟨other, List.mem_filter.mpr ⟨?_, ?_⟩, rfl⟩
        · exact (List.mem_cons.mp hOther).resolve_left fun hSame => hId (congrArg Scenario.id hSame)
        · rw [decide_eq_true_eq, sameId, beq_eq_false_iff_ne]
          exact hId
termination_by scenarios.length
decreasing_by exact Nat.lt_succ_of_le (List.length_filter_le _ _)

/-- No id of a sound scenario is left out. -/
theorem ids_subset_kept {scenarios : Collection} (h : ∀ scenario ∈ scenarios, scenario.IsSound) :
    scenarios.ids ⊆ scenarios.kept.ids := by
  have hFilter : scenarios.filter Scenario.isUsable = scenarios :=
    List.filter_eq_self.mpr fun scenario hMem => (h scenario hMem).isUsable
  have hIds : scenarios.kept.ids = Collection.ids (scenarios.eraseDupsBy sameId) := by
    rw [kept, hFilter, ids, List.map_map]
    rfl
  rw [hIds]
  exact ids_subset_eraseDupsBy scenarios

end Collection

namespace Store

/-- The scenarios taken from entries under some taken ids are sound, and their ids are new. -/
theorem fates_sound (taken : List Text) (entries : List Json) :
    Collection.Sound ((fates taken entries).filterMap EntryFate.scenario?) ∧
      ∀ id ∈ Collection.ids ((fates taken entries).filterMap EntryFate.scenario?), id ∉ taken := by
  induction entries generalizing taken with
  | nil => exact ⟨⟨nofun, List.nodup_nil⟩, nofun⟩
  | cons entry entries ih =>
      unfold fates
      cases hEntry : Scenario.ofJson? entry with
      | none => exact ih taken
      | some scenario =>
          dsimp only
          by_cases hTaken : taken.contains scenario.id = true
          · rw [if_pos hTaken]
            exact ih taken
          · rw [if_neg hTaken]
            obtain ⟨hRest, hNew⟩ := ih (scenario.id :: taken)
            refine ⟨⟨?_, ?_⟩, ?_⟩
            · intro other hMem
              rcases List.mem_cons.mp hMem with rfl | hLater
              · exact Scenario.ofJson?_isSound hEntry
              · exact hRest.each other hLater
            · refine List.nodup_cons.mpr ⟨?_, hRest.ids⟩
              intro hMem
              exact hNew _ hMem List.mem_cons_self
            · intro id hMem
              rcases List.mem_cons.mp hMem with rfl | hLater
              · intro hOld
                exact hTaken (List.contains_iff_mem.mpr hOld)
              · exact fun hOld => hNew id hLater (List.mem_cons_of_mem _ hOld)

theorem accepted_sound (entries : List Json) : (accepted entries).Sound := (fates_sound [] entries).1

theorem filter_taken_cons (scenario : Scenario) (taken : List Text) (scenarios : Collection) :
    (scenarios.filter fun later => !(scenario.id :: taken).contains later.id) =
      (scenarios.filter fun later => !taken.contains later.id).filter fun later =>
        Collection.sameId later scenario = false := by
  rw [List.filter_filter]
  refine List.filter_congr fun later _ => ?_
  rw [List.contains_cons, Bool.not_or, Collection.sameId]
  cases later.id == scenario.id with
  | true => rfl
  | false => rfl

/-- Reading the stored forms of scenarios back, when some ids are taken. The induction is on the
scenarios; each one that is kept takes its id away from those behind it. -/
theorem fates_map_toJson (taken : List Text) (scenarios : Collection) :
    (fates taken (scenarios.map Scenario.toJson)).filterMap EntryFate.scenario? =
      (((scenarios.filter Scenario.isUsable).filter fun scenario =>
        !taken.contains scenario.id).eraseDupsBy Collection.sameId).map Scenario.titled := by
  induction scenarios generalizing taken with
  | nil => rfl
  | cons scenario scenarios ih =>
      rw [List.map_cons]
      unfold fates
      rw [Scenario.ofJson?_toJson]
      by_cases hUsable : scenario.isUsable = true
      · rw [if_pos hUsable, List.filter_cons_of_pos hUsable]
        dsimp only
        have hId : scenario.titled.id = scenario.id := rfl
        rw [hId]
        by_cases hTaken : taken.contains scenario.id = true
        · rw [if_pos hTaken, List.filter_cons_of_neg (by rw [hTaken]; exact nofun)]
          exact ih taken
        · have hFree : taken.contains scenario.id = false := Bool.eq_false_iff.mpr hTaken
          rw [if_neg hTaken, List.filter_cons, hFree, Bool.not_false, if_pos rfl,
            List.eraseDupsBy_cons, List.map_cons, ← filter_taken_cons]
          exact congrArg (scenario.titled :: ·) (ih (scenario.id :: taken))
      · rw [if_neg hUsable, List.filter_cons_of_neg hUsable]
        exact ih taken

/-- Of the stored forms of a collection exactly the scenarios worth keeping are taken. -/
theorem accepted_map_toJson (scenarios : Collection) :
    accepted (scenarios.map Scenario.toJson) = scenarios.kept := by
  rw [accepted, fates_map_toJson, Collection.kept]
  congr 2
  exact List.filter_eq_self.mpr fun scenario _ => rfl

end Store

end ScenarioDesk
