import ScenarioDesk.Proofs.Session.Editing
import ScenarioDesk.Proofs.Session.Reimport
import ScenarioDesk.Proofs.Text.Newlines

/-! Importing the same text again. What an import sees of a text is its lines between the outer blanks, so
it makes no difference how the lines end and what blanks surround them. What it has once brought in stays
known as long as nothing is deleted or replaced. -/
namespace ScenarioDesk.Session

section

variable [Runtime]

/-- Texts that agree up to their line ends and their outer blanks are imported alike. -/
theorem importText_congr {text other : Text} (h : Text.trim (Text.normalizeNewlines text) =
    Text.trim (Text.normalizeNewlines other)) : importText text = importText other := by
  have hBlank : Text.isAllBlank text = Text.isAllBlank other := by
    rw [← Text.isAllBlank_normalizeNewlines text, ← Text.isAllBlank_normalizeNewlines other,
      ← Text.isAllBlank_trim, h, Text.isAllBlank_trim]
  have hBlocks : Block.ofText (Text.trim text) = Block.ofText (Text.trim other) := by
    rw [Block.ofText, Block.ofText, Text.normalizedLines, Text.normalizedLines,
      ← Text.trim_normalizeNewlines, ← Text.trim_normalizeNewlines, h]
  unfold importText
  rw [hBlank, hBlocks]

/-- The collection has every block of the text, up to outer blanks. -/
def Knows (scenarios : Collection) (text : Text) : Prop :=
  ∀ block ∈ Block.ofText (Text.trim text), Text.trim block.content ∈ scenarios.contents

/-- Nothing happens when a text is imported that the collection has. -/
theorem importText_of_knows {session : Session} {text : Text} (hText : Text.isAllBlank text = false)
    (h : Knows session.scenarios text) : importText text session = .ok .nothingNew session := by
  have hMerge := @Collection.merge_eq_self session.scenarios session.host.ids _ fun block hBlock =>
    .inr (h block hBlock)
  rw [importText_apply hText hMerge, if_pos (Nat.sub_self _)]

omit [Runtime] in
theorem isContent_trim_ne_nil {text : Text} {block : Block} (h : block ∈ Block.ofText text) :
    Text.trim block.content ≠ [] := by
  intro hNil
  have hInked := (Block.isContent_of_mem_ofText h).trim.inked
  rw [hNil] at hInked
  cases hInked

/-- After an import without an error the collection has the text. -/
theorem knows_of_importText {session after : Session} {text : Text} {notice : Notice}
    (hRun : importText text session = .ok notice after) (hNotice : notice.isError = false) :
    Text.isAllBlank text = false ∧ Knows after.scenarios text := by
  cases hText : Text.isAllBlank text with
  | true =>
      rw [importText, if_pos hText] at hRun
      cases hRun
      cases hNotice
  | false =>
      refine ⟨rfl, fun block hBlock => ?_⟩
      have hMerged := (@Collection.trim_mem_contents_merge session.scenarios session.host.ids _ _
        hBlock).resolve_left (isContent_trim_ne_nil hBlock)
      obtain ⟨others, hSplit, _⟩ := Collection.merge_eq session.scenarios session.host.ids
        (Block.ofText (Text.trim text))
      cases hMerge : session.scenarios.merge session.host.ids (Block.ofText (Text.trim text)) with
      | mk scenarios ids =>
          rw [hMerge] at hMerged hSplit
          dsimp only at hMerged hSplit
          rw [importText_apply hText hMerge] at hRun
          split at hRun
          · next hAdded =>
              cases hRun
              rw [hSplit, List.length_append, Nat.add_sub_cancel_left, List.length_eq_zero_iff] at hAdded
              rwa [hSplit, hAdded, List.append_nil] at hMerged
          · rw [commit_apply] at hRun
            dsimp only at hRun
            cases hWrite : Disk.writeAtomically session.store (Store.render scenarios) session.host.disk with
            | ok answer disk =>
                rw [hWrite] at hRun
                cases hRun
                exact hMerged
            | error error disk =>
                rw [hWrite] at hRun
                cases error with
                | system refusal =>
                    cases hRun
                    cases hNotice
                | nulInPath => cases hRun
                | unencodable fault => cases hRun

/-- The request takes no scenario away and replaces none: it is no deletion, and a save only while nothing
is being edited. -/
def OnlyAdds (session : Session) : Request → Prop
  | .delete _ => False
  | .save _ => session.editing = none
  | _ => True

/-- Each of the requests only adds to what the requests before it have left. -/
def OnlyAddThroughout : Session → List Request → Prop
  | _, [] => True
  | session, request :: requests =>
    OnlyAdds session request ∧ OnlyAddThroughout (after session request) requests

/-- Saving leaves the collection as it is or takes over the one with the text in it. -/
theorem scenarios_after_save (text : Text) (session : Session) :
    (after session (.save text)).scenarios = session.scenarios ∨
      ∃ ids, session.scenarios.save session.host.ids session.editing text =
        some ((after session (.save text)).scenarios, ids) := by
  rw [after_eq, perform, stateAfter_map, save, bind_apply, get_apply]
  dsimp only
  cases hSave : session.scenarios.save session.host.ids session.editing text with
  | none => exact .inl rfl
  | some found =>
      obtain ⟨scenarios, ids⟩ := found
      dsimp only
      rw [bind_apply, setIds_apply]
      dsimp only
      rw [bind_apply, commit_apply]
      dsimp only
      cases Disk.writeAtomically session.store (Store.render scenarios) session.host.disk with
      | ok answer disk => exact .inr ⟨ids, rfl⟩
      | error error disk =>
          cases error with
          | system refusal => exact .inl rfl
          | nulInPath => exact .inl rfl
          | unencodable fault => exact .inl rfl

omit [Runtime] in
theorem prefix_of_eq {before after : Session} (h : after.scenarios = before.scenarios) :
    before.scenarios <+: after.scenarios := ⟨[], (List.append_nil _).trans h.symm⟩

theorem prefix_after_save {session : Session} (h : session.editing = none) (text : Text) :
    session.scenarios <+: (after session (.save text)).scenarios := by
  rcases scenarios_after_save text session with hSame | ⟨ids, hSaved⟩
  · exact prefix_of_eq hSame
  · rw [h, Collection.save] at hSaved
    dsimp only at hSaved
    split at hSaved
    · cases hSaved
    · rw [← (Prod.mk.inj (Option.some.inj hSaved)).1]
      exact List.prefix_append _ _

theorem prefix_after_importText (session : Session) (text : Text) :
    session.scenarios <+: (stateAfter (importText text session)).scenarios := by
  have hAfter := scenarios_after_importText text session
  rw [after_eq, perform, stateAfter_map] at hAfter
  rcases hAfter with hSame | hMerged
  · exact prefix_of_eq hSame
  · rw [hMerged]
    exact Collection.prefix_merge _ _ _

/-- A request that only adds keeps the scenarios that are there, each in its place. -/
theorem prefix_after {session : Session} {request : Request} (h : OnlyAdds session request) :
    session.scenarios <+: (after session request).scenarios := by
  cases request with
  | save text => exact prefix_after_save h text
  | delete id => exact h.elim
  | importText text =>
      rw [after_eq, perform, stateAfter_map]
      exact prefix_after_importText session text
  | importFile path =>
      have hRead := readImportFile_spec path session
      rw [after_eq, perform, stateAfter_map, importFile, bind_apply]
      cases hRun : readImportFile path session with
      | error failure next =>
          rw [hRun] at hRead
          exact prefix_of_eq hRead.scenarios
      | ok answer next =>
          rw [hRun] at hRead
          cases answer with
          | ok text =>
              obtain rfl : next = session := hRead
              exact prefix_after_importText next text
          | error notice => exact prefix_of_eq hRead.2.scenarios
  | exportTo path =>
      have hExport := exportTo_spec path session
      rw [after_eq, perform, stateAfter_map]
      cases hRun : exportTo path session with
      | error failure next =>
          rw [hRun] at hExport
          exact prefix_of_eq hExport.scenarios
      | ok notice next =>
          rw [hRun] at hExport
          rcases hExport with ⟨_, hUntouched⟩ | ⟨_, hExported⟩
          · exact prefix_of_eq hUntouched.scenarios
          · exact prefix_of_eq hExported.scenarios
  | readImportFile path =>
      have hRead := readImportFile_spec path session
      rw [after_eq, perform, stateAfter_map]
      cases hRun : readImportFile path session with
      | error failure next =>
          rw [hRun] at hRead
          exact prefix_of_eq hRead.scenarios
      | ok answer next =>
          rw [hRun] at hRead
          cases answer with
          | ok text => exact prefix_of_eq (congrArg Session.scenarios hRead)
          | error notice => exact prefix_of_eq hRead.2.scenarios
  | beginEdit id =>
      rw [after_eq, perform, stateAfter_map, beginEdit_apply]
      cases session.find? id with
      | none => exact List.prefix_rfl
      | some scenario => exact List.prefix_rfl
  | cancelEdit => exact List.prefix_rfl
  | find id => exact List.prefix_rfl
  | vocabulary => exact List.prefix_rfl
  | suggest snapshot => exact List.prefix_rfl

theorem prefix_run {session : Session} {requests : List Request} (h : OnlyAddThroughout session requests) :
    session.scenarios <+: (session.run requests).scenarios := by
  induction requests generalizing session with
  | nil => exact List.prefix_rfl
  | cons request requests ih => exact (prefix_after h.1).trans (ih h.2)

omit [Runtime] in
theorem Knows.of_prefix {before after : Collection} {text : Text} (h : Knows before text)
    (hPrefix : before <+: after) : Knows after text :=
  fun block hBlock => (hPrefix.map _).subset (h block hBlock)

/-- Two texts that agree up to their line ends and their outer blanks are imported alike: from the same
state they lead to the same notice and the same session, the same collection with it, or to the same
failure. And once one of them has been imported without an error, the other brings nothing new: whatever
has been asked of the session in between, be it other imports, exports, saves while nothing was edited, or
requests that were refused, importing it says so and leaves the session as it is. Only a deletion or a save
of an edited scenario can make the text new again. -/
theorem import_ignores_line_ends_and_repeats {text other : Text}
    (h : Text.trim (Text.normalizeNewlines text) = Text.trim (Text.normalizeNewlines other))
    (session : Session) :
    importText text session = importText other session ∧
    ∀ notice imported, importText text session = .ok notice imported → notice.isError = false →
      ∀ requests, OnlyAddThroughout imported requests →
        importText other (imported.run requests) = .ok .nothingNew (imported.run requests) := by
  have hAlike := importText_congr h
  refine ⟨congrFun hAlike session, fun notice imported hRun hNotice requests hAdds => ?_⟩
  obtain ⟨hText, hKnows⟩ := knows_of_importText hRun hNotice
  rw [← hAlike]
  exact importText_of_knows hText (hKnows.of_prefix (prefix_run hAdds))

end

/-- Two scenarios with line ends of every kind, and the same two with line feeds only. -/
def mixedLineEnds : Text := "Scenario: A\r\nGiven x\r\rScenario: B"

def lineFeedsOnly : Text := " \n\nScenario: A\nGiven x\n\nScenario: B\n"

/-- They are the same to a session that has saved and imported other scenarios after the first import. -/
theorem line_feeds_are_recognised :
    ∃ imported, importText mixedLineEnds { store := ⟨.relative, ["scenarios.json"]⟩ } =
        .ok (.imported 2) imported ∧
      importText lineFeedsOnly (imported.run [.save "Given y", .importText "Scenario: C"]) =
        .ok .nothingNew (imported.run [.save "Given y", .importText "Scenario: C"]) ∧
      (imported.run [.save "Given y", .importText "Scenario: C"]).scenarios.length = 4 := by
  have hView : (answered? (importText mixedLineEnds { store := ⟨.relative, ["scenarios.json"]⟩ })).map
      (fun found => (found.1, found.2.editing,
        (found.2.run [.save "Given y", .importText "Scenario: C"]).scenarios.length)) =
      some (.imported 2, none, 4) := by decide +kernel
  obtain ⟨notice, imported, hRun, hValues⟩ := exists_of_answered hView
  obtain ⟨rfl, hRest⟩ := Prod.mk.inj hValues
  obtain ⟨hEditing, hLength⟩ := Prod.mk.inj hRest
  obtain ⟨_, hRepeats⟩ := import_ignores_line_ends_and_repeats
    (by decide +kernel : Text.trim (Text.normalizeNewlines mixedLineEnds) =
      Text.trim (Text.normalizeNewlines lineFeedsOnly)) { store := ⟨.relative, ["scenarios.json"]⟩ }
  exact ⟨imported, hRun, hRepeats _ imported hRun rfl _ ⟨hEditing, trivial, trivial⟩, hLength⟩

end ScenarioDesk.Session
