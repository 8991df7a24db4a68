import ScenarioDesk.Proofs.Gherkin.TrimmedTitles
import ScenarioDesk.Proofs.Session.Effects
import ScenarioDesk.Proofs.Session.Importing

/-! Saving a scenario and importing it. Both give it the same id and the same title. Saving keeps the line
ends within the text as they are, importing turns them into line feeds; so the contents agree for texts in
which no carriage return is left after trimming, and for no other ones. -/
namespace ScenarioDesk

namespace Block

/-- The text is one scenario: it is not blank, and no line behind its first one that is not blank opens
another block. -/
structure IsSingle (text : Text) : Prop where
  inked : Text.isAllBlank text = false
  lone : ∀ line ∈ ((Text.normalizedLines text).dropWhile Text.isAllBlank).tail, isBoundary line = false

/-- The first line of a trimmed text is not blank. -/
theorem exists_lines_eq_cons_of_trim {text : Text} (hText : text ≠ []) (hTrim : Text.trim text = text) :
    ∃ line others, Text.lines text = line :: others ∧ Text.isAllBlank line = false := by
  obtain ⟨hHead, _⟩ := Text.trim_eq_self_iff.mp hTrim
  cases text with
  | nil => exact absurd rfl hText
  | cons c rest =>
      have hInked : Text.isBlank c = false := hHead c rfl
      have hFeed : c ≠ '\n' := by
        rintro rfl
        cases hInked
      refine ⟨_, _, Text.lines_cons hFeed rest, ?_⟩
      rw [Text.isAllBlank, List.all_cons, hInked, Bool.false_and]

/-- Behind the first line of the trimmed text there are only lines that stand behind the first line of the
text that is not blank, up to their outer blanks. -/
theorem exists_mem_tail_dropWhile {text line : Text} (hText : Text.isAllBlank text = false)
    (h : line ∈ (Text.lines (Text.trim text)).tail) :
    ∃ other ∈ ((Text.lines text).dropWhile Text.isAllBlank).tail, Text.trim other = Text.trim line := by
  obtain ⟨above, below, hLines⟩ := Text.exists_map_trim_lines_eq text
  have hCore := Text.trim_ne_nil_iff.mpr hText
  obtain ⟨first, others, hFirst, hInked⟩ := exists_lines_eq_cons_of_trim hCore (Text.trim_trim text)
  rw [hFirst, List.tail_cons] at h
  have hBlank : Text.isAllBlank ∘ Text.trim = Text.isAllBlank := funext Text.isAllBlank_trim
  have hDrop : (((Text.lines text).map Text.trim).dropWhile Text.isAllBlank).tail =
      others.map Text.trim ++ List.replicate below [] := by
    rw [hLines, hFirst, List.append_assoc, List.dropWhile_append_of_pos (by simp [Text.isAllBlank]),
      List.map_cons, List.cons_append, List.dropWhile_cons_of_neg (by simp [Text.isAllBlank_trim, hInked]),
      List.tail_cons]
  rw [List.dropWhile_map, hBlank, ← List.map_tail] at hDrop
  have hMem : Text.trim line ∈ ((Text.lines text).dropWhile Text.isAllBlank).tail.map Text.trim := by
    rw [hDrop]
    exact List.mem_append_left _ (List.mem_map_of_mem h)
  exact List.mem_map.mp hMem

theorem titleOf_normalizeNewlines (content : Text) :
    titleOf (Text.normalizeNewlines content) = titleOf content := by
  rw [titleOf, titleOf, Text.normalizedLines, Text.normalizedLines,
    Text.normalizeNewlines_eq_self (Text.return_not_mem_normalizeNewlines content)]

/-- A text that is one scenario is cut into one block, which holds all of it. -/
theorem IsSingle.ofText_trim {text : Text} (h : IsSingle text) : ofText (Text.trim text) =
    [⟨titleOf (Text.trim text), Text.normalizeNewlines (Text.trim text)⟩] := by
  have hLone : ∀ line ∈ (Text.normalizedLines (Text.trim text)).tail, isBoundary line = false := by
    intro line hLine
    rw [Text.normalizedLines, ← Text.trim_normalizeNewlines] at hLine
    obtain ⟨other, hOther, hSame⟩ :=
      exists_mem_tail_dropWhile ((Text.isAllBlank_normalizeNewlines text).trans h.inked) hLine
    rw [← isBoundary_trim, ← hSame, isBoundary_trim, h.lone other hOther]
  have hGroups : groupLines (Text.normalizedLines (Text.trim text)) =
      [Text.normalizedLines (Text.trim text)] := by
    obtain ⟨line, others, hLines⟩ :=
      List.exists_cons_of_ne_nil (Text.lines_ne_nil (Text.normalizeNewlines (Text.trim text)))
    rw [Text.normalizedLines, hLines] at hLone ⊢
    exact (Cuts.singleton hLone).eq_groupLines.symm
  have hContent : Text.unlines (Text.normalizedLines (Text.trim text)) =
      Text.normalizeNewlines (Text.trim text) := Text.unlines_lines _
  have hInked : Text.isAllBlank (Text.normalizeNewlines (Text.trim text)) = false := by
    rw [Text.isAllBlank_normalizeNewlines, Text.isAllBlank_trim, h.inked]
  rw [ofText, hGroups, List.map_singleton, ofGroup, hContent, titleOf_normalizeNewlines,
    List.filter_cons_of_pos (by rw [hInked]; rfl), List.filter_nil]

end Block

namespace Session

variable {session : Session} {text : Text}

/-- The scenario that saving a text adds. -/
def savedRecord (session : Session) (text : Text) : Scenario :=
  ⟨session.host.ids.id, Block.titleOf (Text.trim text), Text.trim text⟩

/-- The scenario that importing a text adds which is one scenario. -/
def importedRecord (session : Session) (text : Text) : Scenario :=
  ⟨session.host.ids.id, Block.titleOf (Text.trim text), Text.normalizeNewlines (Text.trim text)⟩

section

variable [Runtime]

theorem exists_commit_iff {scenarios : Collection} :
    (∃ next, commit scenarios session = .ok none next) ↔
      scenarios.IsWhole ∧ session.host.disk.Accepts session.store := by
  rw [← Store.exists_write_eq_ok_iff, commit_apply]
  cases Disk.writeAtomically session.store (Store.render scenarios) session.host.disk with
  | ok answer disk => exact ⟨fun _ => ⟨disk, rfl⟩, fun _ => ⟨_, rfl⟩⟩
  | error error disk =>
      constructor
      · rintro ⟨next, h⟩
        cases error with
        | system refusal => cases h
        | nulInPath => cases h
        | unencodable fault => cases h
      · rintro ⟨written, h⟩
        cases h

omit [Runtime] in
theorem collection_save (hText : Block.IsSingle text) (hEditing : session.editing = none) :
    session.scenarios.save session.host.ids session.editing text =
      some (session.scenarios ++ [session.savedRecord text], session.host.ids.advance) := by
  rw [Collection.save, if_neg (Text.trim_ne_nil_iff.mpr hText.inked), hEditing]
  rfl

omit [Runtime] in
theorem collection_merge (hText : Block.IsSingle text)
    (hNew : Text.normalizeNewlines (Text.trim text) ∉ session.scenarios.contents) :
    session.scenarios.merge session.host.ids (Block.ofText (Text.trim text)) =
      (session.scenarios ++ [session.importedRecord text], session.host.ids.advance) := by
  have hTrim := Text.trim_normalizeNewlines_of_trimmed (Text.trim_trim text)
  have hCore : Text.normalizeNewlines (Text.trim text) ≠ [] := by
    rw [← hTrim, Text.trim_ne_nil_iff, Text.isAllBlank_normalizeNewlines, Text.isAllBlank_trim, hText.inked]
  rw [← List.contains_iff_mem] at hNew
  rw [hText.ofText_trim, Collection.merge]
  dsimp only
  rw [hTrim, if_neg (not_or.mpr ⟨hCore, hNew⟩)]
  rfl

/-- Importing one scenario that is new is one commit. -/
theorem importText_single (hText : Block.IsSingle text)
    (hNew : Text.normalizeNewlines (Text.trim text) ∉ session.scenarios.contents) :
    importText text session =
      match commit (session.scenarios ++ [session.importedRecord text])
          { session with host := { session.host with ids := session.host.ids.advance } } with
      | .ok none after => .ok (.imported 1) { after with
          host := { after.host with journal := after.host.journal ++ [.imported 1 1] } }
      | .ok (some error) after => .ok (.notWritten error) after
      | .error failure after => .error failure after := by
  have hBlocks : (Block.ofText (Text.trim text)).length = 1 := by rw [hText.ofText_trim]; rfl
  have hRun := importText_apply hText.inked (collection_merge hText hNew)
  rw [List.length_append, Nat.add_sub_cancel_left, List.length_singleton, if_neg Nat.one_ne_zero,
    hBlocks] at hRun
  exact hRun

omit [Runtime] in
/-- Both records can be stored, or neither: their contents differ in line ends at most. -/
theorem isWhole_append_records (session : Session) (text : Text) :
    Collection.IsWhole (session.scenarios ++ [session.importedRecord text]) ↔
      Collection.IsWhole (session.scenarios ++ [session.savedRecord text]) := by
  simp only [Collection.IsWhole, List.forall_mem_append, List.forall_mem_singleton, importedRecord,
    savedRecord, Text.isWhole_normalizeNewlines]

theorem exists_save_iff (hText : Block.IsSingle text) (hEditing : session.editing = none) :
    (∃ next, save text session = .ok .saved next) ↔
      Collection.IsWhole (session.scenarios ++ [session.savedRecord text]) ∧
        session.host.disk.Accepts session.store := by
  rw [← @exists_commit_iff { session with host := { session.host with ids := session.host.ids.advance } },
    save_apply (collection_save hText hEditing)]
  cases commit (session.scenarios ++ [session.savedRecord text])
      { session with host := { session.host with ids := session.host.ids.advance } } with
  | error failure next => simp
  | ok answer next =>
      cases answer with
      | some error => simp
      | none => simp [hEditing]

theorem exists_importText_iff (hText : Block.IsSingle text)
    (hNew : Text.normalizeNewlines (Text.trim text) ∉ session.scenarios.contents) :
    (∃ next, importText text session = .ok (.imported 1) next) ↔
      Collection.IsWhole (session.scenarios ++ [session.savedRecord text]) ∧
        session.host.disk.Accepts session.store := by
  rw [← isWhole_append_records,
    ← @exists_commit_iff { session with host := { session.host with ids := session.host.ids.advance } },
    importText_single hText hNew]
  cases commit (session.scenarios ++ [session.importedRecord text])
      { session with host := { session.host with ids := session.host.ids.advance } } with
  | error failure next => simp
  | ok answer next =>
      cases answer with
      | some error => simp
      | none => simp

theorem save_single_eq_ok {notice : Notice} {next : Session} (hText : Block.IsSingle text)
    (hEditing : session.editing = none) (h : save text session = .ok notice next)
    (hDone : notice.isError = false) :
    notice = .saved ∧ next.scenarios = session.scenarios ++ [session.savedRecord text] := by
  obtain ⟨⟨left, hSave⟩, _, hNotice⟩ := save_eq_ok h hDone
  rw [collection_save hText hEditing] at hSave
  rw [hEditing] at hNotice
  obtain ⟨hScenarios, _⟩ := Prod.mk.inj (Option.some.inj hSave)
  exact ⟨hNotice, hScenarios.symm⟩

theorem importText_single_eq_ok {notice : Notice} {next : Session} (hText : Block.IsSingle text)
    (hNew : Text.normalizeNewlines (Text.trim text) ∉ session.scenarios.contents)
    (h : importText text session = .ok notice next) (hDone : notice.isError = false) :
    notice = .imported 1 ∧ next.scenarios = session.scenarios ++ [session.importedRecord text] := by
  rw [importText_single hText hNew] at h
  cases hCommit : commit (session.scenarios ++ [session.importedRecord text])
      { session with host := { session.host with ids := session.host.ids.advance } } with
  | error failure middle =>
      rw [hCommit] at h
      cases h
  | ok answer middle =>
      rw [hCommit] at h
      cases answer with
      | some error =>
          cases h
          cases hDone
      | none =>
          cases h
          exact ⟨rfl, (commit_eq_ok_none hCommit).1⟩

omit [Runtime] in
/-- A text that is one scenario is known exactly if its content with line feeds is there. -/
theorem knows_iff {scenarios : Collection} (hText : Block.IsSingle text) :
    Knows scenarios text ↔ Text.normalizeNewlines (Text.trim text) ∈ scenarios.contents := by
  rw [Knows, hText.ofText_trim, List.forall_mem_singleton,
    Text.trim_normalizeNewlines_of_trimmed (Text.trim_trim text)]

/-- A text that has just been saved is known exactly if no carriage return is in it after trimming. -/
theorem knows_after_save_iff {next : Session} (hText : Block.IsSingle text)
    (hEditing : session.editing = none)
    (hNew : Text.normalizeNewlines (Text.trim text) ∉ session.scenarios.contents)
    (hSave : save text session = .ok .saved next) :
    Knows next.scenarios text ↔ .char '\r' ∉ Text.trim text := by
  obtain ⟨_, hScenarios⟩ := save_single_eq_ok hText hEditing hSave rfl
  have hContents : Collection.contents (session.scenarios ++ [session.savedRecord text]) =
      session.scenarios.contents ++ [Text.trim text] := by
    simp [Collection.contents, savedRecord]
  rw [knows_iff hText, hScenarios, hContents, List.mem_append, or_iff_right hNew, List.mem_singleton,
    Text.normalizeNewlines_eq_self_iff]

/-- Saving and importing one scenario, in a session that edits nothing and does not have it. Whichever of
the two is done without an error adds one record, with the next id and the title of the text; and each of
them is possible exactly if the texts can be encoded and a file can be written. The records agree exactly if
no carriage return is in the text after trimming, and exactly then an import after the save brings nothing
new. -/
theorem save_agrees_with_import_iff (hText : Block.IsSingle text) (hEditing : session.editing = none)
    (hNew : Text.normalizeNewlines (Text.trim text) ∉ session.scenarios.contents) :
    (∀ notice next, save text session = .ok notice next → notice.isError = false →
      notice = .saved ∧ next.scenarios = session.scenarios ++ [session.savedRecord text]) ∧
    (∀ notice next, importText text session = .ok notice next → notice.isError = false →
      notice = .imported 1 ∧ next.scenarios = session.scenarios ++ [session.importedRecord text]) ∧
    ((∃ next, save text session = .ok .saved next) ↔
      Collection.IsWhole (session.scenarios ++ [session.savedRecord text]) ∧
        session.host.disk.Accepts session.store) ∧
    ((∃ next, importText text session = .ok (.imported 1) next) ↔
      ∃ next, save text session = .ok .saved next) ∧
    (session.savedRecord text).title = (session.importedRecord text).title ∧
    ((session.savedRecord text).content = (session.importedRecord text).content ↔
      .char '\r' ∉ Text.trim text) ∧
    ∀ next, save text session = .ok .saved next →
      (importText text next = .ok .nothingNew next ↔ .char '\r' ∉ Text.trim text) := by
  refine ⟨fun notice next => save_single_eq_ok hText hEditing,
    fun notice next => importText_single_eq_ok hText hNew, exists_save_iff hText hEditing, ?_, rfl, ?_, ?_⟩
  · rw [exists_importText_iff hText hNew, exists_save_iff hText hEditing]
  · rw [savedRecord, importedRecord, eq_comm, Text.normalizeNewlines_eq_self_iff]
  · intro next hSave
    rw [← knows_after_save_iff hText hEditing hNew hSave]
    constructor
    · exact fun hRun => (knows_of_importText hRun rfl).2
    · exact importText_of_knows hText.inked

end

/-- A scenario between blanks, with line feeds only, and the same scenario with the line ends of another
system. -/
def depositText : Text := " \r\n  Scenario: Deposit\n  Given x \r\n"

def returnedText : Text := "Scenario: Deposit\r\nGiven x"

/-- A saved scenario is recognised when it is imported. -/
theorem saved_deposit_is_recognised :
    ∃ next, save depositText { store := ⟨.relative, ["scenarios.json"]⟩ } = .ok .saved next ∧
      importText depositText next = .ok .nothingNew next := by
  have hText : Block.IsSingle depositText := ⟨by decide +kernel, by decide +kernel⟩
  obtain ⟨_, _, hSaves, _, _, _, hRepeats⟩ := @save_agrees_with_import_iff
    { store := ⟨.relative, ["scenarios.json"]⟩ } depositText _ hText rfl List.not_mem_nil
  have hWhole : Collection.IsWhole
      ([] ++ [savedRecord { store := ⟨.relative, ["scenarios.json"]⟩ } depositText]) := by
    unfold Collection.IsWhole
    decide +kernel
  obtain ⟨next, hSave⟩ := hSaves.mpr ⟨hWhole, _, rfl⟩
  exact ⟨next, hSave, (hRepeats next hSave).mpr (by decide +kernel)⟩

/-- A saved scenario that holds a carriage return is imported as another one. -/
theorem returned_text_is_imported_again :
    ∃ next again, save returnedText { store := ⟨.relative, ["scenarios.json"]⟩ } = .ok .saved next ∧
      next.scenarios = [⟨"1700000000000-1", "Deposit", "Scenario: Deposit\r\nGiven x"⟩] ∧
      importText returnedText next = .ok (.imported 1) again ∧
      again.scenarios = [⟨"1700000000000-1", "Deposit", "Scenario: Deposit\r\nGiven x"⟩,
        ⟨"1700000000000-2", "Deposit", "Scenario: Deposit\nGiven x"⟩] := by
  have hView : (answered? (save returnedText { store := ⟨.relative, ["scenarios.json"]⟩ })).map
      (fun saved => (saved.1, saved.2.scenarios, (answered? (importText returnedText saved.2)).map
        fun imported => (imported.1, imported.2.scenarios))) =
      some (.saved, [⟨"1700000000000-1", "Deposit", "Scenario: Deposit\r\nGiven x"⟩],
        some (.imported 1, [⟨"1700000000000-1", "Deposit", "Scenario: Deposit\r\nGiven x"⟩,
          ⟨"1700000000000-2", "Deposit", "Scenario: Deposit\nGiven x"⟩])) := by decide +kernel
  obtain ⟨notice, next, hSave, hValues⟩ := exists_of_answered hView
  obtain ⟨rfl, hRest⟩ := Prod.mk.inj hValues
  obtain ⟨hNext, hImport⟩ := Prod.mk.inj hRest
  obtain ⟨answer, again, hRun, hAgain⟩ := exists_of_answered hImport
  obtain ⟨rfl, hScenarios⟩ := Prod.mk.inj hAgain
  exact ⟨next, again, hSave, hNext, hRun, hScenarios⟩

end Session

end ScenarioDesk
