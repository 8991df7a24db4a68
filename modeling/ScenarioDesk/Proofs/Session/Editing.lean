import ScenarioDesk.Proofs.Session.Operations

/-! Which scenario is being edited after each operation. Saving ends the editing, deleting ends that of
the scenario it deletes, and nothing else does but cancelling. -/
namespace ScenarioDesk.Session

/-- What is being edited is the same. -/
def SameEditing (before after : Session) : Prop := after.editing = before.editing

instance : Std.Refl SameEditing := ⟨fun _ => rfl⟩

instance : Trans SameEditing SameEditing SameEditing :=
  ⟨fun hFirst hSecond => hSecond.trans hFirst⟩

theorem stateAfter_onHost {α : Type} (operation : HostM α) (session : Session) :
    stateAfter (onHost operation session) =
      { session with host := stateAfter (operation session.host) } := by
  unfold onHost
  cases operation session.host with
  | ok answer host => rfl
  | error failure host => rfl

theorem keepsEditing_onHost {α : Type} (operation : HostM α) : Keeps SameEditing (onHost operation) := by
  intro session
  rw [stateAfter_onHost]
  rfl

theorem keepsEditing_attempt {α : Type} (operation : DiskM α) :
    Keeps SameEditing (attempt operation) := by
  refine keeps_bind (keepsEditing_onHost _) fun answer => ?_
  cases answer with
  | ok result => exact keeps_pure _
  | error error =>
      cases error with
      | system refusal => exact keeps_pure _
      | nulInPath => exact keeps_throw _
      | unencodable fault => exact keeps_throw _

variable [Runtime]

theorem keepsEditing_commit (scenarios : Collection) : Keeps SameEditing (commit scenarios) := by
  refine keeps_bind (fun _ => rfl) fun session => keeps_bind (keepsEditing_onHost _) fun answer => ?_
  cases answer with
  | none => exact keeps_bind (fun _ => rfl) fun _ => keeps_pure none
  | some error => exact keeps_bind (keepsEditing_onHost _) fun _ => keeps_pure (some error)

theorem keepsEditing_importText (text : Text) : Keeps SameEditing (importText text) := by
  unfold importText
  split
  · exact keeps_pure _
  · refine keeps_bind (fun _ => rfl) fun session => keeps_bind (fun _ => rfl) fun _ => ?_
    split
    · exact keeps_pure _
    · refine keeps_bind (keepsEditing_commit _) fun answer => ?_
      cases answer with
      | none => exact keeps_bind (keepsEditing_onHost _) fun _ => keeps_pure _
      | some error => exact keeps_pure _

theorem keepsEditing_readImportFile (path : Path) : Keeps SameEditing (readImportFile path) := by
  unfold readImportFile
  split
  · exact keeps_pure _
  · refine keeps_bind (keepsEditing_attempt _) fun answer => ?_
    cases answer with
    | ok content => exact keeps_pure _
    | error error => exact keeps_bind (keepsEditing_onHost _) fun _ => keeps_pure _

theorem keepsEditing_exportTo (path : Path) : Keeps SameEditing (exportTo path) := by
  refine keeps_bind (fun _ => rfl) fun session => ?_
  split
  · exact keeps_pure _
  · refine keeps_bind (keepsEditing_attempt _) fun answer => ?_
    cases answer with
    | ok answer => exact keeps_pure _
    | error error => exact keeps_bind (keepsEditing_onHost _) fun _ => keeps_pure _

/-- A text that is saved is not edited any more. One that is not saved is edited on. -/
theorem editing_of_save (text : Text) (session : Session) :
    match save text session with
    | .ok notice after => after.editing = if notice.isError then session.editing else none
    | .error _ after => after.editing = session.editing := by
  unfold save
  rw [bind_apply, get_apply]
  dsimp only
  cases session.scenarios.save session.host.ids session.editing text with
  | none => rfl
  | some found =>
      dsimp only
      rw [bind_apply, setIds_apply]
      dsimp only
      have hCommit := keepsEditing_commit found.1
        { session with host := { session.host with ids := found.2 } }
      rw [bind_apply]
      cases hRun : commit found.1 { session with host := { session.host with ids := found.2 } } with
      | error failure after =>
          rw [hRun] at hCommit
          exact hCommit
      | ok answer after =>
          rw [hRun] at hCommit
          cases answer with
          | some error => exact hCommit
          | none =>
              have hNotice : (if session.editing.isSome then Notice.updated else .saved).isError =
                  false := by
                cases session.editing.isSome with
                | true => rfl
                | false => rfl
              show none = if (if session.editing.isSome then Notice.updated else .saved).isError then
                session.editing else none
              rw [hNotice]
              rfl

/-- Deleting ends the editing of the scenario that is deleted. -/
theorem editing_of_delete (id : Text) (session : Session) :
    match delete id session with
    | .ok notice after => after.editing =
        if notice.isError = false ∧ session.editing = some id then none else session.editing
    | .error _ after => after.editing = session.editing := by
  unfold delete
  rw [bind_apply, get_apply]
  dsimp only
  by_cases hMissing : (session.find? id).isNone = true
  · rw [if_pos hMissing]
    rfl
  · have hCommit := keepsEditing_commit (session.scenarios.remove id) session
    rw [if_neg hMissing, bind_apply]
    cases hRun : commit (session.scenarios.remove id) session with
    | error failure after =>
        rw [hRun] at hCommit
        exact hCommit
    | ok answer after =>
        rw [hRun] at hCommit
        have hSame : after.editing = session.editing := hCommit
        cases answer with
        | some error => exact hCommit
        | none =>
            dsimp only
            rw [bind_apply, get_apply]
            dsimp only
            rw [← hSame]
            by_cases hEditing : after.editing = some id
            · rw [if_pos hEditing]
              exact (if_pos ⟨rfl, hEditing⟩).symm
            · rw [if_neg hEditing]
              exact (if_neg fun h => hEditing h.2).symm

omit [Runtime] in
/-- A scenario that is found is edited from then on. -/
theorem beginEdit_apply (id : Text) (session : Session) :
    beginEdit id session = match session.find? id with
      | none => .ok none session
      | some scenario => .ok (some scenario.content) { session with editing := some id } := by
  unfold beginEdit
  rw [bind_apply, get_apply]
  dsimp only
  cases hFind : session.find? id with
  | none => rfl
  | some scenario =>
      obtain ⟨_, hId⟩ := Collection.mem_of_byId? hFind
      rw [← hId]
      rfl

end ScenarioDesk.Session
