import ScenarioDesk.Proofs.Window.Quiet

/-! The draft is never lost. After every action the text in the editor waits in the draft, or the settings
have it and know what is being edited. Actions that fail half way are no exception: what they had not
yet done to the draft is as it was. -/
namespace ScenarioDesk

namespace Editor

theorem text_typeKey_of_unchanged {editor : Editor} {key : Key} {text : Text}
    (h : (editor.typeKey key text).2 = false) :
    (editor.typeKey key text).1.buffer.text = editor.buffer.text := by
  unfold typeKey at h ⊢
  cases hText : keyText key text with
  | nil => rfl
  | cons c rest =>
      rw [hText] at h
      cases h

theorem text_accept_of_unchanged {editor : Editor} {full : Text} (h : (editor.accept full).2 = false) :
    (editor.accept full).1.buffer.text = editor.buffer.text := by
  unfold accept at h ⊢
  cases hActive : editor.active with
  | none => rfl
  | some active =>
      rw [hActive] at h
      dsimp only at h ⊢
      cases hPut : active.putInto? editor.buffer.text full with
      | none => rfl
      | some applied =>
          rw [hPut] at h
          cases h

/-- A key is typed, accepts a suggestion, or leaves the text alone. -/
theorem press_cases (editor : Editor) (key : Key) (text : Text) :
    editor.press key text = editor.typeKey key text ∨
      (∃ full, editor.press key text = editor.accept full) ∨
      (editor.press key text).1.buffer = editor.buffer := by
  unfold press
  split
  · exact .inl rfl
  · cases key with
    | escape => exact .inr (.inr rfl)
    | up => exact .inr (.inr rfl)
    | down => exact .inr (.inr rfl)
    | other => exact .inl rfl
    | enter | tab =>
        cases editor.popup.current? with
        | none => exact .inl rfl
        | some full => exact .inr (.inl ⟨full, rfl⟩)

/-- An event that reports no change has not changed the text. -/
theorem text_handle_of_unchanged {editor : Editor} {event : Event} (h : (editor.handle event).2 = false) :
    (editor.handle event).1.buffer.text = editor.buffer.text := by
  cases event with
  | type text => cases h
  | setText text => cases h
  | moveTo position => rfl
  | hide => rfl
  | leave => rfl
  | provide vocabulary => rfl
  | accept full => exact text_accept_of_unchanged h
  | click row =>
      rw [handle] at h ⊢
      cases hRow : editor.popup.rows[row]? with
      | none => rfl
      | some full =>
          rw [hRow] at h
          exact text_accept_of_unchanged h
  | press key text =>
      rw [handle] at h ⊢
      rcases press_cases editor key text with hTyped | ⟨full, hAccepted⟩ | hSame
      · rw [hTyped] at h ⊢
        exact text_typeKey_of_unchanged h
      · rw [hAccepted] at h ⊢
        exact text_accept_of_unchanged h
      · rw [hSame]

end Editor

namespace Window

/-- The text in the editor is on its way into the settings, or there already together with what is being
edited. -/
structure Remembers (window : Window) : Prop where
  waiting : ∀ text, window.draft.waiting = some text → text = window.editor.buffer.text
  noted : window.draft.waiting = none →
    window.settings.draftText = window.editor.buffer.text ∧
      window.settings.editingId = window.session.editing.getD []

/-- Where the draft's text is what the editor shows, that is all that has to be remembered. -/
theorem remembers_of_waiting {window : Window}
    (h : window.draft.waiting = some window.editor.buffer.text) : Remembers window := by
  refine ⟨fun text hText => ?_, fun hNone => ?_⟩
  · rw [h] at hText
    exact (Option.some.inj hText).symm
  · rw [h] at hNone
    cases hNone

theorem remembers_of_noted {window : Window} (hNone : window.draft.waiting = none)
    (hText : window.settings.draftText = window.editor.buffer.text)
    (hId : window.settings.editingId = window.session.editing.getD []) : Remembers window := by
  refine ⟨fun text hText => ?_, fun _ => ⟨hText, hId⟩⟩
  rw [hNone] at hText
  cases hText

theorem onDraft_apply (operation : Draft → Draft × List DraftEvent) (window : Window) :
    onDraft operation window =
      followDraft (operation window.draft).2 { window with draft := (operation window.draft).1 } := rfl

theorem schedule_spec (text : Text) (window : Window) :
    ∃ modified, onDraft (fun draft => draft.schedule text) window = .ok () { window with
      draft := (window.draft.schedule text).1, modified := modified } := by
  rw [onDraft_apply]
  unfold Draft.schedule
  cases window.draft.pending with
  | true => exact ⟨window.modified, rfl⟩
  | false => exact ⟨true, rfl⟩

theorem discard_spec (window : Window) :
    ∃ modified, onDraft Draft.discard window = .ok () { window with
      draft := window.draft.discard.1, modified := modified } := by
  rw [onDraft_apply]
  unfold Draft.discard
  cases window.draft.pending with
  | true => exact ⟨false, rfl⟩
  | false => exact ⟨window.modified, rfl⟩

theorem stateAfter_followDraft_ready (pending : Bool) (text : Text) (window : Window) :
    stateAfter (followDraft [.pendingChanged pending, .ready text] window) =
      stateAfter (storeDraft text { window with modified := pending }) := by
  show stateAfter ((storeDraft text >>= fun _ => pure ()) { window with modified := pending }) = _
  rw [bind_apply]
  cases storeDraft text { window with modified := pending } with
  | ok answer after => rfl
  | error failure after => rfl

/-- An event in the editor changes nothing else but the draft, which then waits with the new text. -/
structure Edited (changed : Bool) (before after : Window) : Prop where
  settingsPath : after.settingsPath = before.settingsPath
  settings : after.settings = before.settings
  session : after.session = before.session
  width : after.width = before.width
  height : after.height = before.height
  waiting : after.draft.waiting =
    if changed then some after.editor.buffer.text else before.draft.waiting

theorem onEditor_spec (event : Editor.Event) (window : Window) :
    ∃ after, onEditor event window =
        .ok ({ window.editor with vocabulary := some window.session.vocabulary }.handle event).2 after ∧
      after.editor = ({ window.editor with vocabulary := some window.session.vocabulary }.handle event).1 ∧
      Edited ({ window.editor with vocabulary := some window.session.vocabulary }.handle event).2
        window after := by
  unfold onEditor
  rw [bind_apply, get_apply]
  dsimp only
  generalize ({ window.editor with vocabulary := some window.session.vocabulary }.handle event) = handled
  obtain ⟨editor, changed⟩ := handled
  rw [bind_apply, modify_apply]
  cases changed with
  | false => exact ⟨_, rfl, rfl, rfl, rfl, rfl, rfl, rfl, rfl⟩
  | true =>
      obtain ⟨modified, hSchedule⟩ := schedule_spec editor.buffer.text { window with editor := editor }
      dsimp only
      rw [if_pos rfl, bind_apply, hSchedule]
      exact ⟨_, rfl, rfl, rfl, rfl, rfl, rfl, rfl, rfl⟩

variable [Runtime] {environment : Environment} {settled : Prop}

/-- Nothing would be lost if the window were closed. -/
structure Safe (environment : Environment) (settled : Prop) (window : Window) : Prop where
  reopenable : Reopenable environment settled window
  remembers : Remembers window

theorem Safe.of_keepsDraft {before after : Window} (h : Safe environment settled before)
    (hKeeps : KeepsDraft environment settled before after) : Safe environment settled after := by
  refine ⟨hKeeps.reopenable h.reopenable, ?_, ?_⟩
  · rw [hKeeps.waiting, hKeeps.text]
    exact h.remembers.waiting
  · rw [hKeeps.waiting, hKeeps.text, hKeeps.draftText, hKeeps.editingId, hKeeps.editing]
    exact h.remembers.noted

/-- The relation of windows for `Keeps`. -/
def StaysSafe (environment : Environment) (settled : Prop) (before after : Window) : Prop :=
  Safe environment settled before → Safe environment settled after

instance : Std.Refl (StaysSafe environment settled) := ⟨fun _ h => h⟩

instance : Trans (StaysSafe environment settled) (StaysSafe environment settled)
    (StaysSafe environment settled) := ⟨fun hFirst hSecond h => hSecond (hFirst h)⟩

theorem staysSafe_of_keepsDraft {α : Type} {operation : WindowM α}
    (h : Keeps (KeepsDraft environment settled) operation) :
    Keeps (StaysSafe environment settled) operation :=
  fun window hSafe => hSafe.of_keepsDraft (h window)

/-- Storing a draft notes its text and what is being edited, even if the disk refuses. -/
theorem storeDraft_spec (text : Text) (window : Window) :
    KeepsDraft environment settled
      { window with settings := { window.settings with
        draftText := text, editingId := window.session.editing.getD [] } }
      (stateAfter (storeDraft text window)) := by
  refine stateAfter_bind (Std.Refl.refl _) fun _ middle hMiddle => Trans.trans hMiddle
    ((?_ : Keeps (KeepsDraft environment settled) _) middle)
  refine keeps_tryCatch (keeps_bind keepsDraft_storeSettings fun _ =>
    keepsDraft_modify fun _ => ⟨rfl, rfl, rfl, rfl, rfl, rfl, rfl⟩) fun failure => ?_
  split
  · exact keeps_bind (keepsDraft_modify fun _ => ⟨rfl, rfl, rfl, rfl, rfl, rfl, rfl⟩) fun _ =>
      keepsDraft_modify fun _ => ⟨rfl, rfl, rfl, rfl, rfl, rfl, rfl⟩
  · exact keeps_throw failure

/-- The second window is the first one with no draft waiting, and still safe. -/
structure Flushed (environment : Environment) (settled : Prop) (before after : Window) : Prop where
  safe : Safe environment settled after
  waiting : after.draft.waiting = none
  text : after.editor.buffer.text = before.editor.buffer.text
  editing : after.session.editing = before.session.editing

theorem flush_spec {window : Window} (h : Safe environment settled window) :
    Flushed environment settled window (stateAfter (onDraft Draft.flush window)) := by
  rw [onDraft_apply]
  unfold Draft.flush
  have hReopenable : ∀ draft modified, Reopenable environment settled
      { window with draft := draft, modified := modified } := fun _ _ =>
    ⟨h.reopenable.settingsPath, h.reopenable.store, h.reopenable.session, h.reopenable.settings,
      h.reopenable.width, h.reopenable.height⟩
  cases hWaiting : window.draft.waiting with
  | none =>
      obtain ⟨hText, hId⟩ := h.remembers.noted hWaiting
      exact ⟨⟨hReopenable _ window.modified, remembers_of_noted rfl hText hId⟩, rfl, rfl, rfl⟩
  | some text =>
      have hText := h.remembers.waiting text hWaiting
      dsimp only
      rw [stateAfter_followDraft_ready]
      have hStored : KeepsDraft environment settled _ _ := storeDraft_spec text
        { window with draft := { window.draft with waiting := none, timerRuns := false },
                      modified := false }
      have hNoted := hReopenable { window.draft with waiting := none, timerRuns := false } false
      refine ⟨Safe.of_keepsDraft ⟨?_, remembers_of_noted rfl hText rfl⟩ hStored, hStored.waiting,
        hStored.text, hStored.editing⟩
      exact ⟨hNoted.settingsPath, hNoted.store, hNoted.session,
        ⟨hNoted.settings.autosaveDelay, hNoted.settings.maxSuggestions, hNoted.settings.windowWidth,
          hNoted.settings.windowHeight⟩, hNoted.width, hNoted.height⟩

theorem staysSafe_elapse : Keeps (StaysSafe environment settled) (onDraft Draft.elapse) := by
  intro window h
  by_cases hRuns : window.draft.timerRuns = true
  · have hElapse : onDraft Draft.elapse window = onDraft Draft.flush window := by
      rw [onDraft_apply, onDraft_apply, Draft.elapse, if_pos hRuns]
    rw [hElapse]
    exact (flush_spec h).safe
  · rw [onDraft_apply, Draft.elapse, if_neg hRuns]
    exact h

theorem Edited.reopenable {changed : Bool} {before after : Window} (h : Edited changed before after)
    (hBefore : Reopenable environment settled before) : Reopenable environment settled after := by
  refine ⟨h.settingsPath.trans hBefore.settingsPath, by rw [h.session]; exact hBefore.store,
    by rw [h.session]; exact hBefore.session, by rw [h.settings]; exact hBefore.settings,
    by rw [h.width]; exact hBefore.width, by rw [h.height]; exact hBefore.height⟩

theorem staysSafe_onEditor (event : Editor.Event) :
    Keeps (StaysSafe environment settled) (onEditor event) := by
  intro window h
  obtain ⟨after, hRun, hEditor, hEdited⟩ := onEditor_spec event window
  rw [hRun]
  refine ⟨hEdited.reopenable h.reopenable, ?_⟩
  show Remembers after
  have hWaiting := hEdited.waiting
  cases hChanged : ({ window.editor with vocabulary := some window.session.vocabulary }.handle event).2 with
  | true =>
      rw [hChanged, if_pos rfl] at hWaiting
      exact remembers_of_waiting hWaiting
  | false =>
      have hText := Editor.text_handle_of_unchanged hChanged
      rw [← hEditor] at hText
      rw [hChanged, if_neg Bool.false_ne_true] at hWaiting
      refine ⟨?_, ?_⟩
      · rw [hWaiting, hText]
        exact h.remembers.waiting
      · rw [hWaiting, hText, hEdited.settings, hEdited.session]
        exact h.remembers.noted

end Window

end ScenarioDesk
