import ScenarioDesk.Proofs.Editor.Accepting

/-! The popup over any course of events. It is open exactly while there are suggestions; it lists them,
marks one of them, and they are for as many lines as the text has. So the marked row can always be
accepted, and accepting it does the edit of `Suggestions.putInto?`. -/
namespace ScenarioDesk.Editor

/-- The editor after its text has changed, by typing or in any other way. -/
def change (editor : Editor) (buffer : Buffer) : Editor := { editor with buffer := buffer }.refresh

/-- The editors that an empty one becomes by events and by other changes of its text. -/
inductive Reached (maxVisible : Int) : Editor → Prop where
  | opened : Reached maxVisible (empty maxVisible)
  | handled {editor : Editor} (prior : Reached maxVisible editor) (event : Event) :
      Reached maxVisible (editor.handle event).1
  | changed {editor : Editor} (prior : Reached maxVisible editor) (buffer : Buffer) :
      Reached maxVisible (editor.change buffer)

theorem Reached.run {maxVisible : Int} {editor : Editor} (h : Reached maxVisible editor)
    (events : List Event) : Reached maxVisible (editor.run events) := by
  induction events generalizing editor with
  | nil => exact h
  | cons event events ih => exact ih (h.handled event)

/-- The popup is open on the suggestions, and they are for as many lines as the text has. -/
structure Offers (editor : Editor) (suggestions : Suggestions) : Prop where
  shown : editor.popup.shown = true
  rows : editor.popup.rows = suggestions.texts
  row : editor.popup.row < editor.popup.rows.length
  lineCount : suggestions.lineCount = Text.lineCount editor.buffer.text
  lineIndex : suggestions.context.lineIndex < suggestions.lineCount

/-- The popup is open on the active suggestions, and closed if there are none. -/
structure Coherent (editor : Editor) : Prop where
  hidden : editor.active = none → editor.popup.shown = false
  offers : ∀ suggestions, editor.active = some suggestions → editor.Offers suggestions

theorem coherent_empty (maxVisible : Int) : (empty maxVisible).Coherent := ⟨fun _ => rfl, nofun⟩

theorem coherent_hide (editor : Editor) : editor.hide.Coherent := ⟨fun _ => rfl, nofun⟩

theorem coherent_offer {editor : Editor} {vocabulary : List Text} {suggestions : Suggestions}
    (h : Suggestions.offer? vocabulary editor.snapshot = some suggestions) :
    (editor.offer suggestions).Coherent := by
  obtain ⟨_, hCount, hIndex⟩ := Suggestions.place_of_offer? h
  obtain ⟨_, _, hTexts, hEq⟩ := Suggestions.offer?_eq_some_iff.mp h
  have hRow : 0 < suggestions.texts.length := by
    rw [hEq]
    exact List.length_pos_iff.mpr hTexts
  refine ⟨nofun, fun active hActive => ?_⟩
  cases hActive
  exact ⟨rfl, rfl, hRow, hCount, hIndex⟩

section Steps

variable {editor : Editor}

/-- Neither the cursor nor the vocabulary has a part in it. -/
theorem Coherent.of_same (h : editor.Coherent) {after : Editor} (hActive : after.active = editor.active)
    (hPopup : after.popup = editor.popup) (hText : after.buffer.text = editor.buffer.text) :
    after.Coherent := by
  refine ⟨fun hNone => ?_, fun suggestions hSome => ?_⟩
  · rw [hPopup]
    exact h.hidden (hActive.symm.trans hNone)
  · obtain ⟨hShown, hRows, hRow, hCount, hIndex⟩ := h.offers suggestions (hActive.symm.trans hSome)
    rw [← hPopup] at hShown hRows hRow
    rw [← hText] at hCount
    exact ⟨hShown, hRows, hRow, hCount, hIndex⟩

/-- The mark goes around the rows and never leaves them. -/
theorem Coherent.moveRow (h : editor.Coherent) (down : Bool) :
    Coherent { editor with popup := editor.popup.moveRow down } := by
  refine ⟨h.hidden, fun suggestions hActive => ?_⟩
  obtain ⟨hShown, hRows, hRow, hCount, hIndex⟩ := h.offers suggestions hActive
  exact ⟨hShown, hRows, Nat.mod_lt _ (Nat.zero_lt_of_lt hRow), hCount, hIndex⟩

/-- Suggestions that survive a change of the text are for as many lines as it has now. -/
theorem Coherent.dropStale (h : editor.Coherent) (buffer : Buffer) :
    Coherent (Editor.dropStale { editor with buffer := buffer }) := by
  unfold Editor.dropStale
  split
  next => exact coherent_hide _
  next hFresh =>
    refine ⟨h.hidden, fun suggestions hActive => ?_⟩
    obtain ⟨hShown, hRows, hRow, _, hIndex⟩ := h.offers suggestions hActive
    have hCurrent : ¬ suggestions.isStale buffer.text = true := fun hStale =>
      hFresh ((congrArg (Option.any _) hActive).trans hStale)
    have hCount : Text.lineCount buffer.text = suggestions.lineCount :=
      of_not_not fun hOther => hCurrent (decide_eq_true hOther)
    exact ⟨hShown, hRows, hRow, hCount.symm, hIndex⟩

/-- Asking for suggestions keeps what is left of the old ones only where there is no vocabulary. -/
theorem coherent_refresh (h : editor.dropStale.Coherent) : editor.refresh.Coherent := by
  unfold refresh
  dsimp only
  split
  next => exact h
  next =>
    split
    next => exact coherent_hide _
    next hOffer => exact coherent_offer hOffer

theorem Coherent.change (h : editor.Coherent) (buffer : Buffer) : (editor.change buffer).Coherent :=
  coherent_refresh (h.dropStale buffer)

theorem Coherent.typeKey (h : editor.Coherent) (key : Key) (text : Text) :
    (editor.typeKey key text).1.Coherent := by
  unfold Editor.typeKey
  split
  next => exact h
  next => exact h.change _

/-- Accepting always leaves the popup closed, whether or not the suggestion could be put in. -/
theorem Coherent.accept (h : editor.Coherent) (full : Text) : (editor.accept full).1.Coherent := by
  unfold Editor.accept
  split
  next => exact h
  next =>
    split
    next => exact coherent_hide _
    next => exact coherent_hide _

theorem Coherent.press (h : editor.Coherent) (key : Key) (text : Text) :
    (editor.press key text).1.Coherent := by
  unfold Editor.press
  split
  next => exact h.typeKey key text
  next =>
    cases key with
    | escape => exact coherent_hide editor
    | up => exact h.moveRow false
    | down => exact h.moveRow true
    | enter | tab =>
        cases editor.popup.current? with
        | none => exact h.typeKey _ text
        | some full => exact h.accept full
    | other => exact h.typeKey .other text

theorem Coherent.handle (h : editor.Coherent) (event : Event) : (editor.handle event).1.Coherent := by
  cases event with
  | type text => exact h.change _
  | setText text => exact coherent_hide _
  | moveTo position => exact h.of_same rfl rfl rfl
  | press key text => exact h.press key text
  | click row =>
      unfold Editor.handle
      dsimp only
      split
      next => exact h.accept _
      next => exact h
  | accept full => exact h.accept full
  | hide => exact coherent_hide editor
  | leave => exact coherent_hide editor
  | provide vocabulary => exact h.of_same rfl rfl rfl

end Steps

section Reached

variable {maxVisible : Int} {editor : Editor}

theorem Reached.coherent (h : Reached maxVisible editor) : editor.Coherent := by
  induction h with
  | opened => exact coherent_empty maxVisible
  | handled _ event ih => exact ih.handle event
  | changed _ buffer ih => exact ih.change buffer

/-- Whatever has happened to an editor, its popup is open exactly while there are active suggestions. It
lists them, there is at least one, and the mark is on one of them. They are for as many lines as the text
has, so that accepting the marked one is never refused. -/
theorem popup_shows_active_suggestions (h : Reached maxVisible editor) :
    (editor.popup.shown = true ↔ editor.active ≠ none) ∧
    ∀ suggestions, editor.active = some suggestions →
      editor.popup.rows = suggestions.texts ∧ 0 < editor.popup.rows.length ∧
      editor.popup.row < editor.popup.rows.length ∧
      suggestions.lineCount = Text.lineCount editor.buffer.text ∧
      ∃ full, editor.popup.current? = some full ∧ (editor.accept full).2 = true := by
  refine ⟨⟨fun hShown hActive => ?_, fun hActive => ?_⟩, fun suggestions hActive => ?_⟩
  · rw [h.coherent.hidden hActive] at hShown
    exact Bool.noConfusion hShown
  · obtain ⟨suggestions, hSome⟩ := Option.ne_none_iff_exists'.mp hActive
    exact (h.coherent.offers suggestions hSome).shown
  · obtain ⟨_, hRows, hRow, hCount, hIndex⟩ := h.coherent.offers suggestions hActive
    obtain ⟨_, _, hAccepted, _⟩ := accept_spec hActive hCount hIndex editor.popup.rows[editor.popup.row]
    exact ⟨hRows, Nat.zero_lt_of_lt hRow, hRow, hCount, _, List.getElem?_eq_getElem hRow, hAccepted⟩

/-- A step is being typed, below a character of two units. -/
def typingEditor : Editor :=
  (empty 8).run [.provide (some Suggestions.loginScenarios.vocabulary),
    .setText "Scenario: 😀\nwHEN  \nThen end", .moveTo 19, .type "S"]

/-- What is offered for it. -/
def offeredSteps : Suggestions :=
  ⟨⟨1, 7, some ⟨"wHEN", "S"⟩⟩, 3, ["wHEN a user \"x\"", "wHEN she logs in"]⟩

theorem typing_opens_popup : typingEditor.popup.shown = true ∧
    typingEditor.popup.rows = offeredSteps.texts ∧
    ∃ full, typingEditor.popup.current? = some full ∧ (typingEditor.accept full).2 = true := by
  have hActive : typingEditor.active = some offeredSteps := by decide +kernel
  have hReached : Reached 8 typingEditor := Reached.opened.run _
  obtain ⟨hShown, hOffers⟩ := popup_shows_active_suggestions hReached
  obtain ⟨hRows, _, _, _, hAccepted⟩ := hOffers offeredSteps hActive
  exact ⟨hShown.mpr (hActive ▸ nofun), hRows, hAccepted⟩

/-- While there are active suggestions, accepting one of them does the edit that they stand for: text and
cursor are those of `Suggestions.putInto?`, and nothing is suggested any more. -/
theorem accepting_does_the_edit (h : Reached maxVisible editor) {suggestions : Suggestions}
    (hActive : editor.active = some suggestions) (full : Text) :
    ∃ applied, suggestions.putInto? editor.buffer.text full = some applied ∧
      (editor.accept full).2 = true ∧ (editor.accept full).1.Holds applied :=
  have hOffers := h.coherent.offers suggestions hActive
  accept_spec hActive hOffers.lineCount hOffers.lineIndex full

/-- The second step is accepted with the cursor at the start of the text. -/
theorem step_is_accepted_from_elsewhere :
    (typingEditor.run [.moveTo 0, .accept "wHEN she logs in"]).Holds
      ⟨"Scenario: 😀\nwHEN she logs in\nThen end", 28⟩ := by
  have hReached : Reached 8 (typingEditor.run [.moveTo 0]) := (Reached.opened.run _).run _
  have hActive : (typingEditor.run [.moveTo 0]).active = some offeredSteps := by decide +kernel
  obtain ⟨applied, hPut, _, hHolds⟩ := accepting_does_the_edit hReached hActive "wHEN she logs in"
  have hApplied : offeredSteps.putInto? (typingEditor.run [.moveTo 0]).buffer.text "wHEN she logs in" =
      some ⟨"Scenario: 😀\nwHEN she logs in\nThen end", 28⟩ := by decide +kernel
  rw [Option.some.inj (hPut.symm.trans hApplied)] at hHolds
  exact hHolds

end Reached

end ScenarioDesk.Editor
