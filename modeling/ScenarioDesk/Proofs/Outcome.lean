import ScenarioDesk.Session.Run

/-! Operations that answer or fail. An operation that fails keeps what it did before, so a statement
about what an operation does to its state has to speak of both outcomes. -/
namespace ScenarioDesk

variable {ε σ α β : Type}

/-- The state that an operation leaves, whether it answers or fails. -/
def stateAfter : EStateM.Result ε σ α → σ
  | .ok _ state => state
  | .error _ state => state

/-- The answer of an operation and the state after it, if it does not fail. -/
def answered? : EStateM.Result ε σ α → Option (α × σ)
  | .ok answer state => some (answer, state)
  | .error _ _ => none

theorem exists_of_answered {result : EStateM.Result ε σ α} {view : α × σ → β} {value : β}
    (h : (answered? result).map view = some value) :
    ∃ answer state, result = .ok answer state ∧ view (answer, state) = value := by
  cases result with
  | ok answer state => exact ⟨answer, state, rfl, Option.some.inj h⟩
  | error error state => cases h

/-- What can be seen of something that was opened can be seen of the thing itself. -/
theorem exists_of_opened {opened : Except ε α × σ} {view : α → β} {value : β}
    (h : opened.1.toOption.map view = some value) :
    ∃ result left, opened = (.ok result, left) ∧ view result = value := by
  obtain ⟨outcome, left⟩ := opened
  cases outcome with
  | error error => cases h
  | ok result => exact ⟨result, left, rfl, Option.some.inj h⟩

theorem pure_apply (answer : α) (state : σ) :
    (pure answer : EStateM ε σ α) state = .ok answer state := rfl

theorem throw_apply (error : ε) (state : σ) :
    (throw error : EStateM ε σ α) state = .error error state := rfl

theorem get_apply (state : σ) : (get : EStateM ε σ σ) state = .ok state state := rfl

theorem modify_apply (change : σ → σ) (state : σ) :
    (modify change : EStateM ε σ PUnit) state = .ok ⟨⟩ (change state) := rfl

theorem modifyGet_apply (change : σ → α × σ) (state : σ) :
    (modifyGet change : EStateM ε σ α) state = .ok (change state).1 (change state).2 := rfl

theorem bind_apply (operation : EStateM ε σ α) (next : α → EStateM ε σ β) (state : σ) :
    (operation >>= next) state = match operation state with
      | .ok answer middle => next answer middle
      | .error error middle => .error error middle := rfl

theorem bind_of_ok {operation : EStateM ε σ α} {next : α → EStateM ε σ β} {before middle : σ}
    {answer : α} (h : operation before = .ok answer middle) :
    (operation >>= next) before = next answer middle := by
  rw [bind_apply, h]

/-- A handler starts from the state in which the operation failed. -/
theorem tryCatch_apply (operation : EStateM ε σ α) (handler : ε → EStateM ε σ α) (state : σ) :
    (tryCatch operation handler) state = match operation state with
      | .ok answer middle => .ok answer middle
      | .error error middle => handler error middle := by
  change EStateM.tryCatch operation handler state = _
  unfold EStateM.tryCatch
  cases operation state with
  | ok answer middle => rfl
  | error error middle => rfl

theorem bind_eq_ok {operation : EStateM ε σ α} {next : α → EStateM ε σ β} {before after : σ}
    {answer : β} :
    (operation >>= next) before = .ok answer after ↔
      ∃ first middle, operation before = .ok first middle ∧ next first middle = .ok answer after := by
  rw [bind_apply]
  cases operation before with
  | ok first middle =>
      constructor
      · intro h
        exact ⟨first, middle, rfl, h⟩
      · rintro ⟨_, _, hFirst, h⟩
        cases hFirst
        exact h
  | error error middle => simp

theorem bind_eq_error {operation : EStateM ε σ α} {next : α → EStateM ε σ β} {before after : σ}
    {error : ε} :
    (operation >>= next) before = .error error after ↔
      operation before = .error error after ∨
        ∃ first middle, operation before = .ok first middle ∧
          next first middle = .error error after := by
  rw [bind_apply]
  cases operation before with
  | ok first middle =>
      constructor
      · intro h
        exact .inr ⟨first, middle, rfl, h⟩
      · rintro (hFirst | ⟨_, _, hFirst, h⟩)
        · cases hFirst
        · cases hFirst
          exact h
  | error error middle => simp

/-- A handler that tidies up and fails again answers nothing. -/
theorem tryCatch_rethrow_eq_ok {operation : EStateM ε σ α} {tidy : σ → σ} {before after : σ} {answer : α} :
    (tryCatch operation fun error => do modify tidy; throw error) before = .ok answer after ↔
      operation before = .ok answer after := by
  rw [tryCatch_apply]
  cases operation before with
  | ok first middle => rfl
  | error error middle => simp [bind_apply, modify_apply, throw_apply]

/-- What holds after the first operation holds after both, if the second one keeps it. -/
theorem stateAfter_bind {property : σ → Prop} {operation : EStateM ε σ α}
    {next : α → EStateM ε σ β} {state : σ} (hFirst : property (stateAfter (operation state)))
    (hNext : ∀ answer middle, property middle → property (stateAfter (next answer middle))) :
    property (stateAfter ((operation >>= next) state)) := by
  rw [bind_apply]
  cases hRun : operation state with
  | ok answer middle =>
      rw [hRun] at hFirst
      exact hNext answer middle hFirst
  | error error middle =>
      rw [hRun] at hFirst
      exact hFirst

/-- From every state the operation leads to a related one, whether it answers or fails. -/
def Keeps (relation : σ → σ → Prop) (operation : EStateM ε σ α) : Prop :=
  ∀ state, relation state (stateAfter (operation state))

variable {relation : σ → σ → Prop}

theorem Keeps.of_ok {operation : EStateM ε σ α} {answer : α} {before after : σ}
    (h : Keeps relation operation) (hRun : operation before = .ok answer after) : relation before after := by
  have hAfter := h before
  rw [hRun] at hAfter
  exact hAfter

section Reflexive

variable [Std.Refl relation]

theorem keeps_pure (answer : α) : Keeps relation (pure answer : EStateM ε σ α) :=
  fun state => Std.Refl.refl state

theorem keeps_throw (error : ε) : Keeps relation (throw error : EStateM ε σ α) :=
  fun state => Std.Refl.refl state

end Reflexive

section Transitive

variable [Trans relation relation relation]

theorem keeps_bind {operation : EStateM ε σ α} {next : α → EStateM ε σ β}
    (hFirst : Keeps relation operation) (hNext : ∀ answer, Keeps relation (next answer)) :
    Keeps relation (operation >>= next) := by
  intro state
  refine stateAfter_bind (hFirst state) fun answer middle hMiddle => ?_
  exact Trans.trans hMiddle (hNext answer middle)

theorem keeps_tryCatch {operation : EStateM ε σ α} {handler : ε → EStateM ε σ α}
    (hFirst : Keeps relation operation) (hHandler : ∀ error, Keeps relation (handler error)) :
    Keeps relation (tryCatch operation handler) := by
  intro state
  have h := hFirst state
  rw [tryCatch_apply]
  cases hRun : operation state with
  | ok answer middle =>
      rw [hRun] at h
      exact h
  | error error middle =>
      rw [hRun] at h
      exact Trans.trans h (hHandler error middle)

end Transitive

end ScenarioDesk
