import ScenarioDesk.Proofs.Session.Operations

/-! The ids that a run takes. One run never takes an id twice, so ids can only meet those of scenarios
that were loaded, which an earlier run of the program made. -/
namespace ScenarioDesk.Session

namespace Moves

variable {session next : Session} {request : Request}

theorem store_eq (h : Moves session request next) : next.store = session.store := by
  cases h with
  | untouched h => exact h.store
  | edited editing _ h => rw [h]
  | stored h _ => exact h.store
  | exported path _ h => exact h.store

theorem exists_skip (h : Moves session request next) :
    ∃ count, next.host.ids = session.host.ids.skip count := by
  cases h with
  | untouched h => exact h.ids
  | edited editing _ h => exact ⟨0, by rw [h]; rfl⟩
  | stored h _ => exact ⟨_, h.change.left_eq⟩
  | exported path _ h => exact ⟨0, h.ids⟩

theorem scenarios_eq_or_stored (h : Moves session request next) :
    next.scenarios = session.scenarios ∨ Stored session next := by
  cases h with
  | untouched h => exact .inl h.scenarios
  | edited editing _ h => exact .inl (by rw [h])
  | stored h _ => exact .inr h
  | exported path _ h => exact .inl h.scenarios

end Moves

variable [Runtime]

theorem run_cons (session : Session) (request : Request) (requests : List Request) :
    session.run (request :: requests) = (after session request).run requests := rfl

theorem run_append (session : Session) (first second : List Request) :
    session.run (first ++ second) = (session.run first).run second := List.foldl_append

/-- The ids that are taken while some requests are carried out, whether or not a scenario with the id
comes of it. -/
def issued (session : Session) (requests : List Request) : List Text :=
  session.host.ids.ids ((session.run requests).host.ids.next - session.host.ids.next)

theorem store_run (session : Session) (requests : List Request) :
    (session.run requests).store = session.store := by
  induction requests generalizing session with
  | nil => rfl
  | cons request requests ih =>
      rw [run_cons, ih, (moves_after session request).store_eq]

theorem exists_skip_run (session : Session) (requests : List Request) :
    ∃ count, (session.run requests).host.ids = session.host.ids.skip count := by
  induction requests generalizing session with
  | nil => exact ⟨0, rfl⟩
  | cons request requests ih =>
      obtain ⟨first, hFirst⟩ := (moves_after session request).exists_skip
      obtain ⟨second, hSecond⟩ := ih (after session request)
      exact ⟨first + second, by rw [run_cons, hSecond, hFirst, IdSource.skip_skip]⟩

theorem ids_run (session : Session) (requests : List Request) :
    (session.run requests).host.ids =
      session.host.ids.skip
        ((session.run requests).host.ids.next - session.host.ids.next) := by
  obtain ⟨count, hCount⟩ := exists_skip_run session requests
  rw [hCount, IdSource.next_skip, Nat.add_sub_cancel_left]

/-- The ids of two runs in a row are those of the first and then those of the second. -/
theorem issued_append (session : Session) (first second : List Request) :
    issued session (first ++ second) =
      issued session first ++ issued (session.run first) second := by
  obtain ⟨one, hOne⟩ := exists_skip_run session first
  obtain ⟨two, hTwo⟩ := exists_skip_run (session.run first) second
  rw [issued, issued, issued, run_append, hTwo, hOne, IdSource.next_skip, IdSource.next_skip,
    Nat.add_sub_cancel_left, Nat.add_sub_cancel_left, Nat.add_assoc, Nat.add_sub_cancel_left,
    IdSource.ids_add]

theorem mem_issued_mono {session : Session} {done requests : List Request}
    (h : done <+: requests) {id : Text} (hMem : id ∈ issued session done) :
    id ∈ issued session requests := by
  obtain ⟨rest, rfl⟩ := h
  rw [issued_append]
  exact List.mem_append_left _ hMem

/-- What is taken later was not taken earlier in the same run. -/
theorem not_mem_issued_of_mem_issued_run {session : Session} {first second : List Request} {id : Text}
    (h : id ∈ issued (session.run first) second) : id ∉ issued session first := by
  rw [issued, ids_run session first] at h
  exact IdSource.not_mem_ids_of_mem_ids_skip h

/-- A scenario that a request leaves was there before or has an id that the request took. -/
theorem mem_ids_after {session : Session} {request : Request} {id : Text}
    (h : id ∈ (after session request).scenarios.ids) :
    id ∈ session.scenarios.ids ∨ id ∈ issued session [request] := by
  rcases (moves_after session request).scenarios_eq_or_stored with hSame | hStored
  · rw [hSame] at h
    exact .inl h
  · exact hStored.change.mem_ids h

/-- Every id after a run was there before or was taken in the run. -/
theorem mem_ids_run {session : Session} {requests : List Request} {id : Text}
    (h : id ∈ (session.run requests).scenarios.ids) :
    id ∈ session.scenarios.ids ∨ id ∈ issued session requests := by
  induction requests generalizing session with
  | nil => exact .inl h
  | cons request requests ih =>
      have hSplit := issued_append session [request] requests
      rw [List.singleton_append] at hSplit
      rw [hSplit, List.mem_append]
      rcases ih h with hMiddle | hLater
      · rcases mem_ids_after hMiddle with hBefore | hTaken
        · exact .inl hBefore
        · exact .inr (.inl hTaken)
      · exact .inr (.inr hLater)

/-- The scenarios that a request adds. -/
def added (session : Session) (request : Request) : Collection :=
  Collection.addedSince session.scenarios (after session request).scenarios

/-- A request keeps distinct ids distinct exactly if it adds no scenario under an id in use. -/
theorem nodup_ids_after_iff {session : Session} {request : Request}
    (h : session.scenarios.ids.Nodup) :
    (after session request).scenarios.ids.Nodup ↔
      ∀ scenario ∈ added session request, scenario.id ∉ session.scenarios.ids := by
  unfold added
  rcases (moves_after session request).scenarios_eq_or_stored with hSame | hStored
  · have hNone : Collection.addedSince session.scenarios session.scenarios = [] :=
      List.drop_length
    rw [hSame, hNone]
    exact ⟨fun _ => nofun, fun _ => h⟩
  · exact hStored.change.nodup_ids_iff h

theorem mem_issued_of_mem_added {session : Session} {request : Request} {scenario : Scenario}
    (h : scenario ∈ added session request) : scenario.id ∈ issued session [request] := by
  unfold added at h
  rcases (moves_after session request).scenarios_eq_or_stored with hSame | hStored
  · have hNone : Collection.addedSince session.scenarios session.scenarios = [] :=
      List.drop_length
    rw [hSame, hNone] at h
    cases h
  · exact hStored.change.mem_ids_of_mem_addedSince h

end ScenarioDesk.Session
