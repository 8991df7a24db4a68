import Mathlib.Data.List.Induction
import ScenarioDesk.Proofs.Session.Issued

/-! When ids stay distinct. The running number begins anew with every run of the program, so a new id
can be the one that an earlier run made at the same millisecond. This is the only way in which two
scenarios of a session come to share an id. -/
namespace ScenarioDesk.Session

section

variable [Runtime]

/-- Opening a store answers with what loading finds there, and takes no id. -/
theorem openStore_eq_ok {store : Path} {host left : Host} {session : Session}
    (h : openStore store host = (.ok session, left)) :
    session.store = store ∧ session.editing = none ∧
      Store.found store host.disk = .ok session.scenarios ∧ session.host.disk = host.disk ∧
      session.host.ids = host.ids := by
  unfold openStore at h
  cases hLoad : Store.load store host with
  | error failure after =>
      rw [hLoad] at h
      cases h
  | ok scenarios after =>
      rw [hLoad] at h
      cases h
      obtain ⟨hFound, hDisk, hIds⟩ := Store.load_eq_ok hLoad
      exact ⟨rfl, rfl, hFound, hDisk, hIds⟩

theorem exists_openStore_of_map {α : Type} {store : Path} {host : Host} {view : Session → α}
    {value : α} (h : (openStore store host).1.toOption.map view = some value) :
    ∃ session left, openStore store host = (.ok session, left) ∧ view session = value :=
  exists_of_opened h

/-- The ids of an opened session are pairwise distinct after every request of a run exactly if no
request adds a scenario under the id of a loaded scenario that is still in the collection. Nothing is
assumed of the clock, of the number that ids begin with, or of the store. -/
theorem ids_stay_distinct_iff {store : Path} {host left : Host} {session : Session}
    (hOpen : openStore store host = (.ok session, left)) (requests : List Request) :
    (∀ done, done <+: requests → (session.run done).scenarios.ids.Nodup) ↔
      ∀ done request, done ++ [request] <+: requests →
        ∀ scenario ∈ added (session.run done) request, scenario.id ∈ session.scenarios.ids →
          scenario.id ∉ (session.run done).scenarios.ids := by
  obtain ⟨_, _, hFound, _, _⟩ := openStore_eq_ok hOpen
  constructor
  · intro hDistinct done request hPrefix scenario hAdded _
    have hDone : done <+: requests := (List.prefix_append done [request]).trans hPrefix
    have hAfter := hDistinct (done ++ [request]) hPrefix
    rw [run_append] at hAfter
    exact (nodup_ids_after_iff (hDistinct done hDone)).mp hAfter scenario hAdded
  · intro hApart done
    induction done using List.reverseRecOn with
    | nil => exact fun _ => (Store.found_sound hFound).ids
    | append_singleton done request ih =>
        intro hPrefix
        have hDone : done <+: requests := (List.prefix_append done [request]).trans hPrefix
        rw [run_append]
        refine (nodup_ids_after_iff (ih hDone)).mpr fun scenario hAdded hUsed => ?_
        rcases mem_ids_run hUsed with hLoaded | hTaken
        · exact hApart done request hPrefix scenario hAdded hLoaded hUsed
        · exact not_mem_issued_of_mem_issued_run (mem_issued_of_mem_added hAdded) hTaken

end

/-- On an empty disk there is no loaded id that could be met. -/
theorem ids_stay_distinct_on_empty_disk :
    ∃ session left, openStore ⟨.relative, ["scenarios.json"]⟩ {} = (.ok session, left) ∧
      ∀ done, done <+: [.save "Scenario: A", .importText "Scenario: B", .delete "1700000000000-1",
        .save "Scenario: C"] → (session.run done).scenarios.ids.Nodup := by
  have hView : (openStore ⟨.relative, ["scenarios.json"]⟩ {}).1.toOption.map Session.scenarios =
      some [] := by decide +kernel
  obtain ⟨session, left, hOpen, hNone⟩ := exists_openStore_of_map hView
  refine ⟨session, left, hOpen, (ids_stay_distinct_iff hOpen _).mpr ?_⟩
  intro done request _ scenario _ hLoaded
  rw [hNone] at hLoaded
  cases hLoaded

/-- What an earlier run left: one scenario, saved under its first id. -/
def leftByEarlierRun : Host :=
  { disk := { nodes := [(["scenarios.json"], .file
      ((Utf8.encode (Store.render [⟨IdSource.id {}, "A", "Scenario: A"⟩])).toOption.getD []))] } }

/-- A run that begins at the same millisecond takes the same first id: saving gives two scenarios with
one id, and loading what was saved drops the new one. -/
theorem saved_under_loaded_id :
    (openStore ⟨.relative, ["scenarios.json"]⟩ leftByEarlierRun).1.toOption.map (fun session =>
      (session.run [.save "Scenario: B"]).scenarios) =
        some [⟨"1700000000000-1", "A", "Scenario: A"⟩, ⟨"1700000000000-1", "B", "Scenario: B"⟩] ∧
    (openStore ⟨.relative, ["scenarios.json"]⟩ leftByEarlierRun).1.toOption.bind (fun session =>
      (Store.found session.store (session.run [.save "Scenario: B"]).host.disk).toOption) =
        some [⟨"1700000000000-1", "A", "Scenario: A"⟩] := by
  decide +kernel

end ScenarioDesk.Session
