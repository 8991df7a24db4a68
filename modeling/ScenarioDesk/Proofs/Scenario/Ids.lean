import ScenarioDesk.Proofs.Text.Numerals
import ScenarioDesk.Scenario.Record

/-! Ids that one source makes. Only the running number keeps them apart: the clock may stand still, go
back, or show a time before the epoch. Nothing here speaks of ids that another run made. -/
namespace ScenarioDesk.IdSource

theorem afterLast_idAt (clock : Int) (number : Nat) :
    Text.afterLast '-' (idAt clock number) = Text.ofNat number := by
  have hDigits : CodePoint.char '-' ∉ Text.ofNat number := by
    intro hMem
    have hDigit := Text.isDigit_of_mem_ofNat hMem
    revert hDigit
    decide
  have hId : idAt clock number =
      Text.ofInt (clock.fdiv 1000000) ++ CodePoint.char '-' :: Text.ofNat number := by
    rw [idAt, List.append_assoc]
    rfl
  rw [hId, Text.afterLast_append_cons hDigits]

/-- Ids with different running numbers differ, at whatever times they are made. -/
theorem number_eq_of_idAt_eq {clock other : Int} {number another : Nat}
    (h : idAt clock number = idAt other another) : number = another := by
  rw [← Text.toNat_ofNat number, ← afterLast_idAt clock, h, afterLast_idAt, Text.toNat_ofNat]

theorem idAt_ne_nil (clock : Int) (number : Nat) : idAt clock number ≠ [] := by
  intro h
  have hLength := congrArg List.length h
  rw [idAt, List.length_append, List.length_append] at hLength
  simp only [Text.ofString, Text.ofChars, List.length_map, List.length_nil] at hLength
  have hHyphen : "-".toList.length = 1 := rfl
  omega

/-- The next ids, in the order in which they are made. -/
def ids (source : IdSource) : (count : Nat) → List Text
  | 0 => []
  | count + 1 => source.id :: source.advance.ids count

/-- The source after some ids have been taken. -/
def skip (source : IdSource) : (count : Nat) → IdSource
  | 0 => source
  | count + 1 => source.advance.skip count

@[simp] theorem ids_zero (source : IdSource) : source.ids 0 = [] := rfl

@[simp] theorem skip_zero (source : IdSource) : source.skip 0 = source := rfl

theorem ids_succ (source : IdSource) (count : Nat) :
    source.ids (count + 1) = source.id :: source.advance.ids count := rfl

theorem skip_succ (source : IdSource) (count : Nat) :
    source.skip (count + 1) = source.advance.skip count := rfl

theorem next_skip (source : IdSource) (count : Nat) :
    (source.skip count).next = source.next + count := by
  induction count generalizing source with
  | zero => rfl
  | succ count ih =>
      rw [skip_succ, ih]
      show source.next + 1 + count = source.next + (count + 1)
      omega

theorem skip_skip (source : IdSource) (first second : Nat) :
    (source.skip first).skip second = source.skip (first + second) := by
  induction first generalizing source with
  | zero => rw [skip_zero, Nat.zero_add]
  | succ first ih => rw [skip_succ, ih, Nat.succ_add, skip_succ]

theorem ids_add (source : IdSource) (first second : Nat) :
    source.ids (first + second) = source.ids first ++ (source.skip first).ids second := by
  induction first generalizing source with
  | zero => rw [Nat.zero_add, ids_zero, skip_zero, List.nil_append]
  | succ first ih => rw [Nat.succ_add, ids_succ, ids_succ, skip_succ, ih, List.cons_append]

/-- An id that a source makes bears a number from the next one on. -/
theorem exists_of_mem_ids {source : IdSource} {count : Nat} {id : Text} (h : id ∈ source.ids count) :
    ∃ clock number, id = idAt clock number ∧ source.next ≤ number ∧ number < source.next + count := by
  induction count generalizing source with
  | zero => cases h
  | succ count ih =>
      rcases List.mem_cons.mp h with rfl | hLater
      · exact ⟨source.clock, source.next, rfl, Nat.le_refl _, by omega⟩
      · obtain ⟨clock, number, hId, hLeast, hMost⟩ := ih hLater
        have hNext : source.advance.next = source.next + 1 := rfl
        exact ⟨clock, number, hId, by omega, by omega⟩

theorem ne_nil_of_mem_ids {source : IdSource} {count : Nat} {id : Text} (h : id ∈ source.ids count) :
    id ≠ [] := by
  obtain ⟨clock, number, rfl, _⟩ := exists_of_mem_ids h
  exact idAt_ne_nil clock number

/-- No id that is taken later was taken before. -/
theorem not_mem_ids_of_mem_ids_skip {source : IdSource} {first second : Nat} {id : Text}
    (h : id ∈ (source.skip first).ids second) : id ∉ source.ids first := by
  intro hEarlier
  obtain ⟨clock, number, rfl, hLeast, _⟩ := exists_of_mem_ids h
  obtain ⟨other, another, hSame, _, hMost⟩ := exists_of_mem_ids hEarlier
  have hNumber := number_eq_of_idAt_eq hSame
  rw [next_skip] at hLeast
  omega

theorem nodup_ids (source : IdSource) (count : Nat) : (source.ids count).Nodup := by
  induction count generalizing source with
  | zero => exact List.nodup_nil
  | succ count ih =>
      rw [ids_succ, List.nodup_cons]
      refine ⟨?_, ih source.advance⟩
      intro hLater
      exact @not_mem_ids_of_mem_ids_skip source 1 count _ hLater List.mem_cons_self

end ScenarioDesk.IdSource
