import ScenarioDesk.Text.Units

/-! Positions in characters and in UTF-16 units. A position between two characters is the same place in
either count. -/
namespace ScenarioDesk.Text

theorem fromStart_natCast (size position : Nat) : fromStart size position = position := by
  simp [fromStart]

theorem unitOffset_natCast (text : Text) (index : Nat) :
    unitOffset text index = units (text.take index) := by
  rw [unitOffset, fromStart_natCast]

/-- Exactly so many characters fit into the units of the first so many. -/
theorem charsWithin_units_take {text : Text} {index : Nat} (h : index ≤ text.length) :
    charsWithin text (units (text.take index)) = index := by
  induction text generalizing index with
  | nil => exact (Nat.le_zero.mp h).symm
  | cons c rest ih =>
      cases index with
      | zero =>
          have hUnits := one_le_charUnits c
          rw [List.take_zero, units_nil, charsWithin, if_neg (by omega)]
      | succ index =>
          have hRest := ih (Nat.le_of_succ_le_succ h)
          rw [List.take_succ_cons, units_cons, charsWithin, if_pos (Nat.le_add_right _ _),
            Nat.add_sub_cancel_left, hRest]

/-- Going over to units and back leads to the same character. -/
theorem charOffset_unitOffset {text : Text} {index : Nat} (h : index ≤ text.length) :
    charOffset text (unitOffset text index) = index := by
  rw [unitOffset_natCast, charOffset, fromStart_natCast, charsWithin_units_take h]

end ScenarioDesk.Text
