import Mathlib.Order.Bounds.Basic
import ScenarioDesk.Proofs.Text.Utf16

/-! The two counts of a position are adjoint. A place between characters has one number in either count, and
a position in units leads to the last place between characters that it does not stand before. It stands
behind that place, by one unit, only where it cuts the pair of a character in two. -/
namespace ScenarioDesk.Text

open Json (isHighHalf isLowHalf)

/-- Reads units. Half of a pair that stands alone is left out. -/
def charsOfUtf16 (units : List Nat) : Text := (ofUtf16 units).filter fun c => !c.isHalf

theorem filter_isHalf_of_isWhole {text : Text} (h : text.isWhole = true) :
    text.filter (fun c => !c.isHalf) = text := List.filter_eq_self.mpr (List.all_eq_true.mp h)

/-- So many characters fit into some units exactly if the units of the first so many are no more. -/
theorem le_charsWithin_iff {text : Text} {index room : Nat} (h : index ≤ text.length) :
    index ≤ charsWithin text room ↔ units (text.take index) ≤ room := by
  induction text generalizing index room with
  | nil =>
      have hIndex : index = 0 := Nat.le_zero.mp h
      simp [hIndex]
  | cons c rest ih =>
      cases index with
      | zero => simp
      | succ index =>
          have hRest := @ih index (room - charUnits c) (Nat.le_of_succ_le_succ h)
          rw [charsWithin, List.take_succ_cons, units_cons]
          split
          · omega
          · omega

/-- Where a position in units stands: at a place between characters, or between the two halves of the pair
of one character. -/
theorem exists_cut {text : Text} {position : Nat} (h : position ≤ units text) :
    ∃ first rest, text = first ++ rest ∧ charsWithin text position = first.length ∧
      (position = units first ∨
        position = units first + 1 ∧ ∃ c others, rest = c :: others ∧ ¬ c.number < 0x10000) := by
  induction text generalizing position with
  | nil => exact ⟨[], [], rfl, rfl, .inl (Nat.le_zero.mp h)⟩
  | cons c text ih =>
      rw [units_cons] at h
      by_cases hFits : charUnits c ≤ position
      · obtain ⟨first, rest, rfl, hWithin, hPosition⟩ := ih (Nat.sub_le_iff_le_add'.mpr h)
        refine ⟨c :: first, rest, rfl, ?_, ?_⟩
        · rw [charsWithin, if_pos hFits, hWithin, List.length_cons]
        · rw [units_cons]
          rcases hPosition with hEnd | ⟨hMiddle, hPair⟩
          · exact .inl (by omega)
          · exact .inr ⟨by omega, hPair⟩
      · refine ⟨[], c :: text, rfl, by rw [charsWithin, if_neg hFits, List.length_nil], ?_⟩
        rw [charUnits] at hFits
        by_cases hPlane : c.number < 0x10000
        · rw [if_pos hPlane] at hFits
          exact .inl (by rw [units_nil]; omega)
        · rw [if_neg hPlane] at hFits
          rcases Nat.eq_zero_or_pos position with hStart | hBehind
          · exact .inl hStart
          · exact .inr ⟨by rw [units_nil]; omega, c, text, rfl, hPlane⟩

section Pair

variable {c : CodePoint} (hPair : ¬ c.number < 0x10000)
include hPair

/-- A pair is cut in two behind its first half. -/
theorem exists_halves (first others : Text) : ∃ high low, isHighHalf high = true ∧ isLowHalf low = true ∧
    (utf16 (first ++ c :: others)).take (units first + 1) = utf16 first ++ [high] ∧
    (utf16 (first ++ c :: others)).drop (units first + 1) = low :: utf16 others := by
  obtain ⟨high, low, hUnits, hHigh, _, hLow, _⟩ := exists_unitsOf_eq_pair hPair
  have hText : utf16 (first ++ c :: others) = utf16 first ++ high :: low :: utf16 others := by
    rw [utf16_append, utf16, utf16, List.flatMap_cons, hUnits]
    rfl
  refine ⟨high, low, hHigh, hLow, ?_, ?_⟩
  · rw [hText, ← length_utf16, List.take_length_add_append]
    rfl
  · rw [hText, ← length_utf16, List.drop_length_add_append]
    rfl

theorem splitsPair_units_succ (first others : Text) :
    splitsPair (utf16 (first ++ c :: others)) (units first + 1) = true := by
  obtain ⟨high, low, hHigh, hLow, hTake, hDrop⟩ := exists_halves hPair first others
  simp [splitsPair, hTake, hDrop, hHigh, hLow]

/-- A reader of the units in front of the cut leaves out the character. -/
theorem charsOfUtf16_take_units_succ {first : Text} (hFirst : first.isWhole = true) (others : Text) :
    charsOfUtf16 ((utf16 (first ++ c :: others)).take (units first + 1)) = first := by
  obtain ⟨high, _, hHigh, _, hTake, _⟩ := exists_halves hPair first others
  have hHalf : (CodePoint.ofNumber high).isHalf = true := by
    rw [isHighHalf_iff] at hHigh
    have hSurrogate : CodePoint.firstHalf ≤ high ∧ high - CodePoint.firstHalf < 2048 := by
      rw [CodePoint.firstHalf]
      omega
    rw [CodePoint.ofNumber, dif_pos hSurrogate]
    rfl
  rw [charsOfUtf16, hTake, ofUtf16_append hFirst, List.filter_append, filter_isHalf_of_isWhole hFirst]
  simp [ofUtf16, hHalf]

end Pair

theorem charsOfUtf16_take_units {first : Text} (hFirst : first.isWhole = true) (rest : Text) :
    charsOfUtf16 ((utf16 (first ++ rest)).take (units first)) = first := by
  rw [take_utf16_append, charsOfUtf16, ofUtf16_utf16 hFirst, filter_isHalf_of_isWhole hFirst]

/-- More characters take more units. -/
theorem strictMonoOn_unitOffset (text : Text) :
    StrictMonoOn (fun index : Nat => unitOffset text index) {index | index ≤ text.length} := by
  intro i _ j hLast hLess
  have hNot : ¬ j ≤ charsWithin text (units (text.take i)) := by
    rw [charsWithin_units_take (hLess.le.trans hLast)]
    exact Nat.not_le.mpr hLess
  rw [le_charsWithin_iff hLast, Nat.not_le] at hNot
  simpa only [unitOffset_natCast] using hNot

/-- In a text of characters the two counts of a position are adjoint. They are the lengths of what is encoded
and of what is read back, where a reader leaves out half a pair. Positions in units grow with every
character, and a position in units leads to the greatest number of characters whose units it holds. So the
way to units and back leads to the same character, and the way to characters and back to the same unit,
unless it stands between the halves of a pair, where it leads to the unit before. -/
theorem offsets_are_adjoint {text : Text} (hWhole : text.isWhole = true) :
    StrictMonoOn (fun index : Nat => unitOffset text index) {index | index ≤ text.length} ∧
    (∀ index : Nat, unitOffset text index = (utf16 (text.take index)).length) ∧
    (∀ index : Nat, index ≤ text.length → charOffset text (unitOffset text index) = index) ∧
    ∀ position : Nat, position ≤ unitOffset text text.length →
      IsGreatest {index : Nat | index ≤ text.length ∧ unitOffset text index ≤ position}
        (charOffset text position) ∧
      charOffset text position = (charsOfUtf16 ((utf16 text).take position)).length ∧
      unitOffset text (charOffset text position) =
        if splitsPair (utf16 text) position then position - 1 else position := by
  refine ⟨strictMonoOn_unitOffset text, fun index => ?_, fun index => charOffset_unitOffset, ?_⟩
  · rw [unitOffset_natCast, length_utf16]
  · intro position hPosition
    rw [unitOffset_natCast, List.take_length] at hPosition
    have hLast := charsWithin_le_length text position
    have hGreatest : ∀ index ≤ text.length,
        index ≤ charsWithin text position ↔ unitOffset text index ≤ position := by
      intro index hIndex
      rw [le_charsWithin_iff hIndex, unitOffset_natCast]
    rw [charOffset, fromStart_natCast]
    refine ⟨⟨⟨hLast, (hGreatest _ hLast).mp le_rfl⟩, fun index hIndex => ?_⟩, ?_⟩
    · exact (hGreatest index hIndex.1).mpr hIndex.2
    · obtain ⟨first, rest, rfl, hWithin, hCut⟩ := exists_cut hPosition
      obtain ⟨hFirst, hRest⟩ := isWhole_append.mp hWhole
      rw [hWithin, unitOffset_natCast, List.take_left]
      rcases hCut with rfl | ⟨rfl, c, others, rfl, hPair⟩
      · rw [charsOfUtf16_take_units hFirst, splitsPair_units hRest]
        exact ⟨rfl, rfl⟩
      · rw [charsOfUtf16_take_units_succ hPair hFirst, splitsPair_units_succ hPair]
        exact ⟨rfl, rfl⟩

/-- A word with a character beyond the basic plane in its middle. -/
def emojiWord : Text := "a😀b"

theorem emoji_is_cut_in_two : emojiWord.isWhole = true ∧ 2 ≤ unitOffset emojiWord emojiWord.length ∧
    IsGreatest {index : Nat | index ≤ emojiWord.length ∧ unitOffset emojiWord index ≤ 2} 1 ∧
    unitOffset emojiWord 1 = 1 := by
  have hWhole : emojiWord.isWhole = true := by decide +kernel
  have hPosition : 2 ≤ unitOffset emojiWord emojiWord.length := by decide +kernel
  have hChars : charOffset emojiWord (2 : Nat) = 1 := by decide +kernel
  have hSplits : splitsPair (utf16 emojiWord) 2 = true := by decide +kernel
  obtain ⟨hGreatest, _, hBack⟩ := (offsets_are_adjoint hWhole).2.2.2 2 hPosition
  rw [hChars] at hGreatest hBack
  rw [hSplits] at hBack
  exact ⟨hWhole, hPosition, hGreatest, hBack⟩

end ScenarioDesk.Text
