import ScenarioDesk.Json.Reader
import ScenarioDesk.Proofs.Text.Encoding
import ScenarioDesk.Proofs.Text.Positions

/-! The UTF-16 form of a text, in which a character beyond the basic plane is a pair of units. The
positions that `Text.unitOffset` gives are places between characters, so that what lies between two of
them is read back as the characters that stand there. -/
namespace ScenarioDesk.Text

open Json (isHighHalf isLowHalf joinHalves)

/-- The units of one code point. Half of a surrogate pair that stands alone is a unit of its own. -/
def unitsOf (c : CodePoint) : List Nat :=
  if c.number < 0x10000 then [c.number]
  else [0xD800 + (c.number - 0x10000) / 0x400, 0xDC00 + (c.number - 0x10000) % 0x400]

def utf16 (text : Text) : List Nat := text.flatMap unitsOf

/-- Reads units. A high half takes a low half that follows it along. -/
def ofUtf16 : List Nat → Text
  | [] => []
  | [unit] => [.ofNumber unit]
  | first :: second :: rest =>
    if isHighHalf first && isLowHalf second then
      .ofNumber (joinHalves first second) :: ofUtf16 rest
    else .ofNumber first :: ofUtf16 (second :: rest)

/-- The position lies between the two halves of a pair. -/
def splitsPair (units : List Nat) (position : Nat) : Bool :=
  (units.take position).getLast?.any isHighHalf && (units.drop position).head?.any isLowHalf

theorem length_unitsOf (c : CodePoint) : (unitsOf c).length = charUnits c := by
  unfold unitsOf charUnits
  split <;> rfl

theorem length_utf16 (text : Text) : (utf16 text).length = units text := by
  induction text with
  | nil => rfl
  | cons c rest ih =>
      rw [utf16, List.flatMap_cons, List.length_append, length_unitsOf, units_cons, ← ih, utf16]

theorem utf16_append (first second : Text) : utf16 (first ++ second) = utf16 first ++ utf16 second :=
  List.flatMap_append

theorem isHighHalf_iff (unit : Nat) : isHighHalf unit = true ↔ 0xD800 ≤ unit ∧ unit ≤ 0xDBFF := by
  rw [isHighHalf, Bool.and_eq_true, decide_eq_true_iff, decide_eq_true_iff]

theorem isLowHalf_iff (unit : Nat) : isLowHalf unit = true ↔ 0xDC00 ≤ unit ∧ unit ≤ 0xDFFF := by
  rw [isLowHalf, Bool.and_eq_true, decide_eq_true_iff, decide_eq_true_iff]

theorem joinHalves_eq (high low : Nat) :
    joinHalves high low = 0x10000 + (high - 0xD800) * 0x400 + (low - 0xDC00) := rfl

theorem isWhole_append {first second : Text} :
    isWhole (first ++ second) = true ↔ isWhole first = true ∧ isWhole second = true := by
  rw [isWhole, List.all_append, Bool.and_eq_true, isWhole, isWhole]

theorem number_lt (c : CodePoint) : c.number < 0x110000 := by
  cases c with
  | half index =>
      simp only [CodePoint.number, CodePoint.firstHalf]
      omega
  | char c =>
      have hValid := Utf8.valid_toNat c
      rw [CodePoint.number_char]
      omega

/-- A character is neither half of a pair. -/
theorem isHalf_number {c : CodePoint} (h : c.isHalf = false) :
    isHighHalf c.number = false ∧ isLowHalf c.number = false := by
  cases c with
  | half index => cases h
  | char c =>
      have hValid := Utf8.valid_toNat c
      rw [CodePoint.number_char, Bool.eq_false_iff, Bool.eq_false_iff, ne_eq, ne_eq, isHighHalf_iff,
        isLowHalf_iff]
      omega

/-- The pair of a character joins to it again. -/
theorem exists_unitsOf_eq_pair {c : CodePoint} (h : ¬ c.number < 0x10000) : ∃ high low,
    unitsOf c = [high, low] ∧ isHighHalf high = true ∧ isLowHalf high = false ∧
      isLowHalf low = true ∧ joinHalves high low = c.number := by
  have hLt := number_lt c
  generalize hNumber : c.number = number at h hLt ⊢
  refine ⟨0xD800 + (number - 0x10000) / 0x400, 0xDC00 + (number - 0x10000) % 0x400, ?_, ?_⟩
  · rw [unitsOf, hNumber, if_neg h]
  · rw [isHighHalf_iff, Bool.eq_false_iff, ne_eq, isLowHalf_iff, isLowHalf_iff, joinHalves_eq]
    omega

theorem ofUtf16_cons {unit : Nat} (h : isHighHalf unit = false) (rest : List Nat) :
    ofUtf16 (unit :: rest) = .ofNumber unit :: ofUtf16 rest := by
  cases rest with
  | nil => rfl
  | cons second rest => simp [ofUtf16, h]

/-- Characters are read back whatever follows them. -/
theorem ofUtf16_append {text : Text} (h : text.isWhole = true) (others : List Nat) :
    ofUtf16 (utf16 text ++ others) = text ++ ofUtf16 others := by
  induction text with
  | nil => rfl
  | cons c rest ih =>
      simp only [isWhole, List.all_cons, Bool.and_eq_true, Bool.not_eq_true'] at h ih
      rw [utf16, List.flatMap_cons, List.append_assoc, ← utf16]
      by_cases hPlane : c.number < 0x10000
      · rw [unitsOf, if_pos hPlane, List.singleton_append, ofUtf16_cons (isHalf_number h.1).1,
          CodePoint.ofNumber_number, ih h.2, List.cons_append]
      · obtain ⟨high, low, hUnits, hHigh, _, hLow, hJoin⟩ := exists_unitsOf_eq_pair hPlane
        simp [hUnits, ofUtf16, hHigh, hLow, hJoin, CodePoint.ofNumber_number, ih h.2]

theorem ofUtf16_utf16 {text : Text} (h : text.isWhole = true) : ofUtf16 (utf16 text) = text := by
  simpa [ofUtf16] using ofUtf16_append h []

/-- A text of characters begins with no second half of a pair. -/
theorem head_utf16 {text : Text} (h : text.isWhole = true) :
    (utf16 text).head?.any isLowHalf = false := by
  cases text with
  | nil => rfl
  | cons c rest =>
      simp only [isWhole, List.all_cons, Bool.and_eq_true, Bool.not_eq_true'] at h
      rw [utf16, List.flatMap_cons]
      by_cases hPlane : c.number < 0x10000
      · simp [unitsOf, hPlane, (isHalf_number h.1).2]
      · obtain ⟨high, low, hUnits, _, hHigh, _, _⟩ := exists_unitsOf_eq_pair hPlane
        simp [hUnits, hHigh]

section Between

variable {first second : Text}

theorem take_utf16_append : (utf16 (first ++ second)).take (units first) = utf16 first := by
  rw [utf16_append, ← length_utf16, List.take_left]

theorem drop_utf16_append : (utf16 (first ++ second)).drop (units first) = utf16 second := by
  rw [utf16_append, ← length_utf16, List.drop_left]

/-- A place between characters is no place between the halves of a pair. -/
theorem splitsPair_units (h : second.isWhole = true) :
    splitsPair (utf16 (first ++ second)) (units first) = false := by
  rw [splitsPair, drop_utf16_append, head_utf16 h, Bool.and_false]

end Between

end ScenarioDesk.Text
