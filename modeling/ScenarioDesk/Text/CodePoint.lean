/-!
Code points. The program keeps text as code points and not as characters, because an escape in a
stored file can name half of a surrogate pair on its own. Such a half is text like any other until
it has to be encoded, which is refused.
-/

namespace ScenarioDesk

/-- A Unicode code point: a character, or one of the 2048 halves of surrogate pairs. -/
inductive CodePoint where
  | char (c : Char)
  | half (index : Fin 2048)
  deriving DecidableEq, Repr

namespace CodePoint

/-- A character may stand where a code point is expected. -/
instance : Coe Char CodePoint := ⟨char⟩

/-- The number of the first half. The others follow it. -/
def firstHalf : Nat := 0xD800

/-- The number of a code point. -/
def number : CodePoint → Nat
  | char c => c.toNat
  | half index => firstHalf + index

/-- The code point with a number, a zero character beyond the last one. -/
def ofNumber (number : Nat) : CodePoint :=
  if h : firstHalf ≤ number ∧ number - firstHalf < 2048 then half ⟨number - firstHalf, h.2⟩
  else char (Char.ofNat number)

/-- The code point is no character. -/
def isHalf : CodePoint → Bool
  | char _ => false
  | half _ => true

/-- The code point is one of the ten digits of ASCII. -/
def isDigit (c : CodePoint) : Bool := 0x30 ≤ c.number && c.number ≤ 0x39

@[simp] theorem number_char (c : Char) : (char c).number = c.toNat := rfl

/-- A code point is known by its number. -/
theorem ofNumber_number (c : CodePoint) : ofNumber c.number = c := by
  cases c with
  | half index =>
    have h : firstHalf ≤ firstHalf + index.val ∧ firstHalf + index.val - firstHalf < 2048 := by
      omega
    simp [ofNumber, number, h]
  | char c =>
    have h : ¬ (firstHalf ≤ c.toNat ∧ c.toNat - firstHalf < 2048) := by
      have hvalid := c.valid
      simp only [UInt32.isValidChar, Nat.isValidChar] at hvalid
      simp only [firstHalf, Char.toNat]
      omega
    simp [ofNumber, h]

end CodePoint

end ScenarioDesk
