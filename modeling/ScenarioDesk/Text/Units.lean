import ScenarioDesk.Text.Basic

/-!
Positions in UTF-16 code units. Editing widgets count a character beyond the basic plane as two
units, everything else here counts it as one character. `unitOffset` and `charOffset` lead from one
count to the other.
-/

namespace ScenarioDesk.Text

/-- How many UTF-16 units a code point takes. Half of a surrogate pair takes one. -/
def charUnits (c : CodePoint) : Nat := if c.number < 0x10000 then 1 else 2

/-- How many UTF-16 units a text takes. -/
def units : Text → Nat
  | [] => 0
  | c :: rest => charUnits c + units rest

/-- A position counted from the start, or from the end if it is negative, as a distance from the
start. A position before the start is the start. -/
def fromStart (size : Nat) (position : Int) : Nat :=
  if 0 ≤ position then position.toNat else (size + position).toNat

/-- The units before the character at an index. A negative index counts from the end. -/
def unitOffset (text : Text) (index : Int) : Nat :=
  units (text.take (fromStart text.length index))

/-- How many characters fit into so many units. A character of which only the first unit fits is
left out. -/
def charsWithin : Text → Nat → Nat
  | [], _ => 0
  | c :: rest, room =>
    if charUnits c ≤ room then charsWithin rest (room - charUnits c) + 1 else 0

/-- The characters before a unit position. A negative position counts from the end. -/
def charOffset (text : Text) (position : Int) : Nat :=
  charsWithin text (fromStart (units text) position)

@[simp] theorem units_nil : units [] = 0 := rfl

@[simp] theorem units_cons (c : CodePoint) (rest : Text) :
    units (c :: rest) = charUnits c + units rest := rfl

theorem units_append (first second : Text) :
    units (first ++ second) = units first + units second := by
  induction first with
  | nil => simp
  | cons c rest ih => simp [ih, Nat.add_assoc]

theorem one_le_charUnits (c : CodePoint) : 1 ≤ charUnits c := by
  unfold charUnits; split <;> omega

theorem charsWithin_le_length (text : Text) (room : Nat) :
    charsWithin text room ≤ text.length := by
  induction text generalizing room with
  | nil => simp [charsWithin]
  | cons c rest ih =>
    unfold charsWithin
    split
    · simpa using ih _
    · simp

end ScenarioDesk.Text
