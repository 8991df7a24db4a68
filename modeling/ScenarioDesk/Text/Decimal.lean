import ScenarioDesk.Text.Basic

/-!
Decimal numerals of natural numbers and integers, without leading zeros.
-/

namespace ScenarioDesk.Text

/-- The character of a digit below ten. -/
def digitChar (d : Nat) : Char := Char.ofNat ('0'.toNat + d)

/-- The value of a decimal digit. -/
def digitValue (c : CodePoint) : Nat := c.number - '0'.toNat

/-- The decimal numeral of a natural number. -/
def ofNat (n : Nat) : Text :=
  if n < 10 then [CodePoint.char (digitChar n)] else ofNat (n / 10) ++ [.char (digitChar (n % 10))]
termination_by n

/-- The decimal numeral of an integer, with a minus sign in front of a negative one. -/
def ofInt : Int → Text
  | .ofNat n => ofNat n
  | .negSucc n => '-' :: ofNat (n + 1)

/-- The number that a row of decimal digits denotes. -/
def toNat (digits : Text) : Nat :=
  digits.foldl (fun value c => value * 10 + digitValue c) 0

/-- The last digits of a number in base sixteen, in small letters and filled up with zeros. -/
def hexPadded : (width : Nat) → Nat → Text
  | 0, _ => []
  | width + 1, n => hexPadded width (n / 16) ++ [CodePoint.char (Nat.digitChar (n % 16))]

end ScenarioDesk.Text
