import ScenarioDesk.Number.Binary64
import ScenarioDesk.Text.Decimal

/-!
Floating-point numbers as text: the fewest digits that read back, positional between a ten-thousandth
and ten to the sixteenth, with an exponent of at least two digits elsewhere. A number in positional
form always has a fractional part, so that it does not look like an integer.
-/

namespace ScenarioDesk.Binary64

/-- The words for the numbers that are not finite. -/
structure Words where
  nan : Text
  infinity : Text

/-- The words in messages. -/
def Words.message : Words := ⟨"nan", "inf"⟩

/-- The words in stored data. -/
def Words.stored : Words := ⟨"NaN", "Infinity"⟩

/-- Digits with a point after the given number of places. Missing places are zeros. -/
def positional (digits : Text) (places : Int) : Text :=
  if places ≤ 0 then "0." ++ List.replicate (-places).toNat (CodePoint.char '0') ++ digits
  else
    let n := places.toNat
    if digits.length ≤ n then digits ++ List.replicate (n - digits.length) (CodePoint.char '0') ++ ".0"
    else digits.take n ++ "." ++ digits.drop n

/-- Digits with a point after the first of them, if there are more, and an exponent. -/
def scientific (digits : Text) (exponent : Int) : Text :=
  let fraction : Text := match digits.drop 1 with
    | [] => []
    | more => '.' :: more
  let size := Text.ofNat exponent.natAbs
  let padded := if size.length < 2 then "0" ++ size else size
  digits.take 1 ++ fraction ++ "e" ++ [CodePoint.char (if exponent < 0 then '-' else '+')] ++ padded

/-- The text of a positive number. -/
def renderPositive (significand : Nat) (exponent : Int) : Text :=
  let d := (shortest significand exponent).stripZeros 400
  let digits := Text.ofNat d.digits
  let lead : Int := d.exponent + digits.length - 1
  if -4 ≤ lead ∧ lead < 16 then positional digits (lead + 1) else scientific digits lead

/-- A minus sign for a negative number. -/
def sign (negative : Bool) : Text := if negative then "-" else []

/-- The text of a number, with the given words where it is not finite. -/
def render (words : Words) : Binary64 → Text
  | .nan => words.nan
  | .infinite negative => sign negative ++ words.infinity
  | .finite negative 0 _ => sign negative ++ "0.0"
  | .finite negative significand exponent => sign negative ++ renderPositive significand exponent

end ScenarioDesk.Binary64
