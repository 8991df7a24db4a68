/-!
Binary floating-point numbers of 64 bits, as exact values: a sign and a significand of at most 53
bits times a power of two. Reading rounds a decimal number to the nearest of them, a tie to the even
significand; `shortest` finds the fewest digits that read back as the same number.
-/

namespace ScenarioDesk

/-- A floating-point number. A finite one is `significand * 2 ^ exponent` with the given sign. -/
inductive Binary64 where
  | nan
  | infinite (negative : Bool)
  | finite (negative : Bool) (significand : Nat) (exponent : Int)
  deriving DecidableEq, Repr

namespace Binary64

/-- The least exponent of a significand's last bit. -/
def leastExponent : Int := -1074

/-- The greatest exponent of a significand's last bit. -/
def greatestExponent : Int := 971

/-- The least significand that has 53 bits. -/
def leastFull : Nat := Nat.pow 2 52

/-- The quotient rounded to the nearest natural number, a tie to the even one. -/
def roundHalfEven (num den : Nat) : Nat :=
  let q := num / den
  let r := num % den
  if 2 * r < den then q
  else if den < 2 * r then q + 1
  else if q % 2 = 0 then q else q + 1

/-- A power as numerator and denominator. -/
def power (base : Nat) (exponent : Int) : Nat × Nat :=
  if 0 ≤ exponent then (base.pow exponent.toNat, 1) else (1, base.pow (-exponent).toNat)

/-- The significand and exponent nearest to a positive fraction. The exponent is one that gives the
significand 53 bits, or the least one. -/
def nearest (num den : Nat) : Nat × Int :=
  let guess : Int := (num.log2 : Int) - (den.log2 : Int) - 52
  let (up, down) := power 2 guess
  -- the quotient has 52 or 53 bits before the point, for the guess is exact or one too great
  let exact := if num * down < leastFull * (den * up) then guess - 1 else guess
  let exponent := max exact leastExponent
  let (up, down) := power 2 exponent
  let rounded := roundHalfEven (num * down) (den * up)
  if rounded = 2 * leastFull then (leastFull, exponent + 1) else (rounded, exponent)

/-- The integer that a number is, if it is one. Both zeros are zero. -/
def toInt? : Binary64 → Option Int
  | .finite negative significand exponent =>
    let (up, down) := power 2 exponent
    let size : Int := (significand * up / down : Nat)
    if significand * up % down = 0 then some (if negative then -size else size) else none
  | _ => none

/-- The number nearest to `digits * 10 ^ exponent`. Beyond the greatest number it is infinite. -/
def ofDecimal (negative : Bool) (digits : Nat) (exponent : Int) : Binary64 :=
  let magnitude := (digits.log2 : Int) * 3 / 10 + exponent
  if digits = 0 ∨ magnitude < -400 then .finite negative 0 leastExponent
  else if 400 < magnitude then .infinite negative
  else
    let (up, down) := power 10 exponent
    let (significand, binary) := nearest (digits * up) down
    if greatestExponent < binary then .infinite negative
    else .finite negative significand binary

/-- A decimal fraction: the digits before the power of ten, and the power. -/
structure Decimal where
  digits : Nat
  exponent : Int
  deriving DecidableEq, Repr

/-- The interval of numbers that round to `significand * 2 ^ exponent`, and the number itself, all
in quarters of the last bit. Below a power of two the lower half of the interval is narrower. -/
def quarters (significand : Nat) (exponent : Int) : Nat × Nat × Nat :=
  let low := if significand = leastFull ∧ leastExponent < exponent then 4 * significand - 1
    else 4 * significand - 2
  (low, 4 * significand, 4 * significand + 2)

/-- A decimal number with its last digit at the given power of ten that rounds to the given number,
if there is one: of the two neighbours the one that does, the nearer if both do. -/
def onGrid (significand : Nat) (exponent : Int) (place : Int) : Option Decimal :=
  let (low, middle, high) := quarters significand exponent
  let (up2, down2) := power 2 (exponent - 2)
  let (up10, down10) := power 10 place
  -- a quarter is worth `unit / step` steps of the grid
  let unit := up2 * down10
  let step := down2 * up10
  let below := middle * unit / step
  let fits (n : Nat) : Bool :=
    if significand % 2 = 0 then low * unit ≤ n * step && n * step ≤ high * unit
    else low * unit < n * step && n * step < high * unit
  let belowFits := 0 < below && fits below
  let aboveFits := fits (below + 1)
  let twice := 2 * (middle * unit)
  let middleOfGrid := (2 * below + 1) * step
  if belowFits && aboveFits then
    if twice < middleOfGrid || (twice = middleOfGrid && below % 2 = 0) then some ⟨below, place⟩
    else some ⟨below + 1, place⟩
  else if belowFits then some ⟨below, place⟩
  else if aboveFits then some ⟨below + 1, place⟩
  else none

/-- The greatest power of ten that is at most a positive fraction, searched downwards from a power
that is too great. -/
def leadingPlace (num den : Nat) : (fuel : Nat) → Int → Int
  | 0, place => place
  | fuel + 1, place =>
    let (up, down) := power 10 place
    if up * den ≤ num * down then place else leadingPlace num den fuel (place - 1)

/-- The decimal number with the fewest digits that reads back as the given positive number. With
seventeen digits there always is one. -/
def shortest (significand : Nat) (exponent : Int) : Decimal :=
  let (up, down) := power 2 exponent
  let top := ((significand.log2 : Int) + exponent) * 3 / 10 + 2
  let lead := leadingPlace (significand * up) down 40 top
  let hits := (List.range 17).filterMap fun (i : Nat) => onGrid significand exponent (lead - (i : Int))
  hits.headD ⟨significand * up, 0⟩

/-- A decimal number whose last digit is not zero, or that is zero. -/
def Decimal.stripZeros : (fuel : Nat) → Decimal → Decimal
  | 0, d => d
  | fuel + 1, d =>
    if d.digits % 10 = 0 ∧ d.digits ≠ 0 then stripZeros fuel ⟨d.digits / 10, d.exponent + 1⟩ else d

end Binary64

end ScenarioDesk
