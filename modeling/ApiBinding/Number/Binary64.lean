import ApiBinding.Number.Power

/-!
# Numbers of the binary64 format

A finite number is a sign, a significand below `2 ^ 53` and an exponent of two
that is at least `-1074`; the value is exact, and no machine arithmetic is
involved.  Rounding takes an exact ratio to the nearest number of the format,
a half going to the even neighbour.
-/

namespace ApiBinding

/-- A number of the binary64 format: `± significand * 2 ^ exponent`, an infinity,
or not a number. -/
inductive Binary64 where
  | finite (negative : Bool) (significand : Nat) (exponent : Int)
  | infinite (negative : Bool)
  | nan
deriving DecidableEq, Repr

namespace Binary64

/-- The least exponent of two. -/
def minExponent : Int := -1074

/-- The greatest exponent of two. -/
def maxExponent : Int := 971

/-- Zero with a sign. -/
def zero (negative : Bool) : Binary64 :=
  .finite negative 0 minExponent

instance : Inhabited Binary64 := ⟨zero false⟩

/-- Whether a number is neither infinite nor not a number. -/
def isFinite : Binary64 → Bool
  | .finite _ _ _ => true
  | _ => false

/-- The quotient rounded to the nearest whole number, a half to the even one. -/
def roundDiv (num den : Nat) : Nat :=
  let q := num / den
  let r := num % den
  if den < 2 * r ∨ (2 * r = den ∧ q % 2 = 1) then q + 1 else q

/-- A ratio divided by a power of two, as a ratio. -/
def scaleRatio (num den : Nat) (exponent : Int) : Nat × Nat :=
  if exponent < 0 then (num * powerOfTwo (-exponent).toNat, den)
  else (num, den * powerOfTwo exponent.toNat)

/-- The exponent at which the significand of a positive ratio has 53 bits, unless
that lies below the format's least exponent. -/
def ratioExponent (num den : Nat) : Int :=
  let guess : Int := (Nat.log2 num : Int) - (Nat.log2 den : Int) - 52
  let scaled := scaleRatio num den guess
  let exact := if powerOfTwo 52 ≤ scaled.1 / scaled.2 then guess else guess - 1
  max exact minExponent

/-- The number nearest to a ratio. -/
def ofRatio (negative : Bool) (num den : Nat) : Binary64 :=
  if num = 0 then zero negative
  else
    let exponent := ratioExponent num den
    let scaled := scaleRatio num den exponent
    let significand := roundDiv scaled.1 scaled.2
    if significand = powerOfTwo 53 then
      if maxExponent ≤ exponent then .infinite negative
      else .finite negative (powerOfTwo 52) (exponent + 1)
    else if maxExponent < exponent then .infinite negative
    else .finite negative significand exponent

/-- The number nearest to a whole number. -/
def ofInt (n : Int) : Binary64 :=
  ofRatio (n < 0) n.natAbs 1

/-- How many decimal digits a number has. -/
def decimalLength (n : Nat) : Nat :=
  (Nat.toDigits 10 n).length

/-- The number nearest to `± coefficient * 10 ^ exponent`.  Magnitudes far outside
the format are settled by their length alone. -/
def ofDecimal (negative : Bool) (coefficient : Nat) (exponent : Int) : Binary64 :=
  if coefficient = 0 then zero negative
  else
    let magnitude := exponent + decimalLength coefficient
    if 400 < magnitude then .infinite negative
    else if magnitude < -400 then zero negative
    else if exponent < 0 then ofRatio negative coefficient (powerOfTen (-exponent).toNat)
    else ofRatio negative (coefficient * powerOfTen exponent.toNat) 1

/-- The magnitude as a ratio. -/
def magnitudeRatio (significand : Nat) (exponent : Int) : Nat × Nat :=
  if exponent < 0 then (significand, powerOfTwo (-exponent).toNat)
  else (significand * powerOfTwo exponent.toNat, 1)

/-- Whether a number is whole. -/
def isWhole : Binary64 → Bool
  | .finite _ significand exponent =>
    let ratio := magnitudeRatio significand exponent
    ratio.1 % ratio.2 == 0
  | _ => false

/-- The whole part of the magnitude; none for what is not finite. -/
def wholeMagnitude? : Binary64 → Option Nat
  | .finite _ significand exponent =>
    let ratio := magnitudeRatio significand exponent
    some (ratio.1 / ratio.2)
  | _ => none

/-- Whether a number is zero, of either sign. -/
def isZero : Binary64 → Bool
  | .finite _ significand _ => significand == 0
  | _ => false

end Binary64

end ApiBinding
