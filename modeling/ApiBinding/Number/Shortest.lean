import ApiBinding.Number.Binary64
import ApiBinding.Number.Power

/-!
# Shortest decimal digits

The decimal digits of a binary64 number are the fewest that read back to it, and
of those the nearest.  The numbers that read back form an interval around the
value, closed exactly when the significand is even; for one digit, two digits,
and so on, the two neighbours of the value on that decimal grid are tested
against the interval, in whole-number arithmetic.  Where both neighbours read back
and are equally near, the tie is broken as the format of the text asks.
-/

namespace ApiBinding

/-- Which of two equally near numbers is taken. -/
inductive Tie where
  /-- The one whose last digit is even. -/
  | toEven
  /-- The greater one in magnitude. -/
  | awayFromZero
deriving DecidableEq, Repr

/-- The quotient rounded to the nearest whole number. -/
def Tie.roundDiv (tie : Tie) (num den : Nat) : Nat :=
  match tie with
  | .toEven => Binary64.roundDiv num den
  | .awayFromZero => (2 * num + den) / (2 * den)

/-- A decimal number without trailing zeros: `coefficient * 10 ^ exponent`. -/
structure DecimalDigits where
  coefficient : Nat
  exponent : Int
deriving DecidableEq, Repr

namespace DecimalDigits

/-- Remove the trailing zeros of a coefficient; the fuel is at least their number. -/
def strip : Nat → Nat → Int → DecimalDigits
  | 0, coefficient, exponent => ⟨coefficient, exponent⟩
  | fuel + 1, coefficient, exponent =>
    if coefficient ≠ 0 ∧ coefficient % 10 = 0 then strip fuel (coefficient / 10) (exponent + 1)
    else ⟨coefficient, exponent⟩

/-- The interval that rounds to a number, as numerators over one denominator:
lower end, value, upper end, and whether the ends belong to it. -/
structure Interval where
  lower : Nat
  value : Nat
  upper : Nat
  denominator : Nat
  closed : Bool

/-- The interval of a positive number.  Below a power of two the gap is half as wide. -/
def Interval.of (significand : Nat) (exponent : Int) : Interval :=
  let narrow := significand = powerOfTwo 52 ∧ Binary64.minExponent < exponent
  let scale := Binary64.magnitudeRatio 1 (exponent - 2)
  { lower := (4 * significand - if narrow then 1 else 2) * scale.1
    value := 4 * significand * scale.1
    upper := (4 * significand + 2) * scale.1
    denominator := scale.2
    closed := significand % 2 == 0 }

/-- A power of ten as a ratio. -/
def tenRatio (exponent : Int) : Nat × Nat :=
  if exponent < 0 then (1, powerOfTen (-exponent).toNat) else (powerOfTen exponent.toNat, 1)

/-- Raise a decimal exponent while the next power of ten is still at most the ratio. -/
def climb (num den : Nat) : Nat → Int → Int
  | 0, exponent => exponent
  | fuel + 1, exponent =>
    let next := tenRatio (exponent + 1)
    if next.1 * den ≤ num * next.2 then climb num den fuel (exponent + 1) else exponent

/-- The decimal exponent of the first digit of a positive ratio. -/
def leadingExponent (num den : Nat) : Int :=
  let bits : Int := (Nat.log2 num : Int) - (Nat.log2 den : Int)
  climb num den 5 (Int.fdiv (bits * 30103) 100000 - 2)

/-- Whether `coefficient * 10 ^ exponent` lies in the interval. -/
def Interval.holds (interval : Interval) (coefficient : Nat) (exponent : Int) : Bool :=
  let ten := tenRatio exponent
  let point := coefficient * ten.1 * interval.denominator
  if interval.closed then
    interval.lower * ten.2 ≤ point && point ≤ interval.upper * ten.2
  else
    interval.lower * ten.2 < point && point < interval.upper * ten.2

/-- The neighbour of the value on the grid of `10 ^ exponent` that lies in the
interval, the nearer one if both do. -/
def Interval.onGrid? (interval : Interval) (tie : Tie) (exponent : Int) : Option Nat :=
  let ten := tenRatio exponent
  let num := interval.value * ten.2
  let den := interval.denominator * ten.1
  let below := num / den
  match interval.holds below exponent, interval.holds (below + 1) exponent with
  | true, true => some (tie.roundDiv num den)
  | true, false => some below
  | false, true => some (below + 1)
  | false, false => none

/-- Try the grids of one digit more at a time. -/
def search (interval : Interval) (tie : Tie) : Nat → Int → DecimalDigits
  | 0, exponent => ⟨interval.value * (tenRatio exponent).2 /
      (interval.denominator * (tenRatio exponent).1), exponent⟩
  | fuel + 1, exponent =>
    match interval.onGrid? tie exponent with
    | some coefficient => strip 20 coefficient exponent
    | none => search interval tie fuel (exponent - 1)

/-- The shortest digits of the magnitude of a finite number. -/
def shortest (tie : Tie) (significand : Nat) (exponent : Int) : DecimalDigits :=
  if significand = 0 then ⟨0, 0⟩
  else
    let interval := Interval.of significand exponent
    search interval tie 17 (leadingExponent interval.value interval.denominator)

end DecimalDigits

end ApiBinding
