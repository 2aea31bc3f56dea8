import ApiBinding.Number.Reader

/-!
# Reading numbers step by step

JSON texts are read with machine arithmetic.  As many digits as fit 64 bits are taken as a
whole number, and the others only count as places.  The whole number is rounded to the
binary64 format, and then multiplied or divided there by the power of ten, which is a number
of the format as well.  Each of these steps rounds, so that what is read need not be the
nearest number of the format.
-/

namespace ApiBinding

/-- Take digits behind those that have a value already, as long as the number fits 64 bits
without sign: its value, and the digits that are left out. -/
def takeDigits (value : Nat) : List Char → Nat × List Char
  | [] => (value, [])
  | c :: rest =>
    let next := value * 10 + (c.toNat - 0x30)
    if next < naturalBound then takeDigits next rest else (value, c :: rest)

namespace Binary64

/-- The power of ten of the format, a whole number. -/
def nearestPower (n : Nat) : Nat :=
  (ofRatio false (powerOfTen n) 1).wholeMagnitude?.getD 0

/-- The greatest power of ten of the format. -/
def greatestPower : Nat := 308

/-- The product with a power of ten, rounded. -/
def timesPower (n : Nat) : Binary64 → Binary64
  | .finite negative significand exponent =>
    let ratio := magnitudeRatio significand exponent
    ofRatio negative (ratio.1 * nearestPower n) ratio.2
  | x => x

/-- The quotient by a power of ten, rounded. -/
def overPower (n : Nat) : Binary64 → Binary64
  | .finite negative significand exponent =>
    let ratio := magnitudeRatio significand exponent
    ofRatio negative ratio.1 (ratio.2 * nearestPower n)
  | x => x

/-- Divide by the greatest power of ten so many times, unless zero is reached before. -/
def overGreatest : Nat → Binary64 → Binary64
  | 0, x => x
  | count + 1, x => if x.isZero then x else overGreatest count (x.overPower greatestPower)

/-- A whole number times a power of ten, rounded at each step.  A power above the greatest one
is out of range, and one below its inverse is divided by in turns. -/
def ofSteps (negative : Bool) (digits : Nat) (exponent : Int) : Binary64 :=
  let x := ofRatio negative digits 1
  let power := exponent.natAbs
  if exponent < 0 then
    let turns := (power - 1) / greatestPower
    (overGreatest turns x).overPower (power - turns * greatestPower)
  else if power ≤ greatestPower then x.timesPower power
  else if x.isZero then x
  else .infinite negative

end Binary64

namespace WrittenNumber

/-- The number of the format that a written number is read as.  Digits before the point that
are left out count as places, those behind it do not. -/
def readBinary64 (w : WrittenNumber) : Binary64 :=
  let whole := takeDigits 0 w.whole
  let taken := takeDigits whole.1 w.fraction
  let places : Int := (w.fraction.length - taken.2.length : Nat)
  Binary64.ofSteps w.negative taken.1 (whole.2.length - places + w.exponent)

end WrittenNumber

end ApiBinding
