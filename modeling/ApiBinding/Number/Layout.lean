import ApiBinding.Number.Power
import ApiBinding.Number.Shortest

/-!
# Texts of numbers

How the digits of a number are laid out: where positional notation ends, whether a
whole number keeps a zero after the point, and how a tie between two equally short
and equally near decimals is broken.  Two layouts are in use, the
one of JSON texts and the plain one of addresses and headers.
-/

namespace ApiBinding

/-- The decisions of a number format. -/
structure NumberLayout where
  /-- Exponents of the first digit written without a power of ten: from the first
  bound, below the second.  None means all of them. -/
  positional : Option (Int × Int)
  /-- Whether a whole number is written with a point and a zero. -/
  keepsPoint : Bool
  /-- Which of two equally short and equally near decimals is written. -/
  tie : Tie
deriving DecidableEq, Repr

namespace NumberLayout

/-- Numbers in JSON: positional from `1e-5` to below `1e16`, always with a point or
an exponent, and the exponent with its sign.  A tie goes to the even digit. -/
def json : NumberLayout := ⟨some (-5, 16), true, .toEven⟩

/-- Numbers in addresses and headers: never an exponent, whole numbers without a point.
A tie goes away from zero. -/
def plain : NumberLayout := ⟨none, false, .awayFromZero⟩

/-- The exponent of the first digit. -/
def leading (d : DecimalDigits) : Int :=
  d.exponent + ((Nat.toDigits 10 d.coefficient).length : Int) - 1

/-- Positional notation. -/
def writePositional (layout : NumberLayout) (d : DecimalDigits) : List Char :=
  let digits := Nat.toDigits 10 d.coefficient
  let first := leading d
  if 0 ≤ d.exponent then
    digits ++ List.replicate d.exponent.toNat '0' ++ (if layout.keepsPoint then ['.', '0'] else [])
  else if 0 ≤ first then
    digits.take (first.toNat + 1) ++ '.' :: digits.drop (first.toNat + 1)
  else
    '0' :: '.' :: List.replicate ((-first).toNat - 1) '0' ++ digits

/-- Notation with a power of ten. -/
def writeScientific (d : DecimalDigits) : List Char :=
  let digits := Nat.toDigits 10 d.coefficient
  let first := leading d
  let fraction := digits.drop 1
  digits.take 1 ++ (if fraction.isEmpty then [] else '.' :: fraction) ++
    'e' :: (if first < 0 then '-' else '+') :: Nat.toDigits 10 first.natAbs

/-- The digits in the chosen notation. -/
def writeDigits (layout : NumberLayout) (d : DecimalDigits) : List Char :=
  match layout.positional with
  | none => layout.writePositional d
  | some (low, high) =>
    if d.coefficient = 0 ∨ (low ≤ leading d ∧ leading d < high) then layout.writePositional d
    else writeScientific d

/-- The text of a number. -/
def write (layout : NumberLayout) : Binary64 → String
  | .finite negative significand exponent =>
    String.ofList
      ((if negative then ['-'] else []) ++
        layout.writeDigits (DecimalDigits.shortest layout.tie significand exponent))
  | .infinite negative => if negative then "-inf" else "inf"
  | .nan => "NaN"

end NumberLayout

namespace Binary64

/-- The bound below which whole numbers are written as whole numbers. -/
def wholeTextBound : Nat := powerOfTen 15

/-- The text of a number in an address or a header: a whole number of moderate size
without a point and without the sign of zero, any other in the plain layout. -/
def plainText (x : Binary64) : String :=
  match x, x.wholeMagnitude? with
  | .finite negative _ _, some magnitude =>
    if x.isWhole ∧ magnitude < wholeTextBound then
      if negative ∧ magnitude ≠ 0 then "-" ++ toString magnitude else toString magnitude
    else NumberLayout.plain.write x
  | _, _ => NumberLayout.plain.write x

end Binary64

end ApiBinding
