import ApiBinding.Number.Binary64
import ApiBinding.Text.LetterCase

/-!
# Reading decimal numbers

The parts of a written decimal number, and the binary64 number nearest to it.
-/

namespace ApiBinding

/-- The whole number that a list of decimal digits writes. -/
def digitsValue (digits : List Char) : Nat :=
  digits.foldl (fun n c => n * 10 + (c.toNat - 0x30)) 0

/-- A written decimal number: sign, digits before and after the point, power of ten. -/
structure WrittenNumber where
  negative : Bool
  whole : List Char
  fraction : List Char
  exponent : Int
deriving DecidableEq, Repr

namespace WrittenNumber

/-- The digits as one coefficient. -/
def coefficient (w : WrittenNumber) : Nat :=
  digitsValue (w.whole ++ w.fraction)

/-- The power of ten that belongs to the coefficient. -/
def scale (w : WrittenNumber) : Int :=
  w.exponent - (w.fraction.length : Int)

/-- The nearest number of the binary64 format. -/
def toBinary64 (w : WrittenNumber) : Binary64 :=
  Binary64.ofDecimal w.negative w.coefficient w.scale

/-- An optional sign: whether it is a minus, and what follows. -/
def readSign : List Char → Bool × List Char
  | '-' :: rest => (true, rest)
  | '+' :: rest => (false, rest)
  | cs => (false, cs)

/-- A power of ten after its letter: an optional sign and at least one digit. -/
def readExponent? (cs : List Char) : Option (Int × List Char) :=
  let signed := readSign cs
  let digits := signed.2.takeWhile Char.isDigit
  if digits.isEmpty then none
  else
    let value : Int := digitsValue digits
    some (if signed.1 then -value else value, signed.2.dropWhile Char.isDigit)

/-- A whole text in the liberal grammar: the sign, the point and the power of ten
are optional, and a digit on either side of the point is enough. -/
def ofText? (cs : List Char) : Option WrittenNumber :=
  let signed := readSign cs
  let whole := signed.2.takeWhile Char.isDigit
  let afterWhole := signed.2.dropWhile Char.isDigit
  let fraction := match afterWhole with
    | '.' :: rest => rest.takeWhile Char.isDigit
    | _ => []
  let afterFraction := match afterWhole with
    | '.' :: rest => rest.dropWhile Char.isDigit
    | _ => afterWhole
  if whole.isEmpty && fraction.isEmpty then none
  else
    match afterFraction with
    | [] => some ⟨signed.1, whole, fraction, 0⟩
    | c :: rest =>
      if c = 'e' ∨ c = 'E' then
        match readExponent? rest with
        | some (exponent, []) => some ⟨signed.1, whole, fraction, exponent⟩
        | _ => none
      else none

end WrittenNumber

namespace Binary64

/-- The number a text names: a decimal number, an infinity, or not a number, the
latter two in letters of either case. -/
def ofText? (text : String) : Option Binary64 :=
  let cs := text.toList
  let signed := WrittenNumber.readSign cs
  let word := String.ofList (Text.lowered signed.2)
  if word = "inf" ∨ word = "infinity" then some (.infinite signed.1)
  else if word = "nan" then some .nan
  else (WrittenNumber.ofText? cs).map WrittenNumber.toBinary64

end Binary64

end ApiBinding
