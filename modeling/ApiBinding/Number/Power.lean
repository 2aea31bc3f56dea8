/-!
# Powers and bounds

The powers of two and ten in which numbers are measured, and the bounds of the whole
numbers of 64 bits.
-/

namespace ApiBinding

/-- A power of two. -/
def powerOfTwo (n : Nat) : Nat := Nat.pow 2 n

/-- A power of ten. -/
def powerOfTen (n : Nat) : Nat := Nat.pow 10 n

/-- The bound of the whole numbers of 64 bits without sign. -/
def naturalBound : Nat := powerOfTwo 64

/-- The bound of the whole numbers of 64 bits with sign. -/
def integerBound : Nat := powerOfTwo 63

/-- Whether a whole number fits 64 bits with sign. -/
def fitsInteger (n : Int) : Bool :=
  decide (-(integerBound : Int) ≤ n) && decide (n < (integerBound : Int))

/-- A power of two is positive. -/
theorem powerOfTwo_pos (n : Nat) : 0 < powerOfTwo n :=
  Nat.pow_pos (by decide)

/-- A power of ten is positive. -/
theorem powerOfTen_pos (n : Nat) : 0 < powerOfTen n :=
  Nat.pow_pos (by decide)

/-- The bound of the whole numbers without sign, in digits. -/
theorem naturalBound_eq : naturalBound = 18446744073709551616 := rfl

/-- The bound of the whole numbers with sign, in digits. -/
theorem integerBound_eq : integerBound = 9223372036854775808 := rfl

end ApiBinding
