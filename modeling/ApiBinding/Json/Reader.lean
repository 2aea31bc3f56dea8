import ApiBinding.Json.Basic
import ApiBinding.Number.Power
import ApiBinding.Number.Stepwise
import ApiBinding.Text.Percent

/-!
# Reading JSON text

A reader of the strict grammar: no comments, no trailing commas, no leading
zeros, no unpaired surrogate escapes, no number beyond the binary64 range, and
only a bounded nesting of arrays and objects.  A whole number that does not fit
64 bits is read in the binary64 format, and so is minus zero.  Reading in that format
rounds step by step and so need not give the nearest number.
-/

namespace ApiBinding

namespace Json

/-- How many arrays and objects may stand inside each other. -/
def nestingLimit : Nat := 127

/-- The four blanks of the grammar. -/
def isSpace (c : Char) : Bool :=
  c = ' ' || c = '\n' || c = '\t' || c = '\r'

/-- The text without its leading blanks. -/
def skipSpace (cs : List Char) : List Char :=
  cs.dropWhile isSpace

/-- The text after an expected word. -/
def expect? : List Char → List Char → Option (List Char)
  | [], cs => some cs
  | _ :: _, [] => none
  | w :: word, c :: cs => if w = c then expect? word cs else none

/-- The code of four hexadecimal digits. -/
def hexCode? (a b c d : Char) : Option Nat := do
  let a ← Text.hexValue? a
  let b ← Text.hexValue? b
  let c ← Text.hexValue? c
  let d ← Text.hexValue? d
  return ((a * 16 + b) * 16 + c) * 16 + d

/-- Whether a code is the first half of a surrogate pair. -/
def isHighSurrogate (code : Nat) : Bool := 0xD800 ≤ code && code < 0xDC00

/-- Whether a code is the second half of a surrogate pair. -/
def isLowSurrogate (code : Nat) : Bool := 0xDC00 ≤ code && code < 0xE000

/-- The character that a letter after a backslash stands for. -/
def simpleEscape? (c : Char) : Option Char :=
  if c = '\x22' then some '\x22'
  else if c = '\\' then some '\\'
  else if c = '/' then some '/'
  else if c = 'b' then some '\x08'
  else if c = 'f' then some '\x0C'
  else if c = 'n' then some '\n'
  else if c = 'r' then some '\r'
  else if c = 't' then some '\t'
  else none

/-- The characters of a string after its opening quote, and what follows the
closing one. -/
def readString : List Char → Option (List Char × List Char)
  | [] => none
  | '\x22' :: rest => some ([], rest)
  | '\\' :: 'u' :: a :: b :: c :: d :: rest => do
    let code ← hexCode? a b c d
    if isLowSurrogate code then none
    else if isHighSurrogate code then
      match rest with
      | '\\' :: 'u' :: e :: f :: g :: h :: rest => do
        let low ← hexCode? e f g h
        if isLowSurrogate low then
          let (cs, rest) ← readString rest
          return (Char.ofNat (0x10000 + (code - 0xD800) * 0x400 + (low - 0xDC00)) :: cs, rest)
        else none
      | _ => none
    else
      let (cs, rest) ← readString rest
      return (Char.ofNat code :: cs, rest)
  | '\\' :: c :: rest => do
    let c ← simpleEscape? c
    let (cs, rest) ← readString rest
    return (c :: cs, rest)
  | c :: rest =>
    if c.toNat < 0x20 || c = '\\' then none
    else do
      let (cs, rest) ← readString rest
      return (c :: cs, rest)

/-- The number of a written number: whole if it has neither a fraction nor a power
of ten and fits, else one of the binary64 format; none beyond its range. -/
def numberOf? (written : WrittenNumber) (whole : Bool) : Option JsonNumber :=
  let magnitude := digitsValue written.whole
  if whole && !written.negative && magnitude < naturalBound then some (.whole magnitude)
  else if whole && written.negative && magnitude ≠ 0 && magnitude ≤ integerBound then
    some (.whole (-(magnitude : Int)))
  else JsonNumber.ofBinary64? written.readBinary64

/-- The digits before the point: a zero alone, or digits that start with another. -/
def readWhole? : List Char → Option (List Char × List Char)
  | '0' :: rest => some (['0'], rest)
  | cs =>
    let digits := cs.takeWhile Char.isDigit
    if digits.isEmpty then none else some (digits, cs.dropWhile Char.isDigit)

/-- The digits after a point, if there is one. -/
def readFraction? : List Char → Option (List Char × List Char)
  | '.' :: rest =>
    let digits := rest.takeWhile Char.isDigit
    if digits.isEmpty then none else some (digits, rest.dropWhile Char.isDigit)
  | cs => some ([], cs)

/-- The power of ten, if there is one. -/
def readPower? : List Char → Option (Option Int × List Char)
  | 'e' :: rest | 'E' :: rest =>
    (WrittenNumber.readExponent? rest).map fun power => (some power.1, power.2)
  | cs => some (none, cs)

/-- A number and what follows it. -/
def readNumber? (cs : List Char) : Option (JsonNumber × List Char) := do
  let negative := cs.head? == some '-'
  let (whole, cs) ← readWhole? (if negative then cs.drop 1 else cs)
  let (fraction, cs) ← readFraction? cs
  let (power, cs) ← readPower? cs
  let isWhole := fraction.isEmpty && power.isNone
  let number ← numberOf? ⟨negative, whole, fraction, power.getD 0⟩ isWhole
  return (number, cs)

mutual

/-- A value and what follows it.  The first number bounds the steps, the second the
nesting still allowed. -/
def readValue : Nat → Nat → List Char → Option (Json × List Char)
  | 0, _, _ => none
  | fuel + 1, nesting, cs =>
    match skipSpace cs with
    | 'n' :: rest => (expect? ['u', 'l', 'l'] rest).map fun rest => (null, rest)
    | 't' :: rest => (expect? ['r', 'u', 'e'] rest).map fun rest => (bool true, rest)
    | 'f' :: rest => (expect? ['a', 'l', 's', 'e'] rest).map fun rest => (bool false, rest)
    | '\x22' :: rest => (readString rest).map fun read => (str (String.ofList read.1), read.2)
    | '[' :: rest =>
      if nesting = 0 then none
      else match skipSpace rest with
        | ']' :: rest => some (arr [], rest)
        | rest => (readItems fuel (nesting - 1) rest).map fun read => (arr read.1, read.2)
    | '\x7b' :: rest =>
      if nesting = 0 then none
      else match skipSpace rest with
        | '\x7d' :: rest => some (obj [], rest)
        | rest => (readMembers fuel (nesting - 1) rest).map fun read => (obj read.1, read.2)
    | cs => (readNumber? cs).map fun read => (num read.1, read.2)

/-- Items up to the closing bracket. -/
def readItems : Nat → Nat → List Char → Option (List Json × List Char)
  | 0, _, _ => none
  | fuel + 1, nesting, cs => do
    let (item, rest) ← readValue fuel nesting cs
    match skipSpace rest with
    | ',' :: rest =>
      let (items, rest) ← readItems fuel nesting rest
      return (item :: items, rest)
    | ']' :: rest => return ([item], rest)
    | _ => none

/-- Members up to the closing brace. -/
def readMembers : Nat → Nat → List Char → Option (List (String × Json) × List Char)
  | 0, _, _ => none
  | fuel + 1, nesting, cs =>
    match skipSpace cs with
    | '\x22' :: rest => do
      let (name, rest) ← readString rest
      match skipSpace rest with
      | ':' :: rest =>
        let (value, rest) ← readValue fuel nesting rest
        match skipSpace rest with
        | ',' :: rest =>
          let (members, rest) ← readMembers fuel nesting rest
          return ((String.ofList name, value) :: members, rest)
        | '\x7d' :: rest => return ([(String.ofList name, value)], rest)
        | _ => none
      | _ => none
    | _ => none

end

/-- The value of a whole text, with repeated names as they were written. -/
def parseRepeating? (nesting : Nat) (cs : List Char) : Option Json := do
  let (value, rest) ← readValue (2 * cs.length + 2) nesting cs
  if (skipSpace rest).isEmpty then some value else none

/-- The value of a whole text. -/
def parse? (cs : List Char) : Option Json :=
  (parseRepeating? nestingLimit cs).map mergeRepeats

end Json

end ApiBinding
