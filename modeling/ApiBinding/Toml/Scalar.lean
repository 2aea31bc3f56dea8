import ApiBinding.Moment.Reader
import ApiBinding.Number.Power
import ApiBinding.Number.Reader
import ApiBinding.Toml.Basic
import ApiBinding.Toml.Text

/-!
# Numbers and moments of TOML

Digits may be parted by single underscores.  A whole number has 64 bits and may be
written in four bases; a number with a point or a power of ten is of the binary64
format.  A date and a time are joined by a letter or a blank, and either may stand
alone; an offset needs both.
-/

namespace ApiBinding.Toml

/-- Digits of a class with single underscores between them, and what follows. -/
def readRun (isDigit : Char → Bool) : List Char → List Char × List Char
  | [] => ([], [])
  | [c] => if isDigit c then ([c], []) else ([], [c])
  | c :: '_' :: d :: rest =>
    if isDigit c then
      if isDigit d then
        let read := readRun isDigit (d :: rest)
        (c :: read.1, read.2)
      else ([c], '_' :: d :: rest)
    else ([], c :: '_' :: d :: rest)
  | c :: rest =>
    if isDigit c then
      let read := readRun isDigit rest
      (c :: read.1, read.2)
    else ([], c :: rest)

/-- A whole number of 64 bits. -/
def integer64? (n : Int) : Option Value :=
  if fitsInteger n then some (.whole n) else none

/-- A whole number in a base, after the mark of the base. -/
def readBased? (base : Nat) (cs : List Char) : Option (Value × List Char) :=
  let isDigit := fun c => (Text.hexValue? c).any fun d => decide (d < base)
  let run := readRun isDigit cs
  if run.1.isEmpty then none
  else
    let n := run.1.foldl (fun n c => n * base + (Text.hexValue? c).getD 0) 0
    (integer64? n).map fun value => (value, run.2)

/-- The digits after a point, if there is one. -/
def readFraction? : List Char → Option (Option (List Char) × List Char)
  | '.' :: rest =>
    let run := readRun Char.isDigit rest
    if run.1.isEmpty then none else some (some run.1, run.2)
  | cs => some (none, cs)

/-- The power of ten after its letter, if there is one. -/
def readPower? : List Char → Option (Option Int × List Char)
  | 'e' :: rest | 'E' :: rest =>
    let signed := WrittenNumber.readSign rest
    let run := readRun Char.isDigit signed.2
    if run.1.isEmpty then none
    else
      let power : Int := digitsValue run.1
      some (some (if signed.1 then -power else power), run.2)
  | cs => some (none, cs)

/-- A number in base ten, and what follows it. -/
def readDecimal? (cs : List Char) : Option (Value × List Char) := do
  let (negative, unsigned) := WrittenNumber.readSign cs
  match unsigned with
  | 'i' :: 'n' :: 'f' :: rest => return (.real (.infinite negative), rest)
  | 'n' :: 'a' :: 'n' :: rest => return (.real .nan, rest)
  | _ =>
    let (whole, rest) := match unsigned with
      | '0' :: rest => (['0'], rest)
      | cs => readRun Char.isDigit cs
    if whole.isEmpty then none
    else
      let (fraction, rest) ← readFraction? rest
      let (power, rest) ← readPower? rest
      if fraction.isNone && power.isNone then
        let magnitude : Int := digitsValue whole
        (integer64? (if negative then -magnitude else magnitude)).map fun value => (value, rest)
      else
        let written : WrittenNumber := ⟨negative, whole, fraction.getD [], power.getD 0⟩
        match written.toBinary64 with
        | .infinite false => none
        | x => return (.real x, rest)

/-- A number, and what follows it. -/
def readNumber? : List Char → Option (Value × List Char)
  | '0' :: 'x' :: rest => readBased? 16 rest
  | '0' :: 'o' :: rest => readBased? 8 rest
  | '0' :: 'b' :: rest => readBased? 2 rest
  | cs => readDecimal? cs

/-! ## Moments -/

/-- A date in its normal form, and what follows it. -/
def readDate? (cs : List Char) : Option (String × List Char) := do
  let (year, cs) ← Moment.readExact? 4 cs
  let cs ← Moment.readChar? '-' cs
  let (month, cs) ← Moment.readExact? 2 cs
  let cs ← Moment.readChar? '-' cs
  let (day, cs) ← Moment.readExact? 2 cs
  let _ ← CalendarDay.make? year month day
  return (Moment.padded 4 year ++ "-" ++ Moment.padded 2 month ++ "-" ++ Moment.padded 2 day, cs)

/-- The fraction of a second in its normal form: at most nine digits, none of them a
zero at the end. -/
def fractionText (digits : List Char) : String :=
  let kept := Text.dropWhileEnd (· = '0') (digits.take 9)
  if kept.isEmpty then "" else String.ofList ('.' :: kept)

/-- A time in its normal form, and what follows it. -/
def readTime? (cs : List Char) : Option (String × List Char) := do
  let (hour, cs) ← Moment.readExact? 2 cs
  let cs ← Moment.readChar? ':' cs
  let (minute, cs) ← Moment.readExact? 2 cs
  let cs ← Moment.readChar? ':' cs
  let (second, cs) ← Moment.readExact? 2 cs
  if 24 ≤ hour ∨ 60 ≤ minute ∨ 60 < second then none
  else
    let text := Moment.padded 2 hour ++ ":" ++ Moment.padded 2 minute ++ ":" ++ Moment.padded 2 second
    match cs with
    | '.' :: rest =>
      let digits := rest.takeWhile Char.isDigit
      if digits.isEmpty then return (text, cs)
      else return (text ++ fractionText digits, rest.drop digits.length)
    | _ => return (text, cs)

/-- An offset in its normal form, and what follows it. -/
def readOffset? (cs : List Char) : Option (String × List Char) :=
  match cs with
  | 'Z' :: rest | 'z' :: rest => some ("Z", rest)
  | sign :: rest =>
    if sign = '+' ∨ sign = '-' then do
      let (hours, rest) ← Moment.readExact? 2 rest
      let rest ← Moment.readChar? ':' rest
      let (minutes, rest) ← Moment.readExact? 2 rest
      if 24 ≤ hours ∨ 60 ≤ minutes then none
      else
        let sign := if sign = '-' ∧ (hours, minutes) ≠ (0, 0) then "-" else "+"
        return (sign ++ Moment.padded 2 hours ++ ":" ++ Moment.padded 2 minutes, rest)
    else none
  | [] => none

/-- A date, a time, or a date and a time with or without an offset, and what follows. -/
def readMoment? (cs : List Char) : Option (Value × List Char) :=
  match readDate? cs with
  | none => (readTime? cs).map fun time => (.moment time.1, time.2)
  | some (date, rest) =>
    let time := do
      let rest ← Moment.readSeparator? rest
      let (time, rest) ← readTime? rest
      match readOffset? rest with
      | some (offset, rest) => return (date ++ "T" ++ time ++ offset, rest)
      | none => return (date ++ "T" ++ time, rest)
    match time with
    | some (text, rest) => some (.moment text, rest)
    | none => some (.moment date, rest)

/-- A number or a moment, and what follows it. -/
def readScalar? (cs : List Char) : Option (Value × List Char) :=
  match readMoment? cs with
  | some read => some read
  | none => readNumber? cs

end ApiBinding.Toml
