import ApiBinding.Moment.Basic
import ApiBinding.Number.Power
import ApiBinding.Text.Blank
import ApiBinding.Text.LetterCase

/-!
# Reading moments

A moment is written strictly with its offset, or as a date and time without one, or
as a date alone; the latter two are taken for the zone without offset.  A relaxed
form with offset, which allows blanks between its parts, is used where values are
stored.
-/

namespace ApiBinding.Moment

/-- The number that digits write. -/
def digitsNumber (digits : List Char) : Nat :=
  digits.foldl (fun n c => n * 10 + (c.toNat - 0x30)) 0

/-- A number of at least one and at most so many digits. -/
def readNumber? (width : Nat) (cs : List Char) : Option (Nat × List Char) :=
  let digits := (cs.take width).takeWhile Char.isDigit
  if digits.isEmpty then none else some (digitsNumber digits, cs.drop digits.length)

/-- A number of exactly so many digits. -/
def readExact? (width : Nat) (cs : List Char) : Option (Nat × List Char) :=
  let digits := (cs.take width).takeWhile Char.isDigit
  if digits.length = width then some (digitsNumber digits, cs.drop width) else none

/-- A given character. -/
def readChar? (c : Char) : List Char → Option (List Char)
  | [] => none
  | first :: rest => if first = c then some rest else none

/-- The separator of date and time. -/
def readSeparator? : List Char → Option (List Char)
  | 'T' :: rest | 't' :: rest | ' ' :: rest => some rest
  | _ => none

/-- A fraction of a second after its point: nine digits count, and more are skipped. -/
def readFraction? (cs : List Char) : Option (Nat × List Char) :=
  match cs with
  | '.' :: rest =>
    let digits := rest.takeWhile Char.isDigit
    if digits.isEmpty then none
    else
      let counted := digits.take 9
      some (digitsNumber counted * powerOfTen (9 - counted.length), rest.drop digits.length)
  | _ => some (0, cs)

/-- The seconds of a day and the billionths for a time; second 60 is a leap second. -/
def clock? (hour minute second nanoseconds : Nat) : Option (Nat × Nat) :=
  if hour < 24 ∧ minute < 60 ∧ second ≤ 60 then
    if second = 60 then some (hour * 3600 + minute * 60 + 59, nanoseconds + 1000000000)
    else some (hour * 3600 + minute * 60 + second, nanoseconds)
  else none

/-- An offset: a letter for none, or a sign, hours and minutes with something between
them. -/
def readOffset? (between : List Char → Option (List Char)) (cs : List Char) :
    Option (Int × List Char) :=
  match cs with
  | 'Z' :: rest | 'z' :: rest => some (0, rest)
  | sign :: rest =>
    if sign = '+' ∨ sign = '-' ∨ sign = '\u2212' then do
      let (hours, rest) ← readExact? 2 rest
      let rest ← between rest
      let (minutes, rest) ← readExact? 2 rest
      if minutes < 60 then
        let seconds : Int := hours * 3600 + minutes * 60
        some (if sign = '+' then seconds else -seconds, rest)
      else none
    else none
  | [] => none

/-- A moment with its offset, strictly written. -/
def ofStrict? (cs : List Char) : Option Moment := do
  let (year, cs) ← readExact? 4 cs
  let cs ← readChar? '-' cs
  let (month, cs) ← readExact? 2 cs
  let cs ← readChar? '-' cs
  let (day, cs) ← readExact? 2 cs
  let cs ← readSeparator? cs
  let (hour, cs) ← readExact? 2 cs
  let cs ← readChar? ':' cs
  let (minute, cs) ← readExact? 2 cs
  let cs ← readChar? ':' cs
  let (second, cs) ← readExact? 2 cs
  let (nanoseconds, cs) ← readFraction? cs
  let (offset, cs) ← readOffset? (readChar? ':') cs
  let date ← CalendarDay.make? year month day
  let (time, nanoseconds) ← clock? hour minute second nanoseconds
  if cs.isEmpty && offset.natAbs < 86400 then ofLocal? date time nanoseconds offset else none

/-- A year: up to four digits, or a sign and any number of them, after blanks. -/
def readYear? (cs : List Char) : Option (Int × List Char) :=
  match Text.trimStart cs with
  | '-' :: rest => (readNumber? rest.length rest).map fun read => (-(read.1 : Int), read.2)
  | '+' :: rest => (readNumber? rest.length rest).map fun read => ((read.1 : Int), read.2)
  | rest => (readNumber? 4 rest).map fun read => ((read.1 : Int), read.2)

/-- A number of one or two digits after blanks. -/
def readPart? (cs : List Char) : Option (Nat × List Char) :=
  readNumber? 2 (Text.trimStart cs)

/-- A date, with blanks allowed before its numbers, and before its separators where
the flag says so. -/
def readDate? (loose : Bool) (cs : List Char) : Option (CalendarDay × List Char) := do
  let skip := fun cs : List Char => if loose then Text.trimStart cs else cs
  let (year, cs) ← readYear? cs
  let cs ← readChar? '-' (skip cs)
  let (month, cs) ← readPart? cs
  let cs ← readChar? '-' (skip cs)
  let (day, cs) ← readPart? cs
  let date ← CalendarDay.make? year month day
  return (date, cs)

/-- A time of day, with blanks as in dates. -/
def readTime? (loose : Bool) (cs : List Char) : Option ((Nat × Nat) × List Char) := do
  let skip := fun cs : List Char => if loose then Text.trimStart cs else cs
  let (hour, cs) ← readPart? cs
  let cs ← readChar? ':' (skip cs)
  let (minute, cs) ← readPart? cs
  let cs ← readChar? ':' (skip cs)
  let (second, cs) ← readPart? cs
  let (nanoseconds, cs) ← readFraction? cs
  let time ← clock? hour minute second nanoseconds
  return (time, cs)

/-- A date and time without an offset. -/
def ofDateTime? (cs : List Char) : Option Moment := do
  let (date, cs) ← readDate? false cs
  let cs ← readChar? 'T' cs
  let (time, cs) ← readTime? false cs
  if cs.isEmpty then ofLocal? date time.1 time.2 0 else none

/-- A date alone. -/
def ofDate? (cs : List Char) : Option Moment := do
  let (date, cs) ← readDate? false cs
  if cs.isEmpty then ofLocal? date 0 0 0 else none

/-- A moment in any of the written forms, shown in a zone. -/
def ofText? (zone : Int) (text : String) : Option Moment :=
  let cs := text.toList
  (((ofStrict? cs).or (ofDateTime? cs)).or (ofDate? cs)).map fun moment => moment.inZone zone

/-- A moment in the relaxed form. -/
def ofRelaxed? (text : String) : Option Moment := do
  let (date, cs) ← readDate? true text.toList
  let cs ← readSeparator? cs
  let (time, cs) ← readTime? true cs
  let cs := Text.trimStart cs
  let (offset, cs) ←
    if Text.lowered (cs.take 3) = ['u', 't', 'c'] then some ((0 : Int), cs.drop 3)
    else readOffset? (fun cs => some (cs.dropWhile fun c => c = ':' || Text.isBlank c)) cs
  if (Text.trimStart cs).isEmpty && offset.natAbs < 86400 then
    ofLocal? date time.1 time.2 offset
  else none

end ApiBinding.Moment
