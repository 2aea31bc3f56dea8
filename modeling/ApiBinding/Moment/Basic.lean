import ApiBinding.Moment.Calendar

/-!
# Moments

A moment is an instant together with the offset of the zone in which it is shown.
Two moments may be the same instant in different zones.

Main results:

- Theorem `ofLocal?_zone`: the moment of a day and a time is shown in the zone that was given.
-/

namespace ApiBinding

/-- An instant shown in a zone. -/
structure Moment where
  /-- Whole seconds since the start of 1970 in the zone without offset. -/
  seconds : Int
  /-- Billionths of a second; a leap second counts a whole second more. -/
  nanoseconds : Nat
  /-- The zone's offset in seconds, positive to the east. -/
  offset : Int
deriving DecidableEq, Repr

namespace Moment

/-- The same instant in another zone. -/
def inZone (moment : Moment) (offset : Int) : Moment :=
  { moment with offset }

/-- The moment of a day and a time in a zone.  There is none where the day without
offset lies beyond the years that can be named. -/
def ofLocal? (day : CalendarDay) (secondOfDay nanoseconds : Nat) (offset : Int) :
    Option Moment :=
  let seconds := day.number * 86400 + secondOfDay - offset
  if CalendarDay.isNamed (seconds / 86400) then some ⟨seconds, nanoseconds, offset⟩ else none

/-- A moment that is made of a day and a time in a zone shows these there. -/
theorem ofLocal?_zone {day : CalendarDay} {secondOfDay nanoseconds : Nat} {offset : Int}
    {moment : Moment} (found : ofLocal? day secondOfDay nanoseconds offset = some moment) :
    moment.seconds + moment.offset = day.number * 86400 + secondOfDay ∧
      moment.nanoseconds = nanoseconds ∧ moment.offset = offset := by
  simp only [ofLocal?, Option.ite_none_right_eq_some, Option.some.injEq] at found
  rw [← found.2]
  exact ⟨Int.sub_add_cancel .., rfl, rfl⟩

/-! ## Text -/

/-- A number in decimal digits, at least as many as asked for. -/
def padded (width n : Nat) : String :=
  let digits := Nat.toDigits 10 n
  String.ofList (List.replicate (width - digits.length) '0' ++ digits)

/-- A year: four digits, or a sign and at least four. -/
def yearText (year : Int) : String :=
  if 0 ≤ year ∧ year ≤ 9999 then padded 4 year.toNat
  else (if year < 0 then "-" else "+") ++ padded 4 year.natAbs

/-- The fraction of a second: none, or as few of three, six or nine digits as needed. -/
def fractionText (nanoseconds : Nat) : String :=
  if nanoseconds = 0 then ""
  else if nanoseconds % 1000000 = 0 then "." ++ padded 3 (nanoseconds / 1000000)
  else if nanoseconds % 1000 = 0 then "." ++ padded 6 (nanoseconds / 1000)
  else "." ++ padded 9 nanoseconds

/-- An offset in hours and minutes, rounded to the nearest minute. -/
def offsetText (offset : Int) : String :=
  let minutes := (offset.natAbs + 30) / 60
  (if offset < 0 then "-" else "+") ++ padded 2 (minutes / 60) ++ ":" ++ padded 2 (minutes % 60)

/-- The day and the time of a moment in its zone. -/
def localText (moment : Moment) : String :=
  let wall := moment.seconds + moment.offset
  let day := CalendarDay.ofNumber (wall / 86400)
  let time := (wall % 86400).toNat
  let leap := 1000000000 ≤ moment.nanoseconds
  let second := time % 60 + (if leap then 1 else 0)
  yearText day.year ++ "-" ++ padded 2 day.month ++ "-" ++ padded 2 day.day ++ "T" ++
    padded 2 (time / 3600) ++ ":" ++ padded 2 (time / 60 % 60) ++ ":" ++ padded 2 second ++
    fractionText (if leap then moment.nanoseconds - 1000000000 else moment.nanoseconds)

/-- The text of a moment with its offset. -/
def text (moment : Moment) : String :=
  moment.localText ++ offsetText moment.offset

/-- The text of a moment with a letter for the zone without offset. -/
def zuluText (moment : Moment) : String :=
  moment.localText ++ (if moment.offset = 0 then "Z" else offsetText moment.offset)

end Moment

end ApiBinding
