/-!
# The calendar

Days are counted from the first of January 1970, and named by year, month and day of
the proleptic Gregorian calendar.
-/

namespace ApiBinding

/-- A day of the calendar. -/
structure CalendarDay where
  year : Int
  month : Nat
  day : Nat
deriving DecidableEq, Repr

namespace CalendarDay

/-- Whether a year has a leap day. -/
def isLeapYear (year : Int) : Bool :=
  year % 4 == 0 && (year % 100 != 0 || year % 400 == 0)

/-- How many days a month has. -/
def monthLength (year : Int) (month : Nat) : Nat :=
  if month = 2 then (if isLeapYear year then 29 else 28)
  else if month = 4 ∨ month = 6 ∨ month = 9 ∨ month = 11 then 30
  else 31

/-- The first year that can be named. -/
def firstYear : Int := -262143

/-- The last year that can be named. -/
def lastYear : Int := 262142

/-- The day with the given parts, if there is one. -/
def make? (year : Int) (month day : Nat) : Option CalendarDay :=
  if firstYear ≤ year ∧ year ≤ lastYear ∧ 1 ≤ month ∧ month ≤ 12 ∧ 1 ≤ day ∧
      day ≤ monthLength year month then some ⟨year, month, day⟩
  else none

/-- The number of a day, where day 0 is the first of January 1970.  Years are taken
to begin in March, so that the leap day is the last. -/
def number (d : CalendarDay) : Int :=
  let year := if d.month ≤ 2 then d.year - 1 else d.year
  let era := year / 400
  let yearOfEra := year - era * 400
  let monthFromMarch : Int := (d.month + 9) % 12
  let dayOfYear := (153 * monthFromMarch + 2) / 5 + (d.day : Int) - 1
  let dayOfEra := yearOfEra * 365 + yearOfEra / 4 - yearOfEra / 100 + dayOfYear
  era * 146097 + dayOfEra - 719468

/-- The day of a number. -/
def ofNumber (number : Int) : CalendarDay :=
  let shifted := number + 719468
  let era := shifted / 146097
  let dayOfEra := shifted - era * 146097
  let yearOfEra := (dayOfEra - dayOfEra / 1460 + dayOfEra / 36524 - dayOfEra / 146096) / 365
  let dayOfYear := dayOfEra - (365 * yearOfEra + yearOfEra / 4 - yearOfEra / 100)
  let monthFromMarch := (5 * dayOfYear + 2) / 153
  let day := dayOfYear - (153 * monthFromMarch + 2) / 5 + 1
  let month := if monthFromMarch < 10 then monthFromMarch + 3 else monthFromMarch - 9
  let year := yearOfEra + era * 400 + (if month ≤ 2 then 1 else 0)
  ⟨year, month.toNat, day.toNat⟩

/-- Whether the day of a number lies in a year that can be named. -/
def isNamed (number : Int) : Bool :=
  decide ((⟨firstYear, 1, 1⟩ : CalendarDay).number ≤ number) &&
    decide (number ≤ (⟨lastYear, 12, 31⟩ : CalendarDay).number)

example : (CalendarDay.mk 1970 1 1).number = 0 ∧ (CalendarDay.mk 2000 2 29).number = 11016 := by
  decide

example : ofNumber 11016 = ⟨2000, 2, 29⟩ ∧ ofNumber (-1) = ⟨1969, 12, 31⟩ := by decide

end CalendarDay

end ApiBinding
