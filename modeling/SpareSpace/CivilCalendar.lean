import Mathlib.Data.Int.DivMod

/-!
# The proleptic Gregorian calendar

Days are counted from 1 January 1970, months from zero.  A day number is split
into year, month and day through the 400-year era it lies in; in the other
direction the month may have any value and carries into the year, and the day
may be any integer and shifts the result, as in the `MakeDay` operation of
ECMAScript.
-/

namespace CivilCalendar

structure CivilDate where
  year : Int
  month : Int
  day : Int
  deriving DecidableEq, Repr

/-- Years counted from 1 March, so that the leap day is the last day. -/
def shiftedYear (year month : Int) : Int :=
  if month ≤ 1 then year - 1 else year

/-- The day number of a date whose month lies in `0..11`. -/
def daysFromCivil (year month day : Int) : Int :=
  let shifted := shiftedYear year month
  let era := shifted / 400
  let yearOfEra := shifted - era * 400
  let monthFromMarch := (month + 10) % 12
  let dayOfYear := (153 * monthFromMarch + 2) / 5 + (day - 1)
  let dayOfEra := yearOfEra * 365 + yearOfEra / 4 - yearOfEra / 100 + dayOfYear
  era * 146097 + dayOfEra - 719468

/-- The date of a day number. -/
def civilFromDays (days : Int) : CivilDate :=
  let shifted := days + 719468
  let era := shifted / 146097
  let dayOfEra := shifted - era * 146097
  let yearOfEra := (dayOfEra - dayOfEra / 1460 + dayOfEra / 36524 -
    dayOfEra / 146096) / 365
  let dayOfYear := dayOfEra - (365 * yearOfEra + yearOfEra / 4 - yearOfEra / 100)
  let monthFromMarch := (5 * dayOfYear + 2) / 153
  let day := dayOfYear - (153 * monthFromMarch + 2) / 5 + 1
  let month := if monthFromMarch < 10 then monthFromMarch + 2 else monthFromMarch - 10
  ⟨yearOfEra + era * 400 + (if month ≤ 1 then 1 else 0), month, day⟩

/-- `MakeDay`: a month outside `0..11` carries into the year and the day is
counted from the first of the resulting month. -/
def makeDay (year month day : Int) : Int :=
  daysFromCivil (year + month / 12) (month % 12) 1 + (day - 1)

end CivilCalendar
