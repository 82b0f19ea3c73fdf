import SpareSpace.CivilCalendar
import SpareSpace.Entities

/-!
# Dates in the process time zone

The local getters and setters of `Date` that the booking code uses, over the
time zone of the process.  Ints are unbounded: the end of the range of
`Date`, in the year 275760, is left out.
-/

namespace SpareSpace

open CivilCalendar

def msPerDay : Int := 86400000

def msPerHour : Int := 3600000

/-- The time zone of the process: local time values and back.  Local midnight
of a day is not after any instant of that day. -/
structure Zone where
  toLocal : Int → Int
  fromLocal : Int → Int
  midnight_le : ∀ now, fromLocal (toLocal now / msPerDay * msPerDay) ≤ now

namespace Zone

def utc : Zone where
  toLocal := id
  fromLocal := id
  midnight_le now := by
    simp only [id_eq, msPerDay]
    omega

variable (zone : Zone)

def getSeconds (date : Int) : Int :=
  zone.toLocal date / 1000 % 60

def getMilliseconds (date : Int) : Int :=
  zone.toLocal date % 1000

/-- `setHours(0, 0, 0, 0)`. -/
def startOfDay (date : Int) : Int :=
  zone.fromLocal (zone.toLocal date / msPerDay * msPerDay)

/-- `setHours(getHours() + count)`. -/
def addHours (date : Int) (count : Int) : Int :=
  zone.fromLocal (zone.toLocal date + count * msPerHour)

/-- `setDate(getDate() + count)`. -/
def addDays (date : Int) (count : Int) : Int :=
  zone.fromLocal (zone.toLocal date + count * msPerDay)

/-- `setMonth(getMonth() + count)`: a day that the target month does not have
runs over into the following month. -/
def addMonths (date : Int) (count : Int) : Int :=
  let civil := civilFromDays (zone.toLocal date / msPerDay)
  zone.fromLocal
    (makeDay civil.year (civil.month + count) civil.day * msPerDay +
      zone.toLocal date % msPerDay)

theorem startOfDay_le (now : Int) : zone.startOfDay now ≤ now :=
  zone.midnight_le now

end Zone

/-- `BookingsService.calculateEndDate`. -/
def calculateEndDate (zone : Zone) (startDate : Int)
    (pricePeriod : ListingPeriodType) (periodsCount : Nat) : Int :=
  match pricePeriod with
  | .hour => zone.addHours startDate periodsCount
  | .day => zone.addDays startDate periodsCount
  | .week => zone.addDays startDate (periodsCount * 7)
  | .month => zone.addMonths startDate periodsCount

end SpareSpace
