/-!
# The Gregorian calendar

`Date.ofDays` finds the date a number of days after 1970-01-01. The calendar repeats every 400
years, that is every 146097 days; within such an era years are counted from March, so that the leap
day is the last day of its year and the months from March on have a regular pattern of lengths.
-/

namespace PolledChannels

/-- A date of the proleptic Gregorian calendar. -/
structure Date where
  year : Int
  month : Nat
  day : Nat
  deriving DecidableEq, Repr

namespace Date

/-- Days from 0000-03-01 to 1970-01-01. -/
def epochShift : Int := 719468

/-- Days of 400 years. -/
def eraDays : Int := 146097

/-- The year of the era that holds a day of the era. -/
def yearOfEra (dayOfEra : Int) : Int :=
  (dayOfEra - dayOfEra / 1460 + dayOfEra / 36524 - dayOfEra / 146096) / 365

/-- Days of the era before a year of the era. -/
def daysBeforeYear (year : Int) : Int :=
  365 * year + year / 4 - year / 100

/-- The month, counted from March, that holds a day of the year. -/
def monthFromMarch (dayOfYear : Int) : Int :=
  (5 * dayOfYear + 2) / 153

/-- Days of the year before a month, counted from March. -/
def daysBeforeMonth (month : Int) : Int :=
  (153 * month + 2) / 5

/-- The date `days` days after 1970-01-01. -/
def ofDays (days : Int) : Date :=
  let shifted := days + epochShift
  let era := shifted / eraDays
  let dayOfEra := shifted % eraDays
  let year := yearOfEra dayOfEra
  let dayOfYear := dayOfEra - daysBeforeYear year
  let march := monthFromMarch dayOfYear
  let day := dayOfYear - daysBeforeMonth march + 1
  let month := if march < 10 then march + 3 else march - 9
  ⟨year + era * 400 + (if month ≤ 2 then 1 else 0), month.toNat, day.toNat⟩

end Date
end PolledChannels
