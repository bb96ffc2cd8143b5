import PolledChannels.Text.Numeral
import PolledChannels.Time.Calendar

/-!
# Timestamps

The text of a moment: date and time of day in UTC, to the millisecond. Moments before 1970 count as
the first moment of 1970.
-/

namespace PolledChannels

/-- A reading of the wall clock: seconds since 1970 and nanoseconds of the second. -/
structure Clock where
  seconds : Int
  nanoseconds : Nat
  deriving DecidableEq, Repr

structure Moment where
  date : Date
  hour : Nat
  minute : Nat
  second : Nat
  millisecond : Nat
  deriving DecidableEq, Repr

namespace Moment

/-- The moment a number of seconds and nanoseconds after 1970 began. -/
def ofEpoch (seconds nanoseconds : Nat) : Moment where
  date := Date.ofDays (seconds / 86400 : Nat)
  hour := seconds % 86400 / 3600
  minute := seconds % 3600 / 60
  second := seconds % 60
  millisecond := nanoseconds / 1000000

/-- The text of a year, at least four characters wide. -/
def renderYear (year : Int) : String :=
  if 0 ≤ year then Text.padded 4 year.toNat else "-" ++ Text.padded 3 year.natAbs

def render (m : Moment) : String :=
  renderYear m.date.year ++ "-" ++ Text.padded 2 m.date.month ++ "-" ++ Text.padded 2 m.date.day ++
    "T" ++ Text.padded 2 m.hour ++ ":" ++ Text.padded 2 m.minute ++ ":" ++ Text.padded 2 m.second ++
    "." ++ Text.padded 3 m.millisecond ++ "Z"

end Moment

namespace Clock

def moment (c : Clock) : Moment :=
  if c.seconds < 0 then Moment.ofEpoch 0 0 else Moment.ofEpoch c.seconds.toNat c.nanoseconds

def timestamp (c : Clock) : String := c.moment.render

end Clock
end PolledChannels
