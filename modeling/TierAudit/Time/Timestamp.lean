import TierAudit.Decimal

/-!
# Time — timestamps

Moments in Universal Time and their written form, as in `2024-06-07T12:00:00Z`, in the Gregorian
calendar extended to all years.
-/

namespace TierAudit
open Decimal (padded)

/-- A moment: whole seconds since the start of 1970, and the nanoseconds after that.  A whole second
of nanoseconds or more stands for a moment in the leap second that follows: it is written as the
second 60 of its minute. -/
structure Timestamp where
  seconds : Int
  nanos : Nat
  deriving DecidableEq, Repr, Inhabited

namespace Timestamp

/-- A day of the calendar. -/
structure Date where
  year : Int
  month : Nat
  day : Nat
  deriving DecidableEq, Repr

/-- The day that lies `days` days after the first of March of the year 0.  Years are counted from
March, so that the leap day is the last of its year, and in eras of 400 years, which are all
alike. -/
def Date.ofDaysFromMarch (days : Int) : Date :=
  let era := days.fdiv 146097
  let dayOfEra := (days.fmod 146097).toNat
  let yearOfEra :=
    (dayOfEra - dayOfEra / 1460 + dayOfEra / 36524 - dayOfEra / 146096) / 365
  let dayOfYear := dayOfEra - (365 * yearOfEra + yearOfEra / 4 - yearOfEra / 100)
  let monthFromMarch := (5 * dayOfYear + 2) / 153
  let month := if monthFromMarch < 10 then monthFromMarch + 3 else monthFromMarch - 9
  let year := Int.ofNat yearOfEra + era * 400
  { year := if month ≤ 2 then year + 1 else year
    month
    day := dayOfYear - (153 * monthFromMarch + 2) / 5 + 1 }

/-- The day that lies `days` days after the start of 1970. -/
def Date.ofDays (days : Int) : Date := ofDaysFromMarch (days + 719468)

/-- A year has at least four digits, and a sign if they are not enough. -/
def yearText (year : Int) : String :=
  (if year < 0 then "-" else if 9999 < year then "+" else "") ++ padded 4 year.natAbs

/-- The nanoseconds of one second. -/
def nanosPerSecond : Nat := 1000000000

/-- The date and the time of day, without a fraction. -/
def dateTimeText (t : Timestamp) : String :=
  let date := Date.ofDays (t.seconds.fdiv 86400)
  let second := (t.seconds.fmod 86400).toNat
  yearText date.year ++ "-" ++ padded 2 date.month ++ "-" ++ padded 2 date.day ++ "T" ++
    padded 2 (second / 3600) ++ ":" ++ padded 2 (second / 60 % 60) ++ ":" ++
    padded 2 (second % 60 + t.nanos / nanosPerSecond)

/-- The written form, cut to whole seconds. -/
def toSeconds (t : Timestamp) : String := dateTimeText t ++ "Z"

/-- The fraction of a second in milliseconds, microseconds or nanoseconds, whichever is the coarsest
that is exact. -/
def fractionText (nanos : Nat) : String :=
  if nanos = 0 then ""
  else if nanos % 1000000 = 0 then "." ++ padded 3 (nanos / 1000000)
  else if nanos % 1000 = 0 then "." ++ padded 6 (nanos / 1000)
  else "." ++ padded 9 nanos

/-- The exact written form. -/
def toExact (t : Timestamp) : String :=
  dateTimeText t ++ fractionText (t.nanos % nanosPerSecond) ++ "Z"

end Timestamp

end TierAudit
