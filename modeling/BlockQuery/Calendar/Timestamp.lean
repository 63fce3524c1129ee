import BlockQuery.Calendar.LocalTime
import BlockQuery.Number.Rounding

/-!
# Timestamps

A timestamp is a whole number of milliseconds since the start of 1970 in
universal time. It is computed through seconds with 53 significant bits, so
whole seconds are exact and fractions are rounded twice before they are rounded
to the millisecond.
-/

namespace BlockQuery.Calendar

open Number

/-- Milliseconds of a day. -/
def dayMillis : Int := 86400000

/-- The last millisecond of the day that starts at a timestamp. -/
def endOfDay (timestamp : Int) : Int :=
  timestamp + dayMillis - 1

namespace Moment

/-- Whole seconds since the start of 1970 on the moment's own clock. -/
def localSeconds (moment : Moment) : Int :=
  moment.localMicros / secondMicros

/-- Microseconds since the last whole second. -/
def fraction (moment : Moment) : Int :=
  moment.localMicros % secondMicros

/-- Seconds since the start of 1970 in universal time, with 53 significant bits. In a zone the
microseconds are divided once. A local moment is placed by its whole seconds, and its fraction is
rounded before it is added to them. -/
def epochSeconds (moment : Moment) (time : LocalTime) : Except RangeError Rat :=
  match moment.offset with
  | some _ => .ok (round53 (moment.epochMicros / secondMicros))
  | none => do
    let instant ← time.instant moment.localSeconds
    return round53 (instant + round53 (moment.fraction / secondMicros))

/-- The timestamp of a moment, given how local time runs. -/
def timestamp (moment : Moment) (time : LocalTime) : Except RangeError Int := do
  let seconds ← moment.epochSeconds time
  return roundHalfEven (round53 (seconds * 1000))

end Moment

end BlockQuery.Calendar
