import BlockQuery.Calendar.Moment

/-!
# Local time

A moment without an offset is a reading of the local clock. How far local time is
ahead of universal time may change, so a reading may occur twice or not at all.
Instants are counted in seconds from the start of 1970 in universal time, readings
from the start of 1970 on the clock.
-/

namespace BlockQuery.Calendar

/-- Seconds of a day. -/
def daySeconds : Nat := 86400

/-- How many seconds local time is ahead of universal time at every instant: less than a day. -/
structure LocalTime where
  ahead : Int → Int
  bounded : ∀ instant, (ahead instant).natAbs < daySeconds

/-- The date of a reading. -/
def dateAt (reading : Int) : Except RangeError Date :=
  match Date.ofOrdinal? (reading / daySeconds + epochOrdinal) with
  | some date => .ok date
  | none => .error (.yearOutside (if reading < 0 then 0 else maxYear + 1))

namespace LocalTime

theorem natAbs_ite_lt (offset : Int) :
    (if offset.natAbs < daySeconds then offset else 0).natAbs < daySeconds := by
  split
  · assumption
  · decide

/-- Local time with the given offsets. An offset of a day or more does not count. -/
def ofOffsets (offsetAt : Int → Int) : LocalTime where
  ahead instant := if (offsetAt instant).natAbs < daySeconds then offsetAt instant else 0
  bounded instant := natAbs_ite_lt (offsetAt instant)

/-- Universal time as local time. -/
def universal : LocalTime :=
  ofOffsets fun _ => 0

/-- What the local clock shows at an instant, if that is in the calendar. -/
def read (time : LocalTime) (instant : Int) : Except RangeError Int := do
  let reading := instant + time.ahead instant
  let _ ← dateAt reading
  return reading

/-- The instant at which the local clock shows a reading. If there are two, it is the earlier one;
a reading that is skipped is counted on from before the clock was put forward. -/
def instant (time : LocalTime) (reading : Int) : Except RangeError Int := do
  let _ ← time.read reading
  let first := reading - time.ahead reading
  let shown ← time.read first
  let other := if shown = reading then first - daySeconds else first
  let _ ← time.read other
  let second := reading - time.ahead other
  if second = first then
    return first
  if (← time.read second) = reading then
    return second
  return if shown = reading then first else max first second

/-- The date that the local clock shows at an instant. The clock is also looked at a day before,
and if it was put back since then, at the earlier instant of the same reading. -/
def date (time : LocalTime) (instant : Int) : Except RangeError Date := do
  let shown ← time.read instant
  let _ ← time.read (instant - daySeconds)
  let change := time.ahead instant - time.ahead (instant - daySeconds)
  if change < 0 then
    let _ ← time.read (instant + change)
  dateAt shown

end LocalTime

/-- What time it is, and how local time runs. A local time that occurs twice is shown for the first
time. -/
structure Clock where
  now : Moment
  localTime : LocalTime

end BlockQuery.Calendar
