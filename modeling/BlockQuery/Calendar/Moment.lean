import BlockQuery.Calendar.Date
import BlockQuery.Calendar.RangeError

/-!
# Moments

A moment is a date, a time of day in microseconds and, unless it is local, the
offset of its zone from universal time. The distance from universal time is less
than a day.
-/

namespace BlockQuery.Calendar

/-- Microseconds of a second. -/
def secondMicros : Nat := 1000000

/-- Microseconds of a day. -/
def dayMicros : Nat := 86400000000

/-- The ordinal of 1 January 1970, the day that instants are counted from. -/
def epochOrdinal : Nat := 719163

/-- How far a zone is ahead of universal time, in microseconds. -/
structure Offset where
  micros : Int
  bounded : micros.natAbs < dayMicros
deriving DecidableEq, Repr

namespace Offset

/-- The offset of universal time itself. -/
def utc : Offset :=
  ⟨0, by decide⟩

/-- The offset of the given microseconds, when it is less than a day. -/
def ofMicros? (micros : Int) : Option Offset :=
  if h : micros.natAbs < dayMicros then some ⟨micros, h⟩ else none

end Offset

/-- A date with a time of day, in a zone unless it is local. -/
structure Moment where
  date : Date
  /-- Microseconds since midnight. -/
  clock : Nat
  offset : Option Offset
  clock_lt : clock < dayMicros
deriving DecidableEq, Repr

namespace Moment

/-- The start of a day. -/
def midnight (date : Date) (offset : Option Offset) : Moment :=
  ⟨date, 0, offset, by decide⟩

/-- The start of the moment's day in its own zone. -/
def startOfDay (moment : Moment) : Moment :=
  midnight moment.date moment.offset

/-- The same time of day in the same zone on another date. -/
def onDate (moment : Moment) (date : Date) : Moment :=
  { moment with date }

/-- The moment in the given zone, if it is local. -/
def withDefaultOffset (moment : Moment) (offset : Option Offset) : Moment :=
  { moment with offset := moment.offset.or offset }

/-- Microseconds since midnight of 1 January 1970 on the moment's own clock. -/
def localMicros (moment : Moment) : Int :=
  ((moment.date.ordinal : Int) - epochOrdinal) * dayMicros + moment.clock

/-- Microseconds since the start of 1970 in universal time, or on its own clock if the moment is
local. -/
def epochMicros (moment : Moment) : Int :=
  moment.localMicros - (moment.offset.map Offset.micros).getD 0

/-- The moment on the clock of a zone at the given microseconds of that clock. -/
def ofLocalMicros? (micros : Int) (offset : Option Offset) : Option Moment :=
  (Date.ofOrdinal? (micros / dayMicros + epochOrdinal)).map fun date =>
    { date, offset, clock := (micros % dayMicros).toNat
      clock_lt := by
        have : 0 ≤ micros % dayMicros := Int.emod_nonneg _ (by decide)
        have : micros % dayMicros < dayMicros := Int.emod_lt_of_pos _ (by decide)
        omega }

/-! ### Shifts -/

/-- The longest span of days that a moment is shifted by. -/
def maxSpan : Nat := 999999999

/-- The number of values of a machine integer that are not negative. -/
def integerBound : Nat := 0x80000000

/-- The number of values of a machine word that are not negative. -/
def wordBound : Nat := 0x8000000000000000

/-- The moment at the same time of day a number of days later or earlier. -/
def addDays (moment : Moment) (days : Int) : Except RangeError Moment :=
  if integerBound ≤ days.natAbs then
    .error .hugeSpan
  else if maxSpan < days.natAbs then
    .error (.longSpan days.natAbs)
  else
    match moment.date.addDays? days with
    | some date => .ok (moment.onDate date)
    | none => .error .outsideCalendar

/-- The error of a year that is not in the calendar. -/
def yearError (year : Int) : RangeError :=
  if year < -(wordBound : Int) ∨ (wordBound : Int) ≤ year then
    .hugeYear
  else if (integerBound : Int) ≤ year then
    .yearTooLarge
  else if year < -(integerBound : Int) then
    .yearTooSmall
  else
    .yearOutside year

/-- The first day of the month a number of months later or earlier. -/
def shiftedMonth (date : Date) (months : Int) : Except RangeError Date :=
  let total : Int := 12 * date.year + (date.month - 1) + months
  match Date.ofParts? (total / 12).toNat ((total % 12).toNat + 1) 1 with
  | some first => .ok first
  | none => .error (yearError (total / 12))

/-- The moment a number of calendar months later or earlier. Days beyond the end of the month
reached are counted on into the next one: one month before 31 March is 3 March, or 2 March in a
leap year. -/
def addMonths (moment : Moment) (months : Int) : Except RangeError Moment := do
  let first ← shiftedMonth moment.date months
  (moment.onDate first).addDays (moment.date.day - 1)

end Moment

end BlockQuery.Calendar
