import BlockQuery.Text.Integer

/-!
# Shifts that leave the calendar

A relative date may lie outside the years 1 to 9999 or be counted by a number
that is too large to be handled at all.
-/

namespace BlockQuery.Calendar

/-- Why a shifted date is not a date of the calendar. -/
inductive RangeError
  /-- The count has more digits than are converted. -/
  | tooManyDigits (digits : Nat)
  /-- The number of days does not fit a machine integer. -/
  | hugeSpan
  /-- The number of days exceeds the longest span. -/
  | longSpan (days : Nat)
  /-- The day reached lies before the first or after the last day. -/
  | outsideCalendar
  /-- The year reached does not fit a machine word. -/
  | hugeYear
  /-- The year reached is beyond the largest machine integer. -/
  | yearTooLarge
  /-- The year reached is beyond the smallest machine integer. -/
  | yearTooSmall
  /-- The year reached is not a year of the calendar. -/
  | yearOutside (year : Int)
deriving DecidableEq, Repr

/-- The wording of a range error. -/
def RangeError.message : RangeError → String
  | tooManyDigits digits => Text.tooLongMessage digits
  | hugeSpan => "Python int too large to convert to C int"
  | longSpan days => s!"days={days}; must have magnitude <= 999999999"
  | outsideCalendar => "date value out of range"
  | hugeYear => "Python int too large to convert to C long"
  | yearTooLarge => "signed integer is greater than maximum"
  | yearTooSmall => "signed integer is less than minimum"
  | yearOutside year => s!"year {year} is out of range"

end BlockQuery.Calendar
