/-!
# Calendar dates

Dates of the proleptic Gregorian calendar in the years 1 to 9999. A date is
counted by its ordinal: 1 January of year 1 has ordinal 1, and every following
day the next number. `Date.ordinal` and `Date.ofOrdinal?` go both ways.
-/

namespace BlockQuery.Calendar

/-- The first year of the calendar. -/
def minYear : Nat := 1

/-- The last year of the calendar. -/
def maxYear : Nat := 9999

/-- Whether a year has a 29 February. -/
def isLeapYear (year : Nat) : Bool :=
  year % 4 == 0 && (year % 100 != 0 || year % 400 == 0)

/-- The number of days of a month. -/
def daysInMonth (year month : Nat) : Nat :=
  match month with
  | 2 => if isLeapYear year then 29 else 28
  | 4 | 6 | 9 | 11 => 30
  | _ => 31

/-- The number of days before 1 January of a year, counted from 1 January of year 1. -/
def daysBeforeYear (year : Nat) : Nat :=
  365 * (year - 1) + (year - 1) / 4 - (year - 1) / 100 + (year - 1) / 400

/-- The number of days of a year that precede a month. -/
def daysBeforeMonth (year : Nat) : Nat → Nat
  | 0 => 0
  | 1 => 0
  | month + 1 => daysBeforeMonth year month + daysInMonth year month

/-- A day of the calendar. -/
structure Date where
  year : Nat
  month : Nat
  day : Nat
  year_range : minYear ≤ year ∧ year ≤ maxYear
  month_range : 1 ≤ month ∧ month ≤ 12
  day_range : 1 ≤ day ∧ day ≤ daysInMonth year month
deriving DecidableEq, Repr

namespace Date

/-- The date with the given year, month and day, when there is one. -/
def ofParts? (year month day : Nat) : Option Date :=
  if hy : minYear ≤ year ∧ year ≤ maxYear then
    if hm : 1 ≤ month ∧ month ≤ 12 then
      if hd : 1 ≤ day ∧ day ≤ daysInMonth year month then
        some ⟨year, month, day, hy, hm, hd⟩
      else none
    else none
  else none

/-- The position of a date among all days; 1 January of year 1 is the first. -/
def ordinal (date : Date) : Nat :=
  daysBeforeYear date.year + daysBeforeMonth date.year date.month + date.day

/-- The month and day that lie `days` days after the start of the first of the given months. -/
def monthAndDay (year : Nat) : List Nat → Nat → Nat × Nat
  | [], days => (12, days + 1)
  | month :: months, days =>
    if days < daysInMonth year month then
      (month, days + 1)
    else
      monthAndDay year months (days - daysInMonth year month)

/-- The date at a position among all days. The four-century cycle has 146097 days; inside it the
centuries have 36524 days, the four-year cycles 1461 and the years 365, each with a last member
that may be a day longer. -/
def ofOrdinal? (ordinal : Int) : Option Date :=
  if ordinal < 1 then
    none
  else
    let elapsed := (ordinal - 1).toNat
    let inCycle := elapsed % 146097
    let century := min 3 (inCycle / 36524)
    let inCentury := inCycle - century * 36524
    let inFour := inCentury % 1461
    let single := min 3 (inFour / 365)
    let inYear := inFour - single * 365
    let year := 400 * (elapsed / 146097) + 100 * century + 4 * (inCentury / 1461) + single + 1
    let (month, day) := monthAndDay year (List.range' 1 12) inYear
    ofParts? year month day

/-- The day of the week, from 0 on Monday to 6 on Sunday. -/
def weekday (date : Date) : Nat :=
  (date.ordinal + 6) % 7

/-- The date a number of days later, or earlier when the number is negative. -/
def addDays? (date : Date) (days : Int) : Option Date :=
  ofOrdinal? (date.ordinal + days)

/-- The first day of the date's month. -/
def monthStart (date : Date) : Date where
  year := date.year
  month := date.month
  day := 1
  year_range := date.year_range
  month_range := date.month_range
  day_range := ⟨Nat.le_refl 1, Nat.le_trans date.day_range.1 date.day_range.2⟩

/-- The first day of the date's year. -/
def yearStart (date : Date) : Date where
  year := date.year
  month := 1
  day := 1
  year_range := date.year_range
  month_range := by decide
  day_range := by simp [daysInMonth]

end Date

end BlockQuery.Calendar
