import BlockQuery.Calendar.Date
import BlockQuery.Calendar.MonthName

/-!
# Daily pages

Every day has a page of its own, with a title such as `January 1st, 2026`.
-/

namespace BlockQuery.Calendar

/-- The English ordinal suffix of a number: 1st, 2nd, 3rd, 11th. -/
def ordinalSuffix (n : Int) : String :=
  if n % 10 = 1 ∧ n % 100 ≠ 11 then
    "st"
  else if n % 10 = 2 ∧ n % 100 ≠ 12 then
    "nd"
  else if n % 10 = 3 ∧ n % 100 ≠ 13 then
    "rd"
  else
    "th"

/-- The title of a date's page. -/
def Date.pageTitle (date : Date) : String :=
  s!"{monthName date.month} {date.day}{ordinalSuffix date.day}, {date.year}"

end BlockQuery.Calendar
