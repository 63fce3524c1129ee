/-!
# Names of the months

The English names of the months, in full and cut to three letters.
-/

namespace BlockQuery.Calendar

/-- The names of the months in order. -/
def monthNames : List String :=
  ["January", "February", "March", "April", "May", "June", "July", "August", "September",
   "October", "November", "December"]

/-- The name of a month; months are counted from 1. -/
def monthName (month : Nat) : String :=
  monthNames.getD (month - 1) ""

/-- The first three letters of a month's name. -/
def shortMonthName (month : Nat) : String :=
  String.ofList ((monthName month).toList.take 3)

end BlockQuery.Calendar
