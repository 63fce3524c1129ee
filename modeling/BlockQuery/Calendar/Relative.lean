import BlockQuery.Calendar.Moment
import BlockQuery.Text.Blank
import BlockQuery.Text.Letter

/-!
# Relative dates

A relative date is a shift of today: `yesterday`, `next month`, `3 weeks ago`.
It is read without regard to case and to the width of blanks, and it always
denotes the start of a day in the zone of the clock.
-/

namespace BlockQuery.Calendar

/-- A day that is given by its distance from today. -/
inductive Relative
  /-- A number of days after today, before it when negative. -/
  | days (count : Int)
  /-- The last Sunday up to today. -/
  | weekStart
  /-- The same day of the month a number of months after today's month. -/
  | months (count : Int)
  | monthStart
  | yearStart
deriving DecidableEq, Repr

namespace Relative

/-- The fixed phrases. -/
def phrases : List (List String × Relative) :=
  [(["today"], days 0),
   (["yesterday"], days (-1)),
   (["tomorrow"], days 1),
   (["last", "week"], days (-7)),
   (["a", "week", "ago"], days (-7)),
   (["this", "week"], weekStart),
   (["next", "week"], days 7),
   (["last", "month"], months (-1)),
   (["a", "month", "ago"], months (-1)),
   (["this", "month"], monthStart),
   (["next", "month"], months 1),
   (["last", "year"], months (-12)),
   (["a", "year", "ago"], months (-12)),
   (["this", "year"], yearStart),
   (["next", "year"], months 12)]

/-- A unit of time, in the singular or the plural, and the shift of one such unit into the past,
repeated `count` times. -/
def backward (unit : String) (count : Nat) : Option Relative :=
  match unit with
  | "day" | "days" => some (days (-count))
  | "week" | "weeks" => some (days (-7 * count))
  | "month" | "months" => some (months (-count))
  | "year" | "years" => some (months (-12 * count))
  | _ => none

/-- Reads the words of a counted phrase such as `3 weeks ago`. -/
def readCounted : List (List Char) → Except RangeError (Option Relative)
  | [digits, unit, ago] =>
    if digits.all Text.isDigit ∧ ago = "ago".toList then
      match backward (String.ofList unit) (Text.decimal digits) with
      | some relative =>
        if Text.maxDigits < digits.length then
          .error (.tooManyDigits digits.length)
        else
          .ok (some relative)
      | none => .ok none
    else
      .ok none
  | _ => .ok none

/-- The words of a text in lower case. -/
def normalWords (text : List Char) : List (List Char) :=
  Text.words (text.map Text.lower)

/-- Reads a relative date; `none` when the text is not one. -/
def read (text : List Char) : Except RangeError (Option Relative) :=
  let parts := normalWords text
  match phrases.find? fun phrase => phrase.1.map String.toList == parts with
  | some phrase => .ok (some phrase.2)
  | none => readCounted parts

/-- The day that a relative date denotes, counted from the given start of a day. -/
def resolve (relative : Relative) (today : Moment) : Except RangeError Moment :=
  match relative with
  | days count => today.addDays count
  | weekStart => today.addDays (-((today.date.weekday + 1) % 7 : Nat))
  | months count => today.addMonths count
  | monthStart => .ok (today.onDate today.date.monthStart)
  | yearStart => .ok (today.onDate today.date.yearStart)

end Relative

end BlockQuery.Calendar
