import BlockQuery.Calendar.Moment

/-!
# ISO moments

The numeric notation of dates and moments: `2026-01-15`, `20260115`, `2026-W03-4`,
and a time behind it such as `T10:30:45.25+05:30`. The reader works on the bytes of
the text and treats the place behind the last byte as a zero byte. It is lenient in
the ways that are stated at its definitions: any character may separate date and
time, and one stray byte may stand before a zone.
-/

namespace BlockQuery.Calendar

/-! ### Writing -/

/-- A number with leading zeros up to the given width. -/
def padded (width n : Nat) : String :=
  let digits := toString n
  String.ofList (List.replicate (width - digits.length) '0') ++ digits

/-- The fraction of a second in six digits, left out when it is zero. -/
def fractionText (micros : Nat) : String :=
  if micros = 0 then "" else s!".{padded 6 micros}"

/-- The date in the order year, month, day. -/
def Date.iso (date : Date) : String :=
  s!"{padded 4 date.year}-{padded 2 date.month}-{padded 2 date.day}"

/-- Hours, minutes and seconds of a clock that counts microseconds. -/
def clockText (micros : Nat) : String :=
  let seconds := micros / secondMicros
  s!"{padded 2 (seconds / 3600)}:{padded 2 (seconds / 60 % 60)}:{padded 2 (seconds % 60)}" ++
    fractionText (micros % secondMicros)

/-- The sign, hours and minutes of an offset, and its seconds and microseconds if there are any. -/
def Offset.iso (offset : Offset) : String :=
  let sign := if offset.micros < 0 then "-" else "+"
  let size := offset.micros.natAbs
  let seconds := size / secondMicros
  let minutes := s!"{padded 2 (seconds / 3600)}:{padded 2 (seconds / 60 % 60)}"
  if size % (60 * secondMicros) = 0 then sign ++ minutes else sign ++ clockText size

/-- A moment with its date, its time of day and, unless it is local, its offset. -/
def Moment.iso (moment : Moment) : String :=
  s!"{moment.date.iso}T{clockText moment.clock}" ++ (moment.offset.map Offset.iso).getD ""

namespace Iso

/-! ### Numbers -/

/-- The bytes of a text, as numbers. -/
def bytes (text : String) : List Nat :=
  text.toUTF8.toList.map UInt8.toNat

/-- Whether a byte is an ASCII digit. -/
def isDigit (byte : Nat) : Bool :=
  48 ≤ byte && byte ≤ 57

/-- The byte at the front, zero at the end of the text. -/
def front (text : List Nat) : Nat :=
  text.headD 0

/-- The byte at an index, zero behind the end of the text. -/
def byteAt (text : List Nat) (index : Nat) : Nat :=
  text.getD index 0

/-- The code of an ASCII character. -/
def code (c : Char) : Nat :=
  c.toNat

/-- Reads a number of exactly the given number of digits; `value` is what was read before them. -/
def number? : Nat → Nat → List Nat → Option (Nat × List Nat)
  | 0, value, text => some (value, text)
  | _ + 1, _, [] => none
  | length + 1, value, byte :: text =>
    if isDigit byte then number? length (10 * value + (byte - 48)) text else none

/-! ### Dates -/

/-- The number of bytes of the date at the front of a text. A date by weeks may lack its weekday,
and a digit behind a week that was followed by a dash belongs to the time. -/
def dateLength? (text : List Nat) : Option Nat :=
  let size := text.length
  if size < 7 then
    none
  else if size = 7 then
    some 7
  else if byteAt text 4 = code '-' then
    if byteAt text 5 ≠ code 'W' then
      some 10
    else if 8 < size ∧ byteAt text 8 = code '-' then
      if size = 9 then
        none
      else if 10 < size ∧ isDigit (byteAt text 10) then
        some 8
      else
        some 10
    else
      some 8
  else if byteAt text 4 = code 'W' then
    let last := 7 + ((text.drop 7).takeWhile isDigit).length
    some (if last < 9 then last else if last % 2 = 0 then 7 else 8)
  else
    some 8

/-- The ordinal of the Monday of a year's first week, which is the week of 4 January. -/
def firstMonday (newYear : Date) : Int :=
  let monday : Int := newYear.ordinal - newYear.weekday
  if 3 < newYear.weekday then monday + 7 else monday

/-- Whether a year has a week 53: it starts on a Thursday, or on a Wednesday in a leap year. -/
def hasLongYear (newYear : Date) : Bool :=
  newYear.weekday == 3 || (newYear.weekday == 2 && isLeapYear newYear.year)

/-- The date with the given week and weekday of a year. -/
def weekDate? (year week weekday : Nat) : Option Date := do
  let newYear ← Date.ofParts? year 1 1
  if 1 ≤ week ∧ (week ≤ 52 ∨ (week = 53 ∧ hasLongYear newYear)) ∧ 1 ≤ weekday ∧ weekday ≤ 7 then
    Date.ofOrdinal? (firstMonday newYear + 7 * (week - 1) + (weekday - 1))
  else
    none

/-- Skips a dash if dashes separate the parts of the date, which must then stand there. -/
def skipDash? (dashed : Bool) (text : List Nat) : Option (List Nat) :=
  if dashed then
    if front text = code '-' then some (text.drop 1) else none
  else
    some text

/-- Reads the date in the first `length` bytes of a text. -/
def readDate? (text : List Nat) (length : Nat) : Option Date := do
  let consumed (rest : List Nat) : Nat := text.length - rest.length
  let (year, rest) ← number? 4 0 text
  let dashed := front rest == code '-'
  let rest := if dashed then rest.drop 1 else rest
  if front rest = code 'W' then
    let (week, rest) ← number? 2 0 (rest.drop 1)
    if consumed rest < length then
      let rest ← skipDash? dashed rest
      let (weekday, _) ← number? 1 0 rest
      weekDate? year week weekday
    else
      weekDate? year week 1
  else
    let (month, rest) ← number? 2 0 rest
    let rest ← skipDash? dashed rest
    let (day, rest) ← number? 2 0 rest
    if consumed rest = length then Date.ofParts? year month day else none

/-! ### Times -/

/-- How the hours, minutes and seconds of a time end. -/
inductive Ending
  /-- The time ends; `stray` tells whether another byte stood behind it. -/
  | complete (stray : Bool)
  /-- A fraction of a second follows in the first `size` bytes of `text`. -/
  | fraction (text : List Nat) (size : Nat)

/-- Reads up to `slots` two-digit numbers in the first `size` bytes of a text. They are separated
by colons if one follows the first number, which `colons` remembers. -/
def readClock? : Nat → Option Bool → List Nat → Nat → Option (List Nat × Ending)
  | 0, _, text, size => some ([], .fraction text size)
  | slots + 1, colons, text, size => do
    let (value, rest) ← number? 2 0 text
    let next := front rest
    let colons := colons.getD (next == code ':')
    if size ≤ 3 then
      return ([value], .complete (next != 0))
    else if colons ∧ next = code ':' then
      let (values, ending) ← readClock? slots (some colons) (rest.drop 1) (size - 3)
      return (value :: values, ending)
    else if next = code '.' ∨ next = code ',' then
      return ([value], .fraction (rest.drop 1) (size - 3))
    else if colons then
      none
    else
      let (values, ending) ← readClock? slots (some colons) rest (size - 2)
      return (value :: values, ending)

/-- The numbers of a time. -/
structure Time where
  hour : Nat
  minute : Nat
  second : Nat
  micros : Nat
  /-- Whether something unread stands behind the time. -/
  stray : Bool

namespace Time

/-- The whole seconds of a time. -/
def seconds (time : Time) : Nat :=
  3600 * time.hour + 60 * time.minute + time.second

/-- Whether a time is a time of day. -/
def isOfDay (time : Time) : Bool :=
  time.hour ≤ 23 && time.minute ≤ 59 && time.second ≤ 59

end Time

/-- Reads a time in the first `size` bytes of a text. Of a fraction six digits count. -/
def readTime? (text : List Nat) (size : Nat) : Option Time := do
  let (values, ending) ← readClock? 3 none text size
  let time (micros : Nat) (stray : Bool) : Time :=
    ⟨values.getD 0 0, values.getD 1 0, values.getD 2 0, micros, stray⟩
  match ending with
  | .complete stray => return time 0 stray
  | .fraction text size =>
    let digits := min 6 size
    let (value, rest) ← number? digits 0 text
    return time (value * Nat.pow 10 (6 - digits)) (front (rest.dropWhile isDigit) != 0)

/-- Reads an offset behind its sign. Less than a second is no offset. -/
def readOffset? (negative : Bool) (text : List Nat) : Option Offset := do
  let time ← readTime? text text.length
  if time.stray then
    none
  else if time.seconds = 0 then
    some .utc
  else
    let size : Int := time.seconds * secondMicros + time.micros
    Offset.ofMicros? (if negative then -size else size)

/-- Whether a byte starts a zone. -/
def startsZone (byte : Nat) : Bool :=
  byte == code '+' || byte == code '-' || byte == code 'Z'

/-- Reads a time and its zone. -/
def readZoned? (text : List Nat) : Option (Time × Option Offset) := do
  let size := (text.takeWhile (!startsZone ·)).length
  let time ← readTime? text size
  match text.drop size with
  | [] => if time.stray then none else some (time, none)
  | sign :: rest =>
    if sign = code 'Z' then
      if front rest = 0 then some (time, some .utc) else none
    else
      return (time, some (← readOffset? (sign == code '-') rest))

/-- The number of bytes of the character that starts with the given byte. -/
def characterSize (byte : Nat) : Nat :=
  if byte < 128 then 1 else if byte / 16 = 14 then 3 else if byte / 16 = 15 then 4 else 2

/-- The moment of a date and a time, when the time is a time of day. -/
def momentOf? (date : Date) (time : Time) (offset : Option Offset) : Option Moment :=
  let clock := time.seconds * secondMicros + time.micros
  if h : time.isOfDay ∧ clock < dayMicros then
    some ⟨date, clock, offset, h.2⟩
  else
    none

/-- Reads a text as a date, at midnight, or as a date and a time. -/
def read? (text : String) : Option Moment := do
  let text := bytes text
  let length ← dateLength? text
  let date ← readDate? text length
  match text.drop length with
  | [] => return .midnight date none
  | separator :: rest =>
    let (time, offset) ← readZoned? (rest.drop (characterSize separator - 1))
    momentOf? date time offset

end Iso

end BlockQuery.Calendar
