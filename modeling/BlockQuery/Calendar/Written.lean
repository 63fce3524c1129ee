import BlockQuery.Calendar.Date
import BlockQuery.Calendar.MonthName
import BlockQuery.Text.Blank
import BlockQuery.Text.Digit
import BlockQuery.Text.Find
import BlockQuery.Text.Letter

/-!
# Written dates

A written date names its month or gives all three numbers: `January 5th, 2026`,
`5 Jan 2026`, `1/5/2026`, `2026/1/5`. Ordinal suffixes are dropped and blanks are
collapsed, and then the formats are tried in order. A format is a list of pieces;
each piece lists its possible readings at the front of the text, and the first
combination of readings that goes through all pieces is the reading of the format.
-/

namespace BlockQuery.Calendar.Written

/-! ### Ordinal suffixes -/

/-- Whether two characters are an ordinal suffix, in either case. The long s counts as an s. -/
def isOrdinalSuffix (a b : Char) : Bool :=
  let first := if a.toNat = 0x17F then 's' else Text.lower a
  (first, Text.lower b) ∈ [('s', 't'), ('n', 'd'), ('r', 'd'), ('t', 'h')]

/-- Whether a character belongs to a word, among those that can stand in a date. -/
def isWordCharacter (c : Char) : Bool :=
  Text.isLetter c || Text.isDigit c || c == '_'

/-- Whether a text starts outside a word. -/
def startsOutsideWord (text : List Char) : Bool :=
  !text.head?.any isWordCharacter

/-- The text without the ordinal suffixes that follow a digit and end a word. -/
def dropOrdinals : List Char → List Char
  | c :: a :: b :: rest =>
    if Text.isDigit c && isOrdinalSuffix a b && startsOutsideWord rest then
      c :: dropOrdinals rest
    else
      c :: dropOrdinals (a :: b :: rest)
  | short => short

/-! ### Pieces of a format -/

/-- A piece of a date format. -/
inductive Piece
  | monthName
  | shortMonthName
  | month
  | day
  | year
  /-- One or more blanks. -/
  | blanks
  | char (c : Char)
deriving DecidableEq, Repr

/-- The numbers of a date as they are read. -/
structure Fields where
  year : Nat := 0
  month : Nat := 0
  day : Nat := 0
deriving DecidableEq, Repr

/-- Whether a character is one of the ASCII digits between two bounds. -/
def isDigitIn (low high : Char) (c : Char) : Bool :=
  decide (low ≤ c) && decide (c ≤ high)

/-- The number that a run of digits denotes, with what follows it. -/
def numeral (length : Nat) (text : List Char) : Nat × List Char :=
  (Text.decimal (text.take length), text.drop length)

/-- A number of the given form at the front of the text. -/
def formed (form : List (Char → Bool)) (text : List Char) : Option (Nat × List Char) :=
  if form.length ≤ text.length ∧ (List.zipWith (fun test c => test c) form text).all id then
    some (numeral form.length text)
  else
    none

/-- The readings of a day: two digits, one digit, or a blank and one digit. -/
def dayReadings (text : List Char) : List (Nat × List Char) :=
  [formed [(· == '3'), isDigitIn '0' '1'] text,
   formed [isDigitIn '1' '2', Text.isDigit] text,
   formed [(· == '0'), isDigitIn '1' '9'] text,
   formed [isDigitIn '1' '9'] text,
   formed [(· == ' '), isDigitIn '1' '9'] text].filterMap id

/-- The readings of a month in numbers. -/
def monthReadings (text : List Char) : List (Nat × List Char) :=
  [formed [(· == '1'), isDigitIn '0' '2'] text,
   formed [(· == '0'), isDigitIn '1' '9'] text,
   formed [isDigitIn '1' '9'] text].filterMap id

/-- The readings of a month by one of the names that `nameOf` gives. -/
def nameReadings (nameOf : Nat → String) (text : List Char) : List (Nat × List Char) :=
  (List.range' 1 12).filterMap fun month =>
    let name := (nameOf month).toList
    (Text.dropStart? (name.map Char.toLower) (text.map Char.toLower)).map fun _ =>
      (month, text.drop name.length)

/-- The ways in which a piece can be read at the front of a text, in the order they are tried. -/
def Piece.readings (piece : Piece) (found : Fields) (text : List Char) :
    List (Fields × List Char) :=
  match piece with
  | monthName =>
    (nameReadings Calendar.monthName text).map fun (value, rest) =>
      ({ found with month := value }, rest)
  | shortMonthName =>
    (nameReadings Calendar.shortMonthName text).map fun (value, rest) =>
      ({ found with month := value }, rest)
  | month =>
    (monthReadings text).map fun (value, rest) => ({ found with month := value }, rest)
  | day => (dayReadings text).map fun (value, rest) => ({ found with day := value }, rest)
  | year =>
    (formed (List.replicate 4 Text.isDigit) text).toList.map fun (value, rest) =>
      ({ found with year := value }, rest)
  | blanks =>
    if text.head?.any Text.isBlank then [(found, Text.trimLeft text)] else []
  | char c => (Text.dropStart? [c] text).toList.map fun rest => (found, rest)

/-- The first way to read all pieces, with what is left of the text. -/
def readPieces : List Piece → Fields → List Char → Option (Fields × List Char)
  | [], found, text => some (found, text)
  | piece :: pieces, found, text =>
    (piece.readings found text).findSome? fun (found, rest) => readPieces pieces found rest

/-! ### Formats -/

/-- The formats in the order they are tried. -/
def formats : List (List Piece) :=
  [[.monthName, .blanks, .day, .char ',', .blanks, .year],
   [.shortMonthName, .blanks, .day, .char ',', .blanks, .year],
   [.monthName, .blanks, .day, .blanks, .year],
   [.shortMonthName, .blanks, .day, .blanks, .year],
   [.day, .blanks, .monthName, .blanks, .year],
   [.day, .blanks, .shortMonthName, .blanks, .year],
   [.month, .char '/', .day, .char '/', .year],
   [.year, .char '/', .month, .char '/', .day]]

/-- Reads a whole text in one format. -/
def readFormat (format : List Piece) (text : List Char) : Option Date :=
  match readPieces format {} text with
  | some (found, []) => Date.ofParts? found.year found.month found.day
  | _ => none

/-- The text as the formats see it. -/
def clean (text : List Char) : List Char :=
  Text.collapse (dropOrdinals text)

/-- Reads a text in the first format that accepts it. -/
def read? (text : List Char) : Option Date :=
  formats.findSome? fun format => readFormat format (clean text)

end BlockQuery.Calendar.Written
