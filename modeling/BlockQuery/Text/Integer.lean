import BlockQuery.Text.Blank
import BlockQuery.Text.Digit

/-!
# Integers written by people

An integer may stand between blanks, carry a sign, use the digits of any script
and separate digits by single underscores. A run of more than `maxDigits` digits
is refused, whatever its value, and so is a number that would be written with so
many.
-/

namespace BlockQuery.Text

/-- The longest digit run that is converted to a number. -/
def maxDigits : Nat := 4300

/-- Why a text is not read as an integer. -/
inductive IntegerError
  /-- The text does not have the form of an integer. -/
  | malformed
  /-- The text has more than `maxDigits` digits. -/
  | tooLong (digits : Nat)
deriving DecidableEq, Repr

/-- The notice that goes with a digit run of the given length. -/
def tooLongMessage (digits : Nat) : String :=
  s!"Exceeds the limit ({maxDigits} digits) for integer string conversion: " ++
    s!"value has {digits} digits; use sys.set_int_max_str_digits() to increase the limit"

/-- Whether a number has few enough digits to be written. -/
def isWritable (n : Int) : Bool :=
  n.natAbs < Nat.pow 10 maxDigits

/-- The notice that goes with a number that has too many digits to be written. -/
def unwritableMessage : String :=
  s!"Exceeds the limit ({maxDigits} digits) for integer string conversion; " ++
    "use sys.set_int_max_str_digits() to increase the limit"

/-- Digits with at most one underscore between neighbours, underscores removed. -/
def ungroupDigits : List Char → Option (List Char)
  | [] => none
  | [c] => if isDigit c then some [c] else none
  | c :: '_' :: rest => if isDigit c then (ungroupDigits rest).map (c :: ·) else none
  | c :: rest => if isDigit c then (ungroupDigits rest).map (c :: ·) else none

/-- Whether a number starts with a minus sign, and what follows its sign. -/
def splitSign : List Char → Bool × List Char
  | '-' :: rest => (true, rest)
  | '+' :: rest => (false, rest)
  | rest => (false, rest)

/-- Whether a character may stand around a number. The four separator controls may not. -/
def isNumberBlank (c : Char) : Bool :=
  isBlank c && !(0x1C ≤ c.toNat && c.toNat ≤ 0x1F)

/-- The text without the blanks around a number. -/
def trimNumber (text : List Char) : List Char :=
  ((text.dropWhile isNumberBlank).reverse.dropWhile isNumberBlank).reverse

/-- Whether a character belongs to a digit run. -/
def isRunCharacter (c : Char) : Bool :=
  isDigit c || c == '_'

/-- Reads a whole text as an integer. The length of the digit run is looked at before what follows
it. -/
def readInteger (text : List Char) : Except IntegerError Int :=
  let (negative, rest) := splitSign (text.dropWhile isNumberBlank)
  match ungroupDigits (rest.takeWhile isRunCharacter) with
  | none => .error .malformed
  | some digits =>
    if maxDigits < digits.length then
      .error (.tooLong digits.length)
    else if (rest.dropWhile isRunCharacter).all isNumberBlank then
      .ok (if negative then -(decimal digits : Int) else decimal digits)
    else
      .error .malformed

end BlockQuery.Text
