import BlockQuery.Number.Rounding
import BlockQuery.Text.Integer

/-!
# Decimal numbers as people write them

A decimal number has a sign, digits of any script with single underscores between
them, a point and an exponent; infinity and the number that is none have names.
The value is rounded to 53 significant bits, fewer for the smallest numbers, and
beyond the largest power of two it is infinite.
-/

namespace BlockQuery.Number

/-- A number with 53 significant bits, an infinity, or no number. -/
inductive Real
  | finite (value : Rat)
  /-- A zero that is written with a minus sign. -/
  | negativeZero
  | infinite (negative : Bool)
  | undefined
deriving DecidableEq, Repr

/-- The exponent from which on a number is infinite. -/
def overflowExponent : Int := 1024

/-- Digit exponents beyond this bound are infinite or zero whatever the other digits are. -/
def exponentBound : Int := 400

/-- The text with digits of all scripts in ASCII. -/
def plainDigits (text : List Char) : List Char :=
  text.map fun c =>
    match Text.digitValue? c with
    | some value => Char.ofNat (48 + value)
    | none => c

/-- Removes underscores that stand between digits; `before` is the character in front. -/
def ungroup (before : Option Char) : List Char → Option (List Char)
  | [] => some []
  | '_' :: rest =>
    if before.any Char.isDigit && rest.head?.any Char.isDigit then ungroup (some '_') rest else none
  | c :: rest => (ungroup (some c) rest).map (c :: ·)

/-- The digits at the front of a text and what follows them. -/
def spanDigits (text : List Char) : List Char × List Char :=
  (text.takeWhile Char.isDigit, text.dropWhile Char.isDigit)

/-- The exponent of a number, zero when there is none. -/
def readExponent : List Char → Option Int
  | [] => some 0
  | mark :: rest =>
    let (negative, digits) := Text.splitSign rest
    if (mark = 'e' ∨ mark = 'E') ∧ digits ≠ [] ∧ digits.all Char.isDigit then
      let size : Int := Text.decimal digits
      some (if negative then -size else size)
    else
      none

/-- The number of a size that is not negative and a sign. -/
def Real.ofSize (negative : Bool) (size : Rat) : Real :=
  if size = 0 then
    if negative then .negativeZero else .finite 0
  else if overflowExponent ≤ leadingExponent size then
    .infinite negative
  else
    .finite (if negative then -size else size)

/-- The rounded value of digits times a power of ten. -/
def scaled (negative : Bool) (digits : List Char) (exponent : Int) : Real :=
  let significant := digits.dropWhile (· == '0')
  let magnitude : Int := significant.length + exponent
  if significant = [] ∨ magnitude < -exponentBound then
    .ofSize negative 0
  else if exponentBound < magnitude then
    .infinite negative
  else
    .ofSize negative (roundDouble ((Text.decimal significant : Rat) * (10 : Rat) ^ exponent))

/-- Reads a number without its sign. -/
def readUnsigned (negative : Bool) (text : List Char) : Option Real :=
  match String.ofList (text.map Char.toLower) with
  | "inf" | "infinity" => some (.infinite negative)
  | "nan" => some .undefined
  | _ =>
    let (whole, rest) := spanDigits text
    let (places, rest) := match rest with
      | '.' :: rest => spanDigits rest
      | rest => ([], rest)
    if whole ++ places = [] then
      none
    else
      (readExponent rest).map fun exponent =>
        scaled negative (whole ++ places) (exponent - places.length)

/-- Reads a whole text as a number. -/
def readReal (text : List Char) : Option Real := do
  let plain ← ungroup none (plainDigits (Text.trimNumber text))
  let (negative, rest) := Text.splitSign plain
  readUnsigned negative rest

/-- A number that is not negative with six places. -/
def sixPlaces (value : Rat) : String :=
  let digits := Nat.toDigits 10 (roundHalfEven (value * 1000000)).toNat
  let padded := List.replicate (7 - digits.length) '0' ++ digits
  String.ofList (padded.take (padded.length - 6)) ++ "." ++
    String.ofList (padded.drop (padded.length - 6))

end BlockQuery.Number
