import BlockQuery.Number.Decimal

/-!
# The shortest text of a number

A number is written with the fewest digits that read back as the same number; of
the texts with so many digits it takes the nearest. Numbers from a ten-thousandth
up to ten to the sixteenth are written in positions, the others with an exponent.
-/

namespace BlockQuery.Number

/-- The number of decimal digits of a number. -/
def digitCount (n : Nat) : Nat :=
  (Nat.toDigits 10 n).length

/-- The exponent of the leading decimal digit of a positive number. -/
def decimalExponent (x : Rat) : Int :=
  if 1 ≤ x then
    (digitCount x.floor.toNat : Int) - 1
  else
    -(digitCount ((1 / x).ceil.toNat - 1) : Int)

/-- The most digits that are needed to tell two numbers apart. -/
def mostDigits : Nat := 17

/-- The multiple of a unit that reads back as `x` and is nearest to it, a tie going to the even
one. -/
def nearestMultiple? (x unit : Rat) : Option Nat :=
  let below := (x / unit).floor.toNat
  let excess := x / unit - below
  let readsBack (count : Nat) : Bool := roundDouble (count * unit) == x
  match readsBack below, readsBack (below + 1) with
  | true, true =>
    some (if 2 * excess < 1 ∨ (2 * excess = 1 ∧ below % 2 = 0) then below else below + 1)
  | true, false => some below
  | false, true => some (below + 1)
  | false, false => none

/-- The digits of a positive number and the exponent of their last one. -/
def shortestDigits (x : Rat) : Nat × Int :=
  let leading := decimalExponent x
  let found := (List.range mostDigits).findSome? fun (more : Nat) =>
    let exponent := leading - (more : Int)
    (nearestMultiple? x ((10 : Rat) ^ exponent)).map (·, exponent)
  found.getD (0, 0)

/-- The digits without the zeros at the end, and the number of those zeros. -/
def splitZeros (digits : List Char) : List Char × Nat :=
  let zeros := (digits.reverse.takeWhile (· == '0')).length
  (digits.take (digits.length - zeros), zeros)

/-- An exponent with its sign and at least two digits. -/
def exponentText (exponent : Int) : List Char :=
  let digits := Nat.toDigits 10 exponent.natAbs
  (if exponent < 0 then '-' else '+') :: (List.replicate (2 - digits.length) '0' ++ digits)

/-- Digits with a point behind the first `places`, which may lie outside them. -/
def pointed (digits : List Char) (places : Int) : List Char :=
  if places ≤ 0 then
    ['0', '.'] ++ List.replicate places.natAbs '0' ++ digits
  else if digits.length ≤ places then
    digits ++ List.replicate (places.toNat - digits.length) '0' ++ ['.', '0']
  else
    digits.take places.toNat ++ '.' :: digits.drop places.toNat

/-- A positive number as text. -/
def positiveText (x : Rat) : List Char :=
  let (value, exponent) := shortestDigits x
  let (digits, zeros) := splitZeros (Nat.toDigits 10 value)
  let places : Int := exponent + zeros + digits.length
  if -4 < places ∧ places ≤ 16 then
    pointed digits places
  else
    let tail := digits.drop 1
    digits.take 1 ++ (if tail = [] then [] else '.' :: tail) ++ 'e' :: exponentText (places - 1)

/-- A number as text. -/
def Real.text : Real → String
  | finite value =>
    if value = 0 then "0.0"
    else if value < 0 then String.ofList ('-' :: positiveText (-value))
    else String.ofList (positiveText value)
  | negativeZero => "-0.0"
  | infinite negative => if negative then "-inf" else "inf"
  | undefined => "nan"

/-- Whether a number is not zero. -/
def Real.isNonzero : Real → Bool
  | finite value => value != 0
  | negativeZero => false
  | infinite _ | undefined => true

end BlockQuery.Number
